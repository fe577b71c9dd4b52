import TypeCatalog.Yaml.Fault
import TypeCatalog.Yaml.Scalar.Value
import TypeCatalog.Yaml.Tag

/-!
# Scalars with tags

The standard tags tell the types of scalars. A tag of its own names what stands under it.
-/

namespace TypeCatalog.Yaml

/-- The standard tag of a type. -/
def typeTag (name : String) : TagBytes := TagBytes.ofText ("tag:yaml.org,2002:" ++ name)

/-- The byte that a tag of its own starts with. -/
def ownTagStart : UInt8 := '!'.toUInt8

/-- The value of a scalar that its tag gives a type. -/
def typedValue (tag : TagBytes) (isPlain : Bool) (text : String) :
    Except Misread Settings.Scalar :=
  let check (expected : String) (value : Option Settings.Scalar) :=
    match value with
    | some s => Except.ok s
    | none => .error (.notTyped text expected)
  if tag = typeTag "bool" then check "a boolean" ((boolean? text).map .bool)
  else if tag = typeTag "int" then check "an integer" (integer? text.toList)
  else if tag = typeTag "float" then check "a float" ((float? text.toList).map .float)
  else if tag = typeTag "null" then check "null" (if isNull text then some .unit else none)
  else if isPlain && tag.head? == some ownTagStart then .ok (plainValue text)
  else .ok (.text text)

/-- The value of a scalar. -/
def scalarValue (tag : Option TagBytes) (isPlain : Bool) (text : String) :
    Except Misread Settings.Scalar :=
  match tag with
  | some tag => typedValue tag isPlain text
  | none => .ok (if isPlain then plainValue text else .text text)

/-- The name in a tag of its own, which has to be a text. -/
def ownName? : Option TagBytes → Option String
  | some (start :: name) =>
    if start != ownTagStart then none
    else if name.isEmpty then some "!"
    else TagBytes.text? name
  | _ => none

/-- The keys that a name is a path of, with points between them; the path ends at an empty key. -/
def pathKeys (name : String) : List String :=
  ((name.toList.splitOn '.').takeWhile fun key => !key.isEmpty).map String.ofList

end TypeCatalog.Yaml
