import TypeCatalog.Json.Printer
import TypeCatalog.Kind
import TypeCatalog.Settings.Decode
import TypeCatalog.Text.Quoted

/-!
# Settings and kinds from JSON values
-/

namespace TypeCatalog

namespace Settings

/-! ### Trees -/

/-- The scalar that an integer is. -/
def Scalar.ofInt : Int → Scalar
  | .ofNat n => .unsigned n
  | .negSucc n => .signed (.negSucc n)

mutual

/-- A JSON value as a tree; its nodes have no origin. -/
def Tree.ofJson : Json → Tree Unit
  | .null => .scalar () .unit
  | .bool b => .scalar () (.bool b)
  | .int n => .scalar () (.ofInt n)
  | .float x => .scalar () (.float x)
  | .str s => .scalar () (.text s)
  | .arr items => .list () (Tree.ofItems items)
  | .obj fields => .dict () (Tree.ofFields fields)

/-- JSON values as trees. -/
def Tree.ofItems : List Json → List (Tree Unit)
  | [] => []
  | v :: vs => Tree.ofJson v :: Tree.ofItems vs

/-- JSON fields as fields of a tree. -/
def Tree.ofFields : List (String × Json) → List (String × Tree Unit)
  | [] => []
  | (key, v) :: rest => (key, Tree.ofJson v) :: Tree.ofFields rest

end

/-! ### Wording -/

/-- Alternatives, each in backticks. -/
def alternatives (names : List String) : String :=
  let quote (name : String) := "`" ++ name ++ "`"
  match names with
  | [name] => quote name
  | names => "one of " ++ String.intercalate ", " (names.map quote)

/-- What was found, in the words of JSON. -/
def Found.jsonText : Found → String
  | .scalar .unit => "null"
  | .scalar (.bool b) => s!"boolean `{b}`"
  | .scalar (.unsigned n) => s!"integer `{n}`"
  | .scalar (.signed n) => s!"integer `{n}`"
  | .scalar (.float x) => s!"floating point `{String.ofList (Json.floatText x)}`"
  | .scalar (.text s) => s!"string {Text.quoted s}"
  | .list => "sequence"
  | .dict => "map"

/-- Why a JSON value holds no settings. -/
def Cause.jsonMessage : Cause → String
  | .wrongType found expected => s!"invalid type: {found.jsonText}, expected {expected.text}"
  | .unknownField name known => s!"unknown field `{name}`, expected {alternatives known}"
  | .tooManyElements count =>
    s!"invalid length {count}, expected fewer elements in array"

/-- The settings that a JSON value holds. -/
def ofJson (v : Json) : Except Cause Settings :=
  ((loadRecord Unit).decode true {} (Tree.ofJson v)).mapError Fault.cause

end Settings

namespace Kind

/-! ### Kinds -/

/-- Why a JSON value is no kind. -/
inductive ValueFault where
  | unknown (text : String)
  /-- The key of an object names a kind, but its value is not null. -/
  | notNull (found : Settings.Found)
  /-- An object must have exactly one key. -/
  | notSingleKey
  | wrongType (found : Settings.Found)

/-- The wording of the fault. -/
def ValueFault.message : ValueFault → String
  | .unknown text =>
    s!"unknown variant `{text}`, expected {Settings.alternatives (Kind.all.map Kind.text)}"
  | .notNull found => s!"invalid type: {found.jsonText}, expected unit"
  | .notSingleKey => "invalid value: map, expected map with a single key"
  | .wrongType found => s!"invalid type: {found.jsonText}, expected string or map"

/-- The kind a text names. -/
def ofVariant (text : String) : Except ValueFault Kind :=
  match ofText? text with
  | some kind => .ok kind
  | none => .error (.unknown text)

/-- The kind that a JSON value stands for: its text, or an object with that text as its only key
and null under it. -/
def ofJson : Json → Except ValueFault Kind
  | .str text => ofVariant text
  | .obj [(key, v)] =>
    match ofVariant key, v with
    | .ok kind, .null => .ok kind
    | .ok _, v => .error (.notNull (Settings.Tree.ofJson v).found)
    | .error fault, _ => .error fault
  | .obj _ => .error .notSingleKey
  | v => .error (.wrongType (Settings.Tree.ofJson v).found)

end Kind
end TypeCatalog
