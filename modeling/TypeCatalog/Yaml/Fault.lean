import TypeCatalog.Decimal.Shortest
import TypeCatalog.Settings.Tree
import TypeCatalog.Text.Quoted
import TypeCatalog.Yaml.Place

/-!
# Faults of YAML texts

Why a YAML text gives no settings, and at which place and under which path.
-/

namespace TypeCatalog.Yaml

/-! ### Paths -/

/-- A step from a node to one inside it. -/
inductive Step where
  | key (name : String)
  | index (pos : Nat)
  /-- The value of a key that is written as an alias. -/
  | unnamed
  deriving DecidableEq, Repr

/-- The steps from the root to a node. -/
abbrev Path := List Step

/-- A path in writing, behind the writing of a path to its start. -/
def Path.textFrom (start : String) : Path → String
  | [] => start
  | step :: rest =>
    let front := if start = "." then "" else start ++ "."
    Path.textFrom (match step with
      | .key name => front ++ name
      | .index pos => s!"{start}[{pos}]"
      | .unnamed => front ++ "?") rest

/-- A path in writing; the root is a point. -/
def Path.text (path : Path) : String := Path.textFrom "." path

/-! ### Faults -/

/-- Why a node cannot be read. -/
inductive Misread where
  /-- The root has to be a dictionary. -/
  | notDict (found : Settings.Found)
  /-- A key has to be a scalar. -/
  | notScalar (found : Settings.Found)
  /-- A scalar is not of the type that its tag tells. -/
  | notTyped (text expected : String)
  /-- A node has to be the number of an origin; nothing is told of one with a tag of its own. -/
  | notOrigin (found : Option Settings.Found)
  deriving DecidableEq

/-- Why a YAML text gives no settings. -/
inductive Fault where
  /-- The text is no YAML. -/
  | malformed
  /-- An alias stands for nothing. -/
  | unknownAnchor (place : Place)
  /-- Collections are nested too deep. -/
  | tooDeep (place : Place)
  /-- Aliases are followed too often. -/
  | tooManyAliases
  /-- The text goes on behind its document. -/
  | secondDocument
  | misread (path : Path) (place : Place) (why : Misread)
  deriving DecidableEq

/-- What was found. -/
def foundText : Settings.Found → String
  | .scalar .unit => "unit value"
  | .scalar (.bool b) => s!"boolean `{b}`"
  | .scalar (.unsigned n) => (Settings.Scalar.unsigned n).wideText?.getD s!"integer `{n}`"
  | .scalar (.signed n) => (Settings.Scalar.signed n).wideText?.getD s!"integer `{n}`"
  | .scalar (.float x) =>
    let digits := Decimal.plain x
    let point := if x.isFinite && !digits.toList.contains '.' then ".0" else ""
    s!"floating point `{digits}{point}`"
  | .scalar (.text s) => s!"string {Text.quoted s}"
  | .list => "sequence"
  | .dict => "map"

/-- The wording of the reason. -/
def Misread.message : Misread → String
  | .notDict found => s!"invalid type: {foundText found}, expected a map"
  | .notScalar found => s!"invalid type: {foundText found}, expected a string"
  | .notTyped text expected => s!"invalid value: string {Text.quoted text}, expected {expected}"
  | .notOrigin found =>
    let word := (found.map foundText).getD "enum"
    s!"invalid type: {word}, expected a 64-bit metadata id integer"

/-- A place behind a message, counted from one; the start of the text is not told. -/
def Place.text (p : Place) : String :=
  if p.line = 0 ∧ p.column = 0 then "" else s!" at line {p.line + 1} column {p.column + 1}"

/-- The wording of the fault. -/
def Fault.message : Fault → String
  | .malformed => "invalid YAML"
  | .unknownAnchor place => "unknown anchor" ++ place.text
  | .tooDeep place => "recursion limit exceeded" ++ place.text
  | .tooManyAliases => "repetition limit exceeded"
  | .secondDocument => "deserializing from YAML containing more than one document is not supported"
  | .misread path place why =>
    let front := if path.text = "." then "" else path.text ++ ": "
    front ++ why.message ++ place.text

end TypeCatalog.Yaml
