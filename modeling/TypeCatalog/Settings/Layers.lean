import TypeCatalog.Settings.Environment
import TypeCatalog.Settings.OfJson
import TypeCatalog.Yaml.Content

/-!
# Settings in layers

The settings of the command line come from three layers: the defaults, a YAML file, and environment
variables. A later layer overrides an earlier one field by field.
-/

namespace TypeCatalog.Settings

/-! ### Origins and faults -/

/-- The layer that a node comes from. -/
inductive Origin where
  /-- The settings file at a path. -/
  | file (path : String)
  | environment
  /-- No layer that is known. -/
  | unknown
  deriving DecidableEq, Repr

/-- Why the layers give no settings. -/
inductive LayerError where
  /-- The file cannot be read. -/
  | unreadable (path reason : String)
  /-- The file is no text. -/
  | notText (path : String)
  /-- The text of the file gives no fields. -/
  | yaml (path : String) (f : Yaml.Fault)
  /-- The layers together are ill typed. -/
  | fault (f : Fault Origin)

/-- What was found, in the words of layers. -/
def Found.layerText : Found → String
  | .scalar .unit => "unit"
  | .scalar (.bool b) => s!"bool {b}"
  | .scalar (.unsigned n) => (Scalar.unsigned n).wideText?.getD s!"unsigned int `{n}`"
  | .scalar (.signed n) => (Scalar.signed n).wideText?.getD s!"signed int `{n}`"
  | .scalar (.float x) => s!"float `{Decimal.plain x}`"
  | .scalar (.text s) => s!"string {Text.quoted s}"
  | .list => "sequence"
  | .dict => "map"

/-- Why a node is refused. -/
def Cause.layerMessage : Cause → String
  | .wrongType found expected =>
    s!"invalid type: found {found.layerText}, expected {expected.text}"
  | .unknownField name known => s!"unknown field: found `{name}`, expected `{alternatives known}`"
  | .tooManyElements count =>
    s!"invalid length {count}"

/-- The path of a file as it is shown: steps of a relative path that lead nowhere are left out. -/
def shownPath (path : String) : String :=
  let steps := (path.toList.splitOn '/').filter fun step => step != [] && step != ['.']
  if path.toList.head? == some '/' then path else String.ofList (['/'].intercalate steps)

/-- The layer behind a message. -/
def Origin.text : Origin → String
  | .file path => s!" in {shownPath path} YAML file"
  | .environment => " in `REGISTRY_INSPECT__` environment variable(s)"
  | .unknown => ""

/-- The path to a node behind a message, in the spelling of its layer; the path to the root is not
told. -/
def Origin.pathText (o : Origin) (path : List String) : String :=
  let shown (keys : List String) := " for key " ++ Text.quoted (String.intercalate "." keys)
  let upper (key : String) := String.ofList (key.toList.map Char.toUpper)
  if path.isEmpty then ""
  else match o with
    | .file _ => shown ("default" :: path)
    | .environment => shown (path.map upper)
    | .unknown => ""

/-- How many of the low bits of a number tell an origin. -/
def originBits : Nat := 62

/-- The origin that a number stands for in the settings file at a path. The layers are numbered in
their order, and zero stands for the file itself. -/
def Origin.ofNumber (path : String) (number : Nat) : Origin :=
  if number = 0 then .file path
  else match number % Nat.pow 2 originBits with
    | 1 => .file path
    | 2 => .environment
    | _ => .unknown

/-- The wording of the error. -/
def LayerError.message : LayerError → String
  | .unreadable path reason => reason ++ (Origin.file path).text
  | .notText path => s!"stream did not contain valid UTF-8{(Origin.file path).text}"
  | .yaml path f => s!"{f.message}{(Origin.file path).text}"
  | .fault f => s!"{f.cause.layerMessage}{f.origin.pathText f.path}{f.origin.text}"

/-! ### Layering -/

/-- The layer of a settings file; a file that says nothing is an empty layer. -/
def fileLayer (path : String) (content : ByteArray) : Except LayerError (Tree Origin) :=
  match String.fromUTF8? content with
  | none => .error (.notText path)
  | some text =>
    match (Yaml.Document.ofText text).fields (Origin.file path) (Origin.ofNumber path) with
    | .error f => .error (.yaml path f)
    | .ok fields => .ok (.dict (.file path) fields)

/-- The settings that the layers give together; there need not be a settings file. -/
def ofLayers (file : Option (String × ByteArray)) (environment : List (String × String)) :
    Except LayerError Settings := do
  let lower ← match file with
    | none => pure (.dict .environment [])
    | some (path, content) => fileLayer path content
  let merged := lower.merge (Environment.layer .environment environment)
  ((rootRecord Origin).decode false {} merged).mapError .fault

end TypeCatalog.Settings
