import TypeCatalog.Inspect.Arguments
import TypeCatalog.Inspect.Directory
import TypeCatalog.Inspect.Help
import TypeCatalog.Inspect.Log
import TypeCatalog.Inspect.Report
import TypeCatalog.Settings.Layers
import TypeCatalog.Snapshot.Load
import TypeCatalog.Snapshot.Text

/-!
# Runs of the command line

A run depends on its arguments, the files it may read and the environment, and gives an exit code
and two texts. It exits with 0 if the question was answered or help was asked for, with 1 if the
settings or the snapshot are not usable or a type was not found, and with 2 if the arguments are
not understood.
-/

namespace TypeCatalog.Inspect

/-- The name and version of the program. -/
def versionLine : String := "registry-inspect 0.2.8\n"

/-! ### Surroundings and outcomes -/

/-- What a run depends on besides its arguments. -/
structure Surroundings where
  /-- What stands at a path. -/
  files : String → Node
  /-- The variables in the order in which the system gives them. -/
  environment : List (String × String)
  /-- Whether standard output is a terminal. -/
  terminal : Bool

/-- What reading a path gives. -/
def Surroundings.read (s : Surroundings) (path : String) : Except FileError ByteArray :=
  (s.files path).content

/-- What a run gives. -/
structure Outcome where
  exit : Nat
  stdout : String
  stderr : String
  deriving DecidableEq, Repr

/-! ### Events -/

/-- What happens in a run. -/
inductive Event where
  | configured (settings : Settings)
  | fileRead (path : String) (bytes : Nat)
  | loading (e : Snapshot.Event)
  /-- A check found the snapshot not usable. -/
  | rejected (path error : String)

/-- A list of texts, quoted, in brackets. -/
def textList (texts : List String) : String :=
  "[" ++ String.intercalate ", " (texts.map Text.quoted) ++ "]"

/-- The settings as the log shows them. -/
def settingsText (s : Settings) : String :=
  "InspectConfig \x7b registry: RegistryConfig \x7b documents_field_aliases: " ++
    textList s.documentAliases ++ ", reject_unknown_fields: " ++ toString s.rejectUnknownFields ++
    ", immutable_provenance_markers: " ++ textList s.provenanceMarkers ++ " \x7d \x7d"

/-- The event as it is logged. -/
def Event.record : Event → Record
  | .configured settings =>
    ⟨.debug, "registry_inspect", "configuration loaded",
      [("config", .text (settingsText settings))]⟩
  | .fileRead path bytes =>
    ⟨.debug, "reflection_registry::infra::source", "read snapshot file",
      [("path", .text path), ("bytes", .count bytes)]⟩
  | .loading e => ⟨e.level, "reflection_registry::domain::loader", e.message, e.fields⟩
  | .rejected path error =>
    ⟨.warn, "registry_inspect", "snapshot rejected",
      [("path", .text path), ("error", .text error)]⟩

/-! ### Failures -/

/-- Why a snapshot file is not usable. -/
inductive SnapshotError where
  | file (path : String) (e : FileError)
  | text (e : Snapshot.TextError)
  | load (e : LoadError)
  deriving DecidableEq, Repr

/-- The wording of the error. -/
def SnapshotError.message : SnapshotError → String
  | .file path e => s!"Failed to read snapshot `{path}`: {e.message}"
  | .text e => e.message
  | .load e => e.message

/-- The wording of the error followed by that of its cause. -/
def SnapshotError.chain : SnapshotError → String
  | .file path e => s!"Failed to read snapshot `{path}`: {e.message}: {e.message}"
  | .text e => e.message
  | .load e => e.message

/-- Why a run ends early. -/
inductive RunError where
  | noConfigFile (path : String)
  | settings (e : Settings.LayerError)
  | snapshot (path : String) (e : SnapshotError)
  | notQualified (name : String)

/-- The wording of the error. -/
def RunError.message : RunError → String
  | .noConfigFile path => s!"config file does not exist: {path}"
  | .settings e => s!"failed to load registry-inspect configuration: {e.message}"
  | .snapshot path (.load e) => s!"snapshot `{path}` is not usable: {e.message}"
  | .snapshot _ e => e.chain
  | .notQualified name => s!"`{name}` is not a qualified name (expected `package.Name`)"

/-! ### Steps of a run -/

/-- The settings of a run. Only a regular file counts as settings file. -/
def settingsOf (s : Surroundings) (i : Invocation) : Except RunError Settings :=
  match i.config with
  | none => (Settings.ofLayers none s.environment).mapError .settings
  | some path =>
    if (s.files path).isFile then
      match s.read path with
      | .error e => .error (.settings (.unreadable path e.message))
      | .ok content => (Settings.ofLayers (some (path, content)) s.environment).mapError .settings
    else .error (.noConfigFile path)

/-- The text of the snapshot file. -/
def textOf (s : Surroundings) (path : String) : Except SnapshotError String :=
  match s.read path with
  | .error e => .error (.file path e)
  | .ok content =>
    match String.fromUTF8? content with
    | none => .error (.file path .notText)
    | some text => .ok text

/-- The catalog of the snapshot file. -/
def catalogOf (s : Surroundings) (settings : Settings) (path : String) :
    Traced Event SnapshotError Catalog := do
  let text ← Traced.lift (textOf s path)
  Traced.note (.fileRead path text.utf8ByteSize)
  let value ← Traced.lift ((Snapshot.read text).mapError .text)
  (Snapshot.load settings value).mapBoth .loading .load

/-- The types that a listing shows. -/
def listed (c : Catalog) (package : Option String) (kind : Option Kind) : List Descriptor :=
  let ofPackage := match package with
    | some p => c.typesIn p
    | none => c.types
  match kind with
  | some k => ofPackage.filter fun d => d.kind = k
  | none => ofPackage

/-- The answer of a command about a catalog: the exit code and the report. -/
def answer (m : Manner) (path : String) (c : Catalog) :
    Command → Except RunError (Nat × String)
  | .check => .ok (0, Report.usable m path c)
  | .packages => .ok (0, Report.packages m c)
  | .types package kind => .ok (0, Report.types m (listed c package kind))
  | .describe name =>
    match QualifiedName.parse? name with
    | none => .error (.notQualified name)
    | some q =>
      match c.find? q with
      | some d => .ok (0, Report.detail m d)
      | none => .ok (1, Report.absent m q)
  | .dump (some name) => .ok (0, Snapshot.toDeclaration c name)
  | .dump none => .ok (0, Report.jsonLines (Snapshot.toValue c))

/-- The answer of a command about a snapshot file. A check reports that a file is not usable, any
other command fails then. -/
def execute (s : Surroundings) (m : Manner) (settings : Settings) (path : String)
    (command : Command) : Traced Event RunError (Nat × String) :=
  let loaded := catalogOf s settings path
  match loaded.outcome, command with
  | .ok c, command => ⟨loaded.events, answer m path c command⟩
  | .error e, .check =>
    ⟨loaded.events ++ [.rejected path e.message], .ok (1, Report.unusable m path e.chain)⟩
  | .error e, _ => ⟨loaded.events, .error (.snapshot path e)⟩

/-- An invocation from its settings to its answer. -/
def perform (s : Surroundings) (i : Invocation) : Traced Event RunError (Nat × String) := do
  let settings ← Traced.lift (settingsOf s i)
  Traced.note (.configured settings)
  execute s ⟨i.json, wantsColour s.environment s.terminal⟩ settings i.path i.command

/-! ### Runs -/

/-- What an invocation gives. -/
def runInvocation (s : Surroundings) (i : Invocation) : Outcome :=
  let done := perform s i
  let log := logText (filterOf s.environment i.verbosity) (done.events.map Event.record)
  match done.outcome with
  | .ok (exit, report) => ⟨exit, report, log⟩
  | .error e => ⟨1, "", log ++ Report.line ("Error: " ++ e.message)⟩

/-- What a run with these arguments gives. -/
def run (s : Surroundings) (args : List String) : Outcome :=
  match Invocation.ofArguments args with
  | .ok i => runInvocation s i
  | .error .version => ⟨0, versionLine, ""⟩
  | .error (.help topic) => ⟨0, topic.text, ""⟩
  | .error .usage => ⟨2, "", "error: the arguments are not understood\n"⟩

end TypeCatalog.Inspect
