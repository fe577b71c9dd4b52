import TypeCatalog.Inspect.Arguments
import TypeCatalog.Inspect.Style

/-!
# Help

What the program tells about its commands, their words and their options.
-/

namespace TypeCatalog.Inspect

/-! ### Commands -/

/-- The word that names a command. -/
def CommandName.word : CommandName → String
  | .check => "check"
  | .packages => "packages"
  | .types => "types"
  | .describe => "show"
  | .dump => "dump"

/-- What a command does. -/
def CommandName.about : CommandName → String
  | .check => "Load the snapshot and report whether it is usable"
  | .packages => "List declared packages with their type counts"
  | .types => "List types in snapshot order"
  | .describe => "Show one type by qualified name (e.g. `marionette.platform.Color`)"
  | .dump => "Re-emit the snapshot in canonical form"

/-- The commands in the order of the help. -/
def CommandName.all : List CommandName := [.check, .packages, .types, .describe, .dump]

/-- What a word of a command is. -/
def aboutParameter (parameter : String) : String :=
  if parameter = "PATH" then "Snapshot file"
  else "Qualified type name; the last segment is the type name"

/-! ### Options -/

/-- What an option does. -/
def Switch.about : Switch → String
  | .config => "Path to a YAML configuration file"
  | .verbose => "Log verbosity level (-v info, -vv debug, -vvv trace)"
  | .json => "Output results as JSON"
  | .help => "Print help"
  | .version => "Print version"
  | .package => "Only types declared in this package"
  | .kind => "Only types of this kind (Class, Interface, Enum, AbstractClass)"
  | .variableName => "Wrap the output as a JavaScript assignment to this variable"

/-- What stands behind the word of an option: its value, or that it may be repeated. -/
def Switch.usage : Switch → String
  | .config => " <CONFIG>"
  | .package => " <PACKAGE>"
  | .kind => " <KIND>"
  | .variableName => " <VAR>"
  | .verbose => "..."
  | .json | .help | .version => ""

/-- An option as it is written. -/
def Switch.shown (s : Switch) : String :=
  let short := match s.short? with
    | some letter => s!"-{letter}, "
    | none => "    "
  short ++ "--" ++ s.long ++ s.usage

/-! ### Texts -/

/-- A section of rows, where what is told about them is one column. -/
def helpSection (title : String) (rows : List (String × String)) : String :=
  let width := (rows.map fun row => row.1.length).foldl max 0
  s!"\n{title}:\n" ++ String.join (rows.map fun row =>
    "  " ++ String.ofList (padTo width row.1.toList) ++ "  " ++ row.2 ++ "\n")

/-- The section of the options that are understood before the command, or behind it. -/
def optionSection (place : Option CommandName) : String :=
  helpSection "Options" ((switches place).map fun s => (s.shown, s.about))

/-- What the program does. -/
def programAbout : String :=
  "Inspect reflection registry snapshots: validate, list packages and types, re-emit"

/-- How help is asked for. -/
def helpAbout : String := "Print this message or the help of the given subcommand(s)"

/-- The help about a topic. -/
def Topic.text : Topic → String
  | .program =>
    programAbout ++ "\n\nUsage: registry-inspect [OPTIONS] <COMMAND>\n" ++
      helpSection "Commands"
        (CommandName.all.map (fun name => (name.word, name.about)) ++ [("help", helpAbout)]) ++
      optionSection none
  | .command name =>
    let parameters := name.parameters.map fun parameter => s!"<{parameter}>"
    name.about ++ s!"\n\nUsage: registry-inspect {name.word} [OPTIONS] " ++
      String.intercalate " " parameters ++ "\n" ++
      helpSection "Arguments" (parameters.zip (name.parameters.map aboutParameter)) ++
      optionSection (some name)
  | .help =>
    helpAbout ++ "\n\nUsage: registry-inspect help [COMMAND]...\n" ++
      helpSection "Arguments" [("[COMMAND]...", "Print help for the subcommand(s)")]

end TypeCatalog.Inspect
