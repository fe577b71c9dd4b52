import TypeCatalog.Kind

/-!
# Arguments of the command line

A run names one command with a snapshot file. Some options are understood before and behind the
command; where they are given at both places, those behind it count. A run may also ask for help, as
a whole or about a command.
-/

namespace TypeCatalog.Inspect

/-! ### Invocations -/

/-- What is asked about a snapshot file. -/
inductive Command where
  | check
  | packages
  /-- List the types, perhaps of one package or one kind only. -/
  | types (package : Option String) (kind : Option Kind)
  /-- Show the type with a qualified name. -/
  | describe (name : String)
  /-- Write the snapshot anew, perhaps as the value of a declared variable. -/
  | dump (variableName : Option String)
  deriving DecidableEq, Repr

/-- What a run is asked to do. -/
structure Invocation where
  /-- The settings file. -/
  config : Option String
  /-- How often more log output was asked for. -/
  verbosity : Nat
  /-- Whether answers are JSON. -/
  json : Bool
  /-- The snapshot file. -/
  path : String
  command : Command
  deriving DecidableEq, Repr

/-- The commands by their names. -/
inductive CommandName where
  | check
  | packages
  | types
  | describe
  | dump
  deriving DecidableEq, Repr

/-- The command that a word names. -/
def CommandName.ofWord? : String → Option CommandName
  | "check" => some .check
  | "packages" => some .packages
  | "types" => some .types
  | "show" => some .describe
  | "dump" => some .dump
  | _ => none

/-- The words that a command takes. -/
def CommandName.parameters : CommandName → List String
  | .describe => ["PATH", "QUALIFIED_NAME"]
  | _ => ["PATH"]

/-- What help is about. -/
inductive Topic where
  | program
  | command (name : CommandName)
  /-- The way to ask for help. -/
  | help
  deriving DecidableEq, Repr

/-- What arguments ask for if they ask for no command. -/
inductive Refusal where
  | version
  | help (topic : Topic)
  /-- The arguments are not understood. -/
  | usage
  deriving DecidableEq, Repr

/-! ### Options -/

/-- The options. -/
inductive Switch where
  | config
  | verbose
  | json
  | help
  | version
  | package
  | kind
  | variableName
  deriving DecidableEq, Repr

/-- Whether a value follows the option. -/
def Switch.takesValue : Switch → Bool
  | .config | .package | .kind | .variableName => true
  | .verbose | .json | .help | .version => false

/-- The word behind two dashes. -/
def Switch.long : Switch → String
  | .config => "config"
  | .verbose => "verbose"
  | .json => "json"
  | .help => "help"
  | .version => "version"
  | .package => "package"
  | .kind => "kind"
  | .variableName => "js"

/-- The letter behind one dash. -/
def Switch.short? : Switch → Option Char
  | .config => some 'c'
  | .verbose => some 'v'
  | .help => some 'h'
  | .version => some 'V'
  | .package => some 'p'
  | .kind => some 'k'
  | .json | .variableName => none

/-- The options that are understood before the command, or behind it. -/
def switches : Option CommandName → List Switch
  | none => [.config, .verbose, .json, .help, .version]
  | some .types => [.config, .package, .kind, .verbose, .json, .help]
  | some .dump => [.config, .variableName, .verbose, .json, .help]
  | some _ => [.config, .verbose, .json, .help]

/-! ### Collecting -/

/-- What was read of the arguments at one place. -/
structure Collected where
  config : Option String := none
  verbose : Nat := 0
  json : Bool := false
  package : Option String := none
  kind : Option Kind := none
  variableName : Option String := none
  /-- The words that belong to no option, last one first. -/
  words : List String := []

namespace Collected

/-- A value that may be given once. -/
def once {α : Type} (before : Option α) (value : α) : Except Refusal (Option α) :=
  match before with
  | some _ => .error .usage
  | none => .ok (some value)

/-- Takes an option with its value. -/
def setValue (c : Collected) (s : Switch) (value : String) : Except Refusal Collected :=
  match s with
  | .config =>
    if value.isEmpty then .error .usage
    else (once c.config value).map fun v => { c with config := v }
  | .package => (once c.package value).map fun v => { c with package := v }
  | .kind =>
    match Kind.ofText? value with
    | some kind => (once c.kind kind).map fun v => { c with kind := v }
    | none => .error .usage
  | .variableName => (once c.variableName value).map fun v => { c with variableName := v }
  | _ => .error .usage

/-- Takes an option without a value. -/
def setFlag (c : Collected) (s : Switch) : Except Refusal Collected :=
  match s with
  | .verbose => .ok { c with verbose := c.verbose + 1 }
  | .json => if c.json then .error .usage else .ok { c with json := true }
  | .help => .error (.help .program)
  | .version => .error .version
  | _ => .error .usage

end Collected

/-- What an argument with dashes does. -/
inductive Taken where
  | done (c : Collected)
  /-- The option waits for its value. -/
  | waiting (c : Collected) (s : Switch)

/-- Takes the option behind two dashes. -/
def takeLong (known : List Switch) (c : Collected) (body : List Char) : Except Refusal Taken :=
  let name := String.ofList (body.takeWhile (· != '='))
  match known.find? fun s => s.long == name, body.dropWhile (· != '=') with
  | none, _ => .error .usage
  | some s, '=' :: value =>
    if s.takesValue then (c.setValue s (String.ofList value)).map .done else .error .usage
  | some s, _ => if s.takesValue then .ok (.waiting c s) else (c.setFlag s).map .done

/-- Takes the letters behind one dash; behind an option that takes a value stands that value. -/
def takeShort (known : List Switch) (c : Collected) : List Char → Except Refusal Taken
  | [] => .ok (.done c)
  | letter :: rest =>
    match known.find? fun s => s.short? == some letter with
    | none => .error .usage
    | some s =>
      if s.takesValue then
        match rest with
        | [] => .ok (.waiting c s)
        | '=' :: value => (c.setValue s (String.ofList value)).map .done
        | value => (c.setValue s (String.ofList value)).map .done
      else
        match c.setFlag s with
        | .ok c => takeShort known c rest
        | .error r => .error r

/-- Whether an argument has dashes that make it an option or the end of options. -/
def isDashed (arg : String) : Bool :=
  match arg.toList with
  | '-' :: _ :: _ => true
  | _ => false

/-- Takes an argument with dashes. -/
def takeDashed (known : List Switch) (c : Collected) (arg : String) : Except Refusal Taken :=
  match arg.toList with
  | '-' :: '-' :: body => takeLong known c body
  | '-' :: letters => takeShort known c letters
  | _ => .error .usage

/-! ### The whole line -/

/-- Whether the command takes the words so far, last one first. -/
def CommandName.admits (name : CommandName) (words : List String) : Bool :=
  decide (words.length ≤ name.parameters.length) && words.getLast? != some ""

/-- What a refusal behind a command and some words is about: help is help about the command. -/
def Refusal.behind (name : CommandName) (words : List String) : Refusal → Refusal
  | .help _ => if name.admits words then .help (.command name) else .usage
  | r => r

/-- Reads the arguments behind a command. -/
def collectBehind (name : CommandName) (c : Collected) : List String → Except Refusal Collected
  | [] => .ok c
  | arg :: rest =>
    if arg = "--" then .ok { c with words := rest.reverse ++ c.words }
    else if isDashed arg then
      match takeDashed (switches (some name)) c arg, rest with
      | .error r, _ => .error (r.behind name c.words)
      | .ok (.done c), rest => collectBehind name c rest
      | .ok (.waiting _ _), [] => .error .usage
      | .ok (.waiting c s), value :: rest =>
        if isDashed value then .error .usage
        else match c.setValue s value with
          | .ok c => collectBehind name c rest
          | .error r => .error r
    else collectBehind name { c with words := arg :: c.words } rest

/-- The command line that starts with what was read before and behind a command. -/
def Invocation.ofCollected (name : CommandName) (before behind : Collected) :
    Except Refusal Invocation :=
  let make (path : String) (command : Command) : Except Refusal Invocation :=
    if path.isEmpty then .error .usage
    else .ok {
      config := behind.config.or before.config
      verbosity := if behind.verbose = 0 then before.verbose else behind.verbose
      json := before.json || behind.json
      path, command }
  match name, behind.words.reverse with
  | .check, [path] => make path .check
  | .packages, [path] => make path .packages
  | .types, [path] => make path (.types behind.package behind.kind)
  | .describe, [path, name] => make path (.describe name)
  | .dump, [path] => make path (.dump behind.variableName)
  | _, _ => .error .usage

/-- What the words behind the word `help` ask for. -/
def Refusal.ofHelpWords : List String → Refusal
  | [] => .help .program
  | [word] =>
    match CommandName.ofWord? word with
    | some name => .help (.command name)
    | none => if word = "help" then .help .help else .usage
  | _ => .usage

/-- Reads the arguments from the start of the line on. -/
def collect (c : Collected) : List String → Except Refusal Invocation
  | [] => .error .usage
  | arg :: rest =>
    if arg = "--" then .error .usage
    else if isDashed arg then
      match takeDashed (switches none) c arg, rest with
      | .error r, _ => .error r
      | .ok (.done c), rest => collect c rest
      | .ok (.waiting _ _), [] => .error .usage
      | .ok (.waiting c s), value :: rest =>
        if isDashed value then .error .usage
        else match c.setValue s value with
          | .ok c => collect c rest
          | .error r => .error r
    else match CommandName.ofWord? arg with
      | none => .error (if arg = "help" then .ofHelpWords rest else .usage)
      | some name =>
        match collectBehind name {} rest with
        | .ok behind => Invocation.ofCollected name c behind
        | .error r => .error r

/-- What the arguments of a run ask for. -/
def Invocation.ofArguments (args : List String) : Except Refusal Invocation := collect {} args

end TypeCatalog.Inspect
