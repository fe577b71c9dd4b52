import TypeCatalog.Collection.Fields
import TypeCatalog.Event
import TypeCatalog.Pattern.Validity
import TypeCatalog.Text.Blank
import TypeCatalog.Text.Quoted

/-!
# Log lines

Which events are logged, and how. A filter is a list of directives. A directive is about the events
of a target that have a certain field; of those that are about an event, the most specific one
decides. What a directive says about spans of time decides about no event.
-/

namespace TypeCatalog.Inspect

/-! ### Lines -/

/-- An event ready to be logged. -/
structure Record where
  level : Level
  /-- The part of the program that the event comes from. -/
  target : String
  message : String
  fields : Fields EventValue

/-- The value of a field as a log line shows it. -/
def valueText : EventValue → String
  | .count n => toString n
  | .text s => s
  | .quoted s => Text.quoted s

/-- The line of an event. -/
def Record.line (r : Record) : String :=
  let fields := r.fields.map fun (key, value) => " " ++ key ++ "=" ++ valueText value
  r.level.text ++ " " ++ r.target ++ ": " ++ r.message ++ String.join fields ++ "\n"

/-! ### Filters -/

/-- How many levels a directive lets through: none at zero, all at five. -/
abbrev Verbosity := Nat

/-- The verbosity from which on a level is let through. -/
def levelRank : Level → Verbosity
  | .error => 1
  | .warn => 2
  | .info => 3
  | .debug => 4
  | .trace => 5

/-- What is let through from some events. -/
structure Directive where
  /-- How the targets of the events start. -/
  target : List Char
  /-- The name of a field that the events have. -/
  field : Option String
  /-- Whether the directive is about spans alone. -/
  ofSpans : Bool
  verbosity : Verbosity
  deriving DecidableEq, Repr

/-- The verbosity that a word or a number stands for. -/
def verbosity? (word : List Char) : Option Verbosity :=
  match Decimal.unsigned? 6 word with
  | some n => some n
  | none =>
    match String.ofList (word.map Char.toLower) with
    | "off" => some 0
    | "error" => some 1
    | "warn" => some 2
    | "info" => some 3
    | "debug" => some 4
    | "trace" => some 5
    | _ => none

/-- The verbosity behind an equals sign; all is let through if none is written. -/
def verbosityOrAll? (word : List Char) : Option Verbosity :=
  if word.isEmpty then some 5 else verbosity? word

/-- The characters that a target may start with. -/
def startsTarget (c : Char) : Bool := Text.isAlphanumeric c || c == '_' || c == ':' || c == '-'

/-! #### Reading directives

The blanks around a directive are passed over when its signs are looked for, but its words are cut
out of the text as it stands: a blank in front moves all words by one character. -/

/-- A character that is looked at, and the one that is taken for it. -/
abbrev Cell := Char × Char

/-- What is taken for some cells. -/
def wordOf (cells : List Cell) : List Char := cells.map Prod.snd

/-- Whether a value that a field should have is understood: a truth value, a number or a
pattern. -/
def isFieldValue (text : List Char) : Bool :=
  text == "true".toList || text == "false".toList || (Decimal.float? text).isSome || isPattern text

/-- The name of a field, and whether a value is asked of it. -/
def fieldOf? (text : List Char) : Option (String × Bool) :=
  match text.splitOn '=' with
  | name :: value :: _ => if isFieldValue value then some (String.ofList name, true) else none
  | _ => if text.isEmpty then none else some (String.ofList text, false)

/-- The directive `d` with the verbosity that follows it; `left` are the characters behind the
cells. -/
def withVerbosity? (d : Directive) (left : List Char) : List Cell → Option Directive
  | [] => some { d with verbosity := 5 }
  | ('=', _) :: word =>
    (verbosityOrAll? (wordOf word ++ left)).map fun v => { d with verbosity := v }
  | _ => none

/-- The directive `d` with the span and the field that follow an opening bracket. -/
def withSpan? (d : Directive) (left : List Char) (cells : List Cell) : Option Directive :=
  let isName (c : Cell) : Bool := c.1 != ']' && c.1 != '\x7b'
  let isField (c : Cell) : Bool := c.1 != '\x7d'
  match cells.dropWhile isName with
  | (']', _) :: rest => withVerbosity? { d with ofSpans := true } left rest
  | (_, _) :: inside =>
    match fieldOf? (wordOf (inside.takeWhile isField)), inside.dropWhile isField with
    | some (name, hasValue), (_, _) :: (']', _) :: rest =>
      let named := !(cells.takeWhile isName).isEmpty
      withVerbosity? { d with field := some name, ofSpans := named || hasValue } left rest
    | _, _ => none
  | [] => none

/-- The directive that a text spells: a verbosity, or a target with or without a span, a field and
a verbosity. -/
def directive? (text : List Char) : Option Directive :=
  let signs := Text.trim text
  let cells := signs.zip text
  let left := text.drop signs.length
  let isTarget (c : Cell) : Bool := c.1 != '=' && c.1 != '['
  let target := wordOf (cells.takeWhile isTarget)
  if !signs.head?.any fun c => startsTarget c || c == '[' then none
  else match cells.dropWhile isTarget with
    | [] =>
      match verbosity? text with
      | some v => some ⟨[], none, false, v⟩
      | none => some ⟨text, none, false, 5⟩
    | ('[', _) :: rest => withSpan? ⟨target, none, false, 5⟩ left rest
    | rest => withVerbosity? ⟨target, none, false, 5⟩ left rest

/-- The directives of a filter text, between commas. -/
def filter? (text : String) : Option (List Directive) :=
  let parts := (text.toList.splitOn ',').filter fun part => !part.isEmpty
  (parts.mapM directive?).map fun ds => if ds.isEmpty then [⟨[], none, false, 1⟩] else ds

/-! #### Deciding -/

/-- Whether a directive is about an event. -/
def Directive.isAbout (d : Directive) (r : Record) : Bool :=
  !d.ofSpans && d.target.isPrefixOf r.target.toList &&
    d.field.all fun name => name == "message" || (r.fields.map Prod.fst).contains name

/-- Whether `d` is at least as specific as `b`, where both are about an event: the target counts
first, then whether there is a field, and then the order of the names. -/
def Directive.isAsSpecific (b d : Directive) : Bool :=
  decide (b.target.length < d.target.length) ||
    (b.target.length == d.target.length &&
      match b.field, d.field with
      | none, _ => true
      | some _, none => false
      | some x, some y => decide (x ≤ y))

/-- The verbosity for an event: that of the last of the most specific directives. -/
def verbosityFor (directives : List Directive) (r : Record) : Verbosity :=
  let best := (directives.filter fun d => d.isAbout r).foldl (fun (best : Option Directive) d =>
    match best with
    | none => some d
    | some b => if b.isAsSpecific d then some d else some b) none
  (best.map Directive.verbosity).getD 0

/-- The environment variable that may hold a filter. -/
def filterVariable : String := "RUST_LOG"

/-- The filter of a run: that of the environment if it can be read, else by how often more output
was asked for. -/
def filterOf (environment : List (String × String)) (asked : Nat) : List Directive :=
  match (environment.lookup filterVariable).bind filter? with
  | some directives => directives
  | none => [⟨[], none, false, min (2 + asked) 5⟩]

/-- The log of a run. -/
def logText (directives : List Directive) (records : List Record) : String :=
  let passes (r : Record) : Bool :=
    decide (levelRank r.level ≤ verbosityFor directives r)
  String.join ((records.filter passes).map Record.line)

end TypeCatalog.Inspect
