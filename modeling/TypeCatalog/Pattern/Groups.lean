import TypeCatalog.Pattern.Brackets
import TypeCatalog.Text.Alphabetic

/-!
# Groups in a pattern

What stands between parentheses: how a group starts, and how high what has been read of it is. A
group, its alternatives, a row of parts and a repetition are each one step above what they hold.
-/

namespace TypeCatalog.Pattern

/-! ### Starts -/

/-- What the text behind an opening parenthesis opens. -/
inductive GroupStart where
  /-- A group in which a mode is in force, with its name if it has one. -/
  | group (mode : Mode) (name : Option (List Char))
  /-- No group: the mode holds for what follows. -/
  | options (mode : Mode)
  deriving DecidableEq, Repr

/-- Whether a group may have the name. -/
def isGroupName (name : List Char) : Bool :=
  name.head?.any (fun c => c == '_' || Text.isAlphabetic c) &&
    name.all fun c => Text.isAlphanumeric c || "_.[]".toList.contains c

/-- The start of a group with a name, behind the sign in front of the name. -/
def namedStart? (mode : Mode) (text : List Char) : Option (GroupStart × List Char) :=
  let name := text.takeWhile (· != '>')
  match text.dropWhile (· != '>') with
  | _ :: rest => if isGroupName name then some (.group mode (some name), rest) else none
  | [] => none

/-- What a parenthesis opens, and what follows its start. There is no looking around. -/
def groupStart? (mode : Mode) (text : List Char) : Option (GroupStart × List Char) :=
  match mode.skip text with
  | '?' :: 'P' :: '<' :: rest => namedStart? mode rest
  | '?' :: '<' :: rest => namedStart? mode rest
  | '?' :: rest =>
    let isLetter (c : Char) : Bool := c != ':' && c != ')'
    let letters := rest.takeWhile isLetter
    match areOptions letters, rest.dropWhile isLetter with
    | true, ':' :: rest => some (.group (mode.withOptions letters) none, rest)
    | true, ')' :: rest =>
      if letters.isEmpty then none else some (.options (mode.withOptions letters), rest)
    | _, _ => none
  | text => some (.group mode none, text)

/-! ### Contents -/

/-- What has been read of a group. -/
structure OpenGroup where
  /-- The mode that is in force. -/
  mode : Mode := {}
  /-- The height of the alternatives before the last one. -/
  before : Option Nat := none
  /-- The parts of the last alternative. -/
  parts : Row := {}
  /-- The height of its last part, if that can be repeated. -/
  last : Option Nat := none
  deriving DecidableEq, Repr

/-- The height of the greatest of the alternatives. -/
def OpenGroup.highest (g : OpenGroup) : Nat := max (g.before.getD 0) g.parts.total

/-- The height of what the group holds. -/
def OpenGroup.total (g : OpenGroup) : Nat :=
  if g.before.isSome then g.highest + 1 else g.highest

/-- The group with one more part. -/
def OpenGroup.push (g : OpenGroup) (height : Nat) : OpenGroup :=
  { g with parts := g.parts.push height, last := some height }

/-- The group with options that hold for what follows; they are a part that is not repeated. -/
def OpenGroup.setMode (g : OpenGroup) (mode : Mode) : OpenGroup :=
  { g with mode, parts := g.parts.push 0, last := none }

/-- The group with its last part repeated. -/
def OpenGroup.repeatLast? (g : OpenGroup) : Option OpenGroup :=
  g.last.map fun height =>
    { g with parts := { g.parts with height := max g.parts.height (height + 1) }
             last := some (height + 1) }

/-- The group at the start of a further alternative. -/
def OpenGroup.alternative (g : OpenGroup) : OpenGroup :=
  { g with before := some g.highest, parts := {}, last := none }

end TypeCatalog.Pattern
