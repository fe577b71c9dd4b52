import TypeCatalog.Pattern.Groups

/-!
# Which texts are patterns

Whether a text is a regular expression: parentheses and brackets pair up, every repetition has
something to repeat, every escape means something, no two groups share a name, and its parts are
not too deep inside one another.
-/

namespace TypeCatalog.Pattern

/-- What has been read of a pattern. -/
structure State where
  /-- The open groups around the innermost one, from the inside out. -/
  outer : List OpenGroup := []
  /-- The innermost open group; the pattern as a whole is one. -/
  group : OpenGroup := {}
  /-- The names of its groups. -/
  names : List (List Char) := []
  deriving DecidableEq, Repr

/-- The state after one more part of the innermost group. -/
def State.push (s : State) (height : Nat) : State := { s with group := s.group.push height }

/-- The state after the start of a group; no other group may have its name. -/
def State.start? (s : State) : GroupStart → Option State
  | .options mode => some { s with group := s.group.setMode mode }
  | .group mode none => some { s with outer := s.group :: s.outer, group := { mode } }
  | .group mode (some name) =>
    if s.names.contains name then none
    else some ⟨s.group :: s.outer, { mode }, name :: s.names⟩

/-- The state after the end of the innermost group. -/
def State.close? (s : State) : Option State :=
  match s.outer with
  | [] => none
  | around :: outer => some { s with outer, group := around.push (s.group.total + 1) }

/-- How many parts may be inside one another. -/
def heightLimit : Nat := 250

/-- Whether a pattern may end. -/
def State.canEnd (s : State) : Bool := s.outer.isEmpty && decide (s.group.total ≤ heightLimit)

/-- The state after the part of a pattern that starts with `c`, and what follows it. A sign that
counts repetitions cannot be completed. Among bytes there is no sign for any character. -/
def State.step? (s : State) (c : Char) (rest : List Char) : Option (State × List Char) :=
  let mode := s.group.mode
  if c == '(' then do
    let (start, rest) ← groupStart? mode rest
    return (← s.start? start, rest)
  else if c == ')' then return (← s.close?, rest)
  else if c == '|' then some ({ s with group := s.group.alternative }, rest)
  else if c == '*' || c == '+' || c == '?' then do
    let group ← s.group.repeatLast?
    return ({ s with group }, if rest.head? == some '?' then rest.drop 1 else rest)
  else if c == '\x7b' then none
  else if c == '[' then do
    let (height, rest) ← brackets? mode rest
    return (s.push height, rest)
  else if c == '\\' then do
    let (_, rest) ← escape? mode rest
    return (s.push 0, rest)
  else if c == '.' && !mode.unicode then none
  else some (s.push 0, rest)

/-- Whether the text completes a pattern of which `s` has been read; `fuel` bounds the parts. -/
def completes : Nat → State → List Char → Bool
  | 0, _, _ => false
  | fuel + 1, s, text =>
    match s.group.mode.skip text with
    | [] => s.canEnd
    | c :: rest =>
      match s.step? c rest with
      | some (s, rest) => completes fuel s rest
      | none => false

end TypeCatalog.Pattern

namespace TypeCatalog

/-- Whether a text is a pattern. -/
def isPattern (text : List Char) : Bool := Pattern.completes (text.length + 1) {} text

end TypeCatalog
