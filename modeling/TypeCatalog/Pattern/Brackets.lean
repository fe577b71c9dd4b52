import TypeCatalog.Pattern.Escape

/-!
# Brackets in a pattern

Classes of characters that are written out: their elements, ranges, named classes, operators and
brackets inside one another. What is read of them is how high they are, where each pair of
brackets, each operator and each row of elements is one step above what it holds.
-/

namespace TypeCatalog.Pattern

/-! ### Heights -/

/-- Parts in a row: how many there are, and the height of the highest. -/
structure Row where
  count : Nat := 0
  height : Nat := 0
  deriving DecidableEq, Repr

/-- The row with one more part. -/
def Row.push (row : Row) (height : Nat) : Row := ⟨row.count + 1, max row.height height⟩

/-- The height of a row, which is a part of its own if it has two parts or more. -/
def Row.total (row : Row) : Nat := if 2 ≤ row.count then row.height + 1 else row.height

/-- A pair of brackets that is open. -/
structure OpenBrackets where
  /-- The height of what stands in front of the last operator. -/
  left : Option Nat := none
  /-- The elements behind it. -/
  elements : Row := {}
  deriving DecidableEq, Repr

/-- The height of what the brackets hold. -/
def OpenBrackets.total (b : OpenBrackets) : Nat :=
  match b.left with
  | none => b.elements.total
  | some left => max left b.elements.total + 1

/-- The brackets with one more element. -/
def OpenBrackets.push (b : OpenBrackets) (height : Nat) : OpenBrackets :=
  { b with elements := b.elements.push height }

/-- The brackets behind an operator. -/
def OpenBrackets.operator (b : OpenBrackets) : OpenBrackets := ⟨some b.total, {}⟩

/-! ### Elements -/

/-- The names that classes between colons have. -/
def classNames : List String :=
  ["alnum", "alpha", "ascii", "blank", "cntrl", "digit", "graph", "lower", "print", "punct",
    "space", "upper", "word", "xdigit"]

/-- Whether a class `:name:` is that of all other characters, and what follows it and its closing
bracket. -/
def namedClass? : List Char → Option (Bool × List Char)
  | ':' :: text =>
    let negated := text.head? == some '^'
    let text := if negated then text.drop 1 else text
    match text.dropWhile (· != ':') with
    | ':' :: ']' :: rest =>
      if classNames.contains (String.ofList (text.takeWhile (· != ':'))) then some (negated, rest)
      else none
    | _ => none
  | _ => none

/-- An element of brackets, and what follows it; among bytes it is no character beyond ASCII. -/
def element? (mode : Mode) : List Char → Option (Meaning × List Char)
  | [] => none
  | c :: rest => do
    let (meaning, rest) ← if c == '\\' then escape? mode rest else some (.literal c, rest)
    match meaning with
    | .literal c => if mode.unicode || c.toNat < 0x80 then some (meaning, rest) else none
    | .several => some (meaning, rest)
    | .place => none

/-- What follows an element or a range of characters. -/
def behindElement? (mode : Mode) (text : List Char) : Option (List Char) := do
  let (first, rest) ← element? mode text
  match mode.skip rest with
  | '-' :: rest =>
    if mode.peek? rest == some ']' || mode.peek? rest == some '-' then some ('-' :: rest)
    else
      let (last, rest) ← element? mode (mode.skip rest)
      match first, last with
      | .literal a, .literal b => if a ≤ b then some rest else none
      | _, _ => none
  | rest => some rest

/-! ### Opening and closing -/

/-- The brackets behind the minus signs at their start, which stand for themselves, and what
follows. -/
def behindMinusSigns (mode : Mode) (b : OpenBrackets) : List Char → OpenBrackets × List Char
  | '-' :: rest => behindMinusSigns mode (b.push 0) (mode.skip rest)
  | text => (b, text)
termination_by text => text.length
decreasing_by exact Nat.lt_succ_of_le (mode.length_skip_le rest)

/-- The brackets behind their opening sign and the signs that stand for themselves right behind
it, and what follows. Among bytes no class holds all but some characters. -/
def openBrackets? (mode : Mode) (text : List Char) : Option (OpenBrackets × List Char) :=
  let text := mode.skip text
  let negated := text.head? == some '^'
  if negated && !mode.unicode then none
  else
    let text := if negated then mode.skip (text.drop 1) else text
    match behindMinusSigns mode {} text with
    | (⟨none, ⟨0, _⟩⟩, ']' :: rest) => some (OpenBrackets.push {} 0, rest)
    | opened => some opened

/-- The height of brackets and what follows them; `outer` are the brackets around the innermost
ones `b`, and `fuel` bounds the elements. -/
def behindBrackets? (mode : Mode) :
    Nat → List OpenBrackets → OpenBrackets → List Char → Option (Nat × List Char)
  | 0, _, _, _ => none
  | fuel + 1, outer, b, text =>
    match mode.skip text with
    | [] => none
    | '[' :: rest =>
      match namedClass? rest with
      | some (negated, rest) =>
        if negated && !mode.unicode then none
        else behindBrackets? mode fuel outer (b.push 0) rest
      | none =>
        match openBrackets? mode rest with
        | some (inner, rest) => behindBrackets? mode fuel (b :: outer) inner rest
        | none => none
    | ']' :: rest =>
      match outer with
      | [] => some (b.total + 1, rest)
      | around :: outer => behindBrackets? mode fuel outer (around.push (b.total + 1)) rest
    | '&' :: '&' :: rest => behindBrackets? mode fuel outer b.operator rest
    | '-' :: '-' :: rest => behindBrackets? mode fuel outer b.operator rest
    | '~' :: '~' :: rest => behindBrackets? mode fuel outer b.operator rest
    | text =>
      match behindElement? mode text with
      | some rest => behindBrackets? mode fuel outer (b.push 0) rest
      | none => none

/-- The height of brackets behind their opening sign, and what follows them. -/
def brackets? (mode : Mode) (text : List Char) : Option (Nat × List Char) := do
  let (b, rest) ← openBrackets? mode text
  behindBrackets? mode (rest.length + 1) [] b rest

end TypeCatalog.Pattern
