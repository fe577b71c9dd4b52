/-!
# Positions in a text

A position is a line, counted from one, and a column, which counts the bytes of that line that
stand before it.
-/

namespace TypeCatalog.Text

/-- A place in a text. -/
structure Position where
  line : Nat
  column : Nat
  deriving DecidableEq, Repr

namespace Position

/-- The position `offset` bytes behind `p`, where `text` follows `p`. -/
def advance (p : Position) (offset : Nat) : List Char → Position
  | [] => p
  | c :: cs =>
    if offset = 0 then p
    else if c = '\n' then advance ⟨p.line + 1, 0⟩ (offset - 1) cs
    else advance ⟨p.line, p.column + min offset c.utf8Size⟩ (offset - c.utf8Size) cs

/-- The position of a byte offset in a text. -/
def ofOffset (text : List Char) (offset : Nat) : Position := advance ⟨1, 0⟩ offset text

end Position

/-- How many bytes a text takes. -/
def byteLength : List Char → Nat
  | [] => 0
  | c :: cs => c.utf8Size + byteLength cs

theorem byteLength_append (front back : List Char) :
    byteLength (front ++ back) = byteLength front + byteLength back := by
  induction front with
  | nil => simp [byteLength]
  | cons c cs ih => simp [byteLength, ih, Nat.add_assoc]

/-- The characters at the start of a text that fit into some bytes. -/
def takeBytes : Nat → List Char → List Char
  | _, [] => []
  | count, c :: cs => if c.utf8Size ≤ count then c :: takeBytes (count - c.utf8Size) cs else []

/-- How many line breaks a text has. -/
def lineBreaks (text : List Char) : Nat := text.count '\n'

/-- What follows the last line break of a text. -/
def lastLine (text : List Char) : List Char :=
  (text.reverse.takeWhile (· != '\n')).reverse

end TypeCatalog.Text
