import TypeCatalog.Yaml.Character

/-!
# Places in a YAML text

A place counts lines, and on its line characters and bytes. A cursor is a place together with the
text that follows it.
-/

namespace TypeCatalog.Yaml

/-- A place in a text; every number counts from zero. -/
structure Place where
  line : Nat
  column : Nat
  /-- How many bytes stand before the place on its line. -/
  offset : Nat
  deriving DecidableEq, Repr

namespace Place

/-- The start of a text. -/
def start : Place := ⟨0, 0, 0⟩

/-- The place behind a character on the same line. -/
def behind (p : Place) (c : Char) : Place := ⟨p.line, p.column + 1, p.offset + c.utf8Size⟩

/-- The start of the next line. -/
def nextLine (p : Place) : Place := ⟨p.line + 1, 0, 0⟩

end Place

/-- A place and the text that follows it. -/
structure Cursor where
  place : Place
  rest : List Char
  deriving DecidableEq, Repr

namespace Cursor

/-- The cursor some characters further on the same line. -/
def advance (c : Cursor) (count : Nat) : Cursor :=
  ⟨(c.rest.take count).foldl Place.behind c.place, c.rest.drop count⟩

/-- The cursor behind the blanks that follow it. -/
def skipBlanks (c : Cursor) : Cursor := c.advance (c.rest.takeWhile isBlank).length

/-- The cursor before the next line break. -/
def skipLine (c : Cursor) : Cursor :=
  c.advance (c.rest.takeWhile fun x => !isBreak x).length

/-- The cursor behind a line break, if it stands before one. -/
def skipBreak (c : Cursor) : Cursor :=
  match c.rest with
  | '\r' :: '\n' :: rest => ⟨c.place.nextLine, rest⟩
  | x :: rest => if isBreak x then ⟨c.place.nextLine, rest⟩ else c
  | [] => c

/-- The start of the next line, if nothing but a comment stands before it. -/
def endOfLine? (c : Cursor) : Option Cursor :=
  let c := c.skipBlanks
  let c := if c.rest.head? = some '#' then c.skipLine else c
  match c.rest with
  | [] => some c
  | x :: _ => if isBreak x then some c.skipBreak else none

end Cursor

/-- Goes to the next token: over blanks, comments and line breaks. Where a key may stand outside
of brackets, tabs are not skipped; a line break outside of brackets permits a key. Gives whether a
key may stand there. -/
def toToken (inFlow : Bool) (keyAllowed inComment : Bool) (p : Place) :
    List Char → Bool × Cursor
  | [] => (keyAllowed, ⟨p, []⟩)
  | '\r' :: '\n' :: rest => toToken inFlow (keyAllowed || !inFlow) false p.nextLine rest
  | c :: rest =>
    if isBreak c then toToken inFlow (keyAllowed || !inFlow) false p.nextLine rest
    else if inComment || c == ' ' || (c == '\t' && (inFlow || !keyAllowed)) ||
        (c == byteOrderMark && p.column == 0) then
      toToken inFlow keyAllowed inComment (p.behind c) rest
    else if c == '#' then toToken inFlow keyAllowed true (p.behind c) rest
    else (keyAllowed, ⟨p, c :: rest⟩)

end TypeCatalog.Yaml
