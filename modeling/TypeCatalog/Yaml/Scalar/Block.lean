import TypeCatalog.Yaml.Scalar.Gap

/-!
# Block scalars

A block scalar has a header, and then lines that are indented at least as far as its first one. In
a literal scalar lines stay lines. In a folded one a line break between two lines that start with
no blank stands for a space, or for nothing if empty lines follow it.
-/

namespace TypeCatalog.Yaml

/-- What becomes of the line breaks at the end of a block scalar. -/
inductive Chomping where
  | strip
  /-- The first one stays. -/
  | clip
  | keep
  deriving DecidableEq, Repr

/-- The header of a block scalar. -/
structure BlockHeader where
  literal : Bool
  chomping : Chomping
  /-- How far the lines are indented further than what surrounds them, if the header says so. -/
  increment : Option Nat

/-- The chomping a sign stands for. -/
def chomping? : Char → Option Chomping
  | '-' => some .strip
  | '+' => some .keep
  | _ => none

/-- The increment a digit stands for. -/
def increment? (c : Char) : Option Nat := if c.isDigit then some (c.toNat - '0'.toNat) else none

/-- The header behind its first character, and how many characters it has. A zero is no
increment. -/
def BlockHeader.ofText? (literal : Bool) : List Char → Option (BlockHeader × Nat)
  | [] => some (⟨literal, .clip, none⟩, 0)
  | a :: rest =>
    let b := rest.head?
    match chomping? a, increment? a, b.bind chomping?, b.bind increment? with
    | some _, _, _, some 0 => none
    | some ch, _, _, some n => some (⟨literal, ch, some n⟩, 2)
    | some ch, _, _, none => some (⟨literal, ch, none⟩, 1)
    | none, some 0, _, _ => none
    | none, some n, some ch, _ => some (⟨literal, ch, some n⟩, 2)
    | none, some n, none, _ => some (⟨literal, .clip, some n⟩, 1)
    | none, none, _, _ => some (⟨literal, .clip, none⟩, 0)

/-- A block scalar of which a part has been read. -/
structure Block where
  /-- The text so far, last character first. -/
  done : List Char := []
  /-- The line break of the last line. -/
  lastBreak : List Char := []
  /-- The line breaks of the empty lines behind it, last one first. -/
  empty : List Char := []
  /-- Whether the last line started with a blank. -/
  startedBlank : Bool := false
  /-- Whether the text is inside a line; otherwise it is in its indentation. -/
  inLine : Bool := false
  /-- The column of the lines, once it is known. -/
  indent : Option Nat
  /-- The furthest column of the empty lines before the first line. -/
  furthest : Nat := 0

namespace Block

/-- Starts a line with the character `c`. -/
def startLine (b : Block) (literal : Bool) (indent : Nat) (c : Char) : Block :=
  let blank := isBlank c
  let joint :=
    if !literal && b.lastBreak == ['\n'] && !b.startedBlank && !blank then
      if b.empty.isEmpty then [' '] else b.empty
    else b.empty ++ b.lastBreak
  { b with done := c :: (joint ++ b.done), lastBreak := [], empty := [], startedBlank := blank,
           inLine := true, indent := some indent }

/-- The text of a block scalar that ends here. -/
def text (b : Block) : Chomping → List Char
  | .strip => b.done.reverse
  | .clip => (b.lastBreak ++ b.done).reverse
  | .keep => (b.empty ++ (b.lastBreak ++ b.done)).reverse

/-- Ends a line, or notes an empty one. -/
def endLine (b : Block) (c : Char) : Block :=
  if b.inLine then { b with inLine := false, lastBreak := [breakValue c] }
  else { b with empty := breakValue c :: b.empty }

/-- Whether a column is in the indentation. -/
def isIndentation (b : Block) (column : Nat) : Bool :=
  match b.indent with
  | some indent => decide (column < indent)
  | none => true

/-- Reads a block scalar on. Its lines start at the column `least` or further, if the header does
not say where. -/
def readFrom (h : BlockHeader) (least : Nat) (b : Block) (p : Place) :
    List Char → Option (List Char × Cursor)
  | [] => some (b.text h.chomping, ⟨p, []⟩)
  | '\r' :: '\n' :: rest =>
    readFrom h least { b.endLine '\n' with furthest := max b.furthest p.column } p.nextLine rest
  | c :: rest =>
    if isBreak c then
      readFrom h least { b.endLine c with furthest := max b.furthest p.column } p.nextLine rest
    else if b.inLine then readFrom h least { b with done := c :: b.done } (p.behind c) rest
    else if c == ' ' && b.isIndentation p.column then readFrom h least b (p.behind c) rest
    else if c == '\t' && b.isIndentation p.column then none
    else
      let indent := b.indent.getD (max (max b.furthest p.column) least)
      if p.column = indent then
        readFrom h least (b.startLine h.literal indent c) (p.behind c) rest
      else some (b.text h.chomping, ⟨p, c :: rest⟩)

end Block

/-- Reads a block scalar, at its first character, where the surrounding lines start at a column;
that is negative where nothing surrounds it. -/
def block (literal : Bool) (surrounding : Int) (c : Cursor) : Option (List Char × Cursor) :=
  let c := c.advance 1
  match BlockHeader.ofText? literal c.rest with
  | none => none
  | some (header, width) =>
    match (c.advance width).endOfLine? with
    | none => none
    | some c =>
      let indent := header.increment.map fun n => surrounding.toNat + n
      Block.readFrom header (max (surrounding + 1).toNat 1) { indent } c.place c.rest

end TypeCatalog.Yaml
