import TypeCatalog.Yaml.Scalar.Gap

/-!
# Plain scalars

A scalar without quotes goes on over line breaks as long as its lines are indented. It ends before
a comment, before a colon with a gap behind it, before a marker of documents, and in brackets
before an indicator of flow collections.
-/

namespace TypeCatalog.Yaml

/-- A plain scalar that was read. -/
structure Plain where
  text : List Char
  /-- What follows the scalar and the gap behind it. -/
  cursor : Cursor
  /-- Whether a line ended behind the scalar. -/
  lineEnded : Bool

/-- What surrounds a plain scalar. -/
structure PlainContext where
  inFlow : Bool
  /-- The least column of further lines outside of brackets. -/
  indent : Int

/-- Whether a part of a plain scalar cannot start here, behind the gap `g`. -/
def PlainContext.endsPart (k : PlainContext) (g : Gap) (p : Place) (text : List Char) : Bool :=
  (!k.inFlow && !g.isNone && p.column < k.indent) ||
    (p.column == 0 && atDocumentMarker text) || text.head? == some '#'

/-- Whether a plain scalar ends before `c`, which stands before `rest`. -/
def PlainContext.endsBefore (k : PlainContext) (c : Char) (rest : List Char) : Bool :=
  (c == ':' && atGap rest) || (k.inFlow && isFlowIndicator c)

/-- Whether a colon stands where no value can follow it. -/
def PlainContext.isStrayColon (k : PlainContext) (c : Char) (rest : List Char) : Bool :=
  k.inFlow && c == ':' && rest.head?.any fun d => isFlowIndicator d || d == '?'

/-- Reads a plain scalar on, where `done` was read, last character first, and then the gap `g`;
`partStart` tells that a part starts here. -/
def plainFrom (k : PlainContext) (done : List Char) (g : Gap) (partStart : Bool) (p : Place) :
    List Char → Option Plain
  | [] => some ⟨done.reverse, ⟨p, []⟩, g.broken⟩
  | '\r' :: '\n' :: rest => plainFrom k done (g.addBreak '\n') true p.nextLine rest
  | c :: rest =>
    if isBreak c then plainFrom k done (g.addBreak c) true p.nextLine rest
    else if isBlank c then
      if g.broken && c == '\t' && p.column < k.indent then none
      else plainFrom k done (g.addBlank c) true (p.behind c) rest
    else if partStart && k.endsPart g p (c :: rest) then
      some ⟨done.reverse, ⟨p, c :: rest⟩, g.broken⟩
    else if k.isStrayColon c rest then none
    else if k.endsBefore c rest then some ⟨done.reverse, ⟨p, c :: rest⟩, g.broken⟩
    else plainFrom k (c :: (g.folded ++ done)) .none false (p.behind c) rest

/-- Reads a plain scalar. -/
def plain (k : PlainContext) (c : Cursor) : Option Plain := plainFrom k [] .none true c.place c.rest

end TypeCatalog.Yaml
