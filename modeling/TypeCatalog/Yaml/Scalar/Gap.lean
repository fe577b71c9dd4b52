import TypeCatalog.Yaml.Place

/-!
# Gaps in scalars

The blanks and line breaks between two parts of a scalar. Blanks on one line stand for themselves;
where a line ends they are dropped, a single line break stands for one space, and of several the
first one is dropped.
-/

namespace TypeCatalog.Yaml

/-- Blanks and line breaks between two parts of a scalar. -/
structure Gap where
  /-- The blanks before any line break, last one first. -/
  blanks : List Char := []
  /-- Whether a line ended. -/
  broken : Bool := false
  /-- The first line break, unless it was escaped. -/
  first : Option Char := none
  /-- The further line breaks, last one first. -/
  further : List Char := []
  deriving DecidableEq, Repr

namespace Gap

/-- No gap. -/
def none : Gap := {}

/-- Whether nothing stands in the gap. -/
def isNone (g : Gap) : Bool := g.blanks.isEmpty && !g.broken

/-- One more blank; behind a line break it does not count. -/
def addBlank (g : Gap) (c : Char) : Gap :=
  if g.broken then g else { g with blanks := c :: g.blanks }

/-- One more line break. -/
def addBreak (g : Gap) (c : Char) : Gap :=
  if g.broken then { g with further := breakValue c :: g.further }
  else { blanks := [], broken := true, first := some (breakValue c), further := g.further }

/-- What the gap stands for, last character first. -/
def folded (g : Gap) : List Char :=
  if g.broken then
    match g.first with
    | some '\n' => if g.further.isEmpty then [' '] else g.further
    | some c => g.further ++ [c]
    | Option.none => g.further
  else g.blanks

end Gap
end TypeCatalog.Yaml
