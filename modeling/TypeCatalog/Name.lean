/-!
# Names

A simple name is an identifier; a package name is one or more identifiers joined by dots.
`segments` cuts a text at its dots, so a text is a package name iff all its segments are
identifiers.
-/

namespace TypeCatalog.Name

/-! ### Identifiers -/

/-- ASCII letters, `_` and `$` may start an identifier. -/
def isStart (c : Char) : Bool := c.isAlpha || c == '_' || c == '$'

/-- Later characters may be ASCII digits too. -/
def isLater (c : Char) : Bool := isStart c || c.isDigit

/-- A starting character and then later ones. -/
def isIdentifierChars : List Char → Bool
  | [] => false
  | c :: cs => isStart c && cs.all isLater

/-- Whether `name` is a simple type name. -/
def isIdentifier (name : String) : Bool := isIdentifierChars name.toList

/-! ### Dotted names -/

/-- The pieces of a text between its dots; there is one more piece than there are dots. -/
def segments : List Char → List (List Char)
  | [] => [[]]
  | c :: cs =>
    if c = '.' then [] :: segments cs
    else match segments cs with
      | [] => [[c]]
      | piece :: pieces => (c :: piece) :: pieces

/-- Whether `name` is a package name: identifiers joined by dots. -/
def isPackageName (name : String) : Bool := (segments name.toList).all isIdentifierChars

/-- Cuts a text at its last dot. -/
def splitAtLastDot : List Char → Option (List Char × List Char)
  | [] => none
  | c :: cs =>
    match splitAtLastDot cs with
    | some (front, back) => some (c :: front, back)
    | none => if c = '.' then some ([], cs) else none

end TypeCatalog.Name

namespace TypeCatalog

/-! ### Qualified names -/

/-- The package and the simple name that together identify a type. -/
structure QualifiedName where
  package : String
  name : String
  deriving DecidableEq, Repr

namespace QualifiedName

/-- The printed form: package, dot, name. -/
def display (q : QualifiedName) : String := q.package ++ "." ++ q.name

/-- Reads a printed form by cutting at the last dot; neither part may be empty. -/
def parse? (text : String) : Option QualifiedName :=
  match Name.splitAtLastDot text.toList with
  | none => none
  | some (front, back) =>
    if front.isEmpty || back.isEmpty then none
    else some ⟨String.ofList front, String.ofList back⟩

/-- The package decides first, then the simple name. -/
protected def compare (a b : QualifiedName) : Ordering :=
  compareLex (compareOn package) (compareOn name) a b

instance : Ord QualifiedName := ⟨QualifiedName.compare⟩

instance : Std.TransOrd QualifiedName :=
  inferInstanceAs (Std.TransCmp (compareLex (compareOn package) (compareOn name)))

instance : Std.LawfulEqOrd QualifiedName where
  compare_self := Std.ReflCmp.compare_self
  eq_of_compare := by
    intro a b h
    obtain ⟨hp, hn⟩ := compareLex_eq_eq.1 (show compareLex _ _ a b = .eq from h)
    have hp := Std.LawfulEqOrd.eq_of_compare hp
    have hn := Std.LawfulEqOrd.eq_of_compare hn
    cases a; cases b; simp_all

/-- Qualified names in ascending order; equal ones keep their order. -/
def sort (names : List QualifiedName) : List QualifiedName :=
  names.mergeSort fun a b => (Ord.compare a b).isLE

end QualifiedName
end TypeCatalog
