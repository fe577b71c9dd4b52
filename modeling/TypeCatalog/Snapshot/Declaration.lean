import TypeCatalog.Text.Alphanumeric
import TypeCatalog.Text.Blank

/-!
# Declarations

A snapshot may be written as the initial value of a variable: `const root = …`, perhaps exported.
`cutDeclaration` separates the value from what stands before it.
-/

namespace TypeCatalog.Snapshot

/-- A text cut in two; `skipped` and then `body` make the whole text. -/
structure Cut where
  skipped : List Char
  body : List Char
  deriving DecidableEq, Repr

/-- What is wrong with a declaration. -/
inductive DeclarationDefect where
  | noEqualsSign
  | badName (name : List Char)
  deriving DecidableEq, Repr

/-- The words that start a declaration. -/
def keywords : List (List Char) :=
  [['c', 'o', 'n', 's', 't'], ['l', 'e', 't'], ['v', 'a', 'r']]

/-- What follows `front` in a text that starts with it. -/
def behind? : List Char → List Char → Option (List Char)
  | [], text => some text
  | f :: fs, c :: cs => if f = c then behind? fs cs else none
  | _ :: _, [] => none

/-- A text without the word `export` and one blank at its start. -/
def skipExport (text : List Char) : List Char :=
  (behind? ['e', 'x', 'p', 'o', 'r', 't', ' '] text).getD text

/-- What follows a keyword; a blank must stand between the two. -/
def behindKeyword? (text : List Char) : Option (List Char) :=
  keywords.findSome? fun keyword =>
    match behind? keyword text with
    | some (c :: cs) => if Text.isBlank c then some (c :: cs) else none
    | _ => none

/-- The characters of variable names. -/
def isNameChar (c : Char) : Bool := Text.isAlphanumeric c || c == '_' || c == '$'

/-- Whether a text can be the name of a variable. -/
def isVariableName (name : List Char) : Bool := !name.isEmpty && name.all isNameChar

/-- Cuts leading blanks and a declaration off a text. -/
def cutDeclaration (text : List Char) : Except DeclarationDefect Cut :=
  let start := Text.trimStart text
  match behindKeyword? (skipExport start) with
  | none => .ok ⟨text.takeWhile Text.isBlank, start⟩
  | some rest =>
    let name := Text.trim (rest.takeWhile (· != '='))
    match rest.dropWhile (· != '=') with
    | [] => .error .noEqualsSign
    | _ :: body =>
      if isVariableName name then .ok ⟨text.take (text.length - body.length), body⟩
      else .error (.badName name)

end TypeCatalog.Snapshot
