import TypeCatalog.Text.Blank

/-!
# Trailing commas

Producers leave a comma behind the last element of a list or an object. `dropTrailingCommas`
removes every comma outside string literals that only blanks separate from a closing bracket.
-/

namespace TypeCatalog.Snapshot

/-- Where a character stands with respect to string literals. -/
inductive Scan where
  | outside
  | inside
  /-- Behind a backslash in a literal. -/
  | escaped
  deriving DecidableEq, Repr

/-- Where the next character stands. -/
def Scan.next : Scan → Char → Scan
  | .outside, c => if c = '"' then .inside else .outside
  | .inside, c => if c = '\\' then .escaped else if c = '"' then .outside else .inside
  | .escaped, _ => .inside

/-- Whether the first character that is no blank closes a list or an object. -/
def closesNext (text : List Char) : Bool :=
  match Text.trimStart text with
  | c :: _ => c == '}' || c == ']'
  | [] => false

/-- Whether a character that stands before `rest` is a trailing comma. -/
def isTrailingComma (scan : Scan) (c : Char) (rest : List Char) : Bool :=
  scan == .outside && c == ',' && closesNext rest

/-- The text without its trailing commas, from a place on. -/
def dropTrailingCommasFrom (scan : Scan) : List Char → List Char
  | [] => []
  | c :: cs =>
    if isTrailingComma scan c cs then dropTrailingCommasFrom scan cs
    else c :: dropTrailingCommasFrom (scan.next c) cs

/-- The text without its trailing commas. -/
def dropTrailingCommas (text : List Char) : List Char := dropTrailingCommasFrom .outside text

end TypeCatalog.Snapshot
