import TypeCatalog.Decimal.Shortest
import TypeCatalog.Json.StringLiteral
import TypeCatalog.Json.Value

/-!
# Printing JSON

One printer with two layouts. Floating-point numbers are written with the fewest digits that read
back, always with a point or an exponent, so that they are told from integers.
-/

namespace TypeCatalog.Json

/-! ### Numbers -/

/-- An integer in decimal. -/
def intText : Int → List Char
  | .ofNat n => Nat.toDigits 10 n
  | .negSucc n => '-' :: Nat.toDigits 10 (n + 1)

/-- Numbers are written positionally while their leading digit has one of these exponents. -/
def positionalExponents : Int × Int := (-5, 15)

/-- Digits with a point in its place and at least one digit behind it. -/
def positional (digits : List Char) (e : Int) : List Char :=
  let (whole, fraction) := Decimal.splitAtPoint digits e
  whole ++ '.' :: (if fraction.isEmpty then ['0'] else fraction)

/-- Digits with an exponent, which always has a sign. -/
def scientific (digits : List Char) (e : Int) : List Char :=
  let mantissa := match digits with
    | d :: rest => if rest.isEmpty then [d] else d :: '.' :: rest
    | [] => []
  let mark := match e with
    | .ofNat k => 'e' :: '+' :: Nat.toDigits 10 k
    | .negSucc k => 'e' :: '-' :: Nat.toDigits 10 (k + 1)
  mantissa ++ mark

/-- The magnitude of a finite floating-point number. -/
def magnitudeText (x : Float) : List Char :=
  let (digits, e) := Decimal.digitsOf x
  if positionalExponents.1 ≤ e ∧ e ≤ positionalExponents.2 then positional digits e
  else scientific digits e

/-- A finite floating-point number; a negative zero keeps its sign. -/
def floatText (x : Float) : List Char :=
  if Decimal.isNegative x then '-' :: magnitudeText x else magnitudeText x

/-! ### Values -/

/-- How the parts of a container are set apart. -/
structure Layout where
  /-- What stands before an element or a closing bracket at a nesting level. -/
  lineBreak : Nat → List Char
  /-- What stands between a key and its value. -/
  colon : List Char

/-- No blanks at all. -/
def Layout.compact : Layout := ⟨fun _ => [], [':']⟩

/-- One line for each part, two blanks for each level. -/
def Layout.indented : Layout :=
  ⟨fun level => '\n' :: List.replicate (2 * level) ' ', [':', ' ']⟩

mutual

/-- A value that stands at a nesting level. -/
def render (layout : Layout) (level : Nat) : Json → List Char
  | .null => ['n', 'u', 'l', 'l']
  | .bool true => ['t', 'r', 'u', 'e']
  | .bool false => ['f', 'a', 'l', 's', 'e']
  | .int n => intText n
  | .float x => floatText x
  | .str s => StringLiteral.quote s
  | .arr [] => ['[', ']']
  | .arr (v :: vs) =>
    '[' :: (layout.lineBreak (level + 1) ++ render layout (level + 1) v ++
      renderItems layout (level + 1) vs ++ layout.lineBreak level ++ [']'])
  | .obj [] => ['{', '}']
  | .obj ((key, v) :: rest) =>
    '{' :: (layout.lineBreak (level + 1) ++ StringLiteral.quote key ++ layout.colon ++
      render layout (level + 1) v ++ renderFields layout (level + 1) rest ++
      layout.lineBreak level ++ ['}'])

/-- The further elements of a list. -/
def renderItems (layout : Layout) (level : Nat) : List Json → List Char
  | [] => []
  | v :: vs =>
    ',' :: (layout.lineBreak level ++ render layout level v ++ renderItems layout level vs)

/-- The further fields of an object. -/
def renderFields (layout : Layout) (level : Nat) : List (String × Json) → List Char
  | [] => []
  | (key, v) :: rest =>
    ',' :: (layout.lineBreak level ++ StringLiteral.quote key ++ layout.colon ++
      render layout level v ++ renderFields layout level rest)

end

/-- The value on one line without blanks. -/
def compact (v : Json) : String := String.ofList (v.render .compact 0)

/-- The value on indented lines. -/
def indented (v : Json) : String := String.ofList (v.render .indented 0)

end TypeCatalog.Json
