/-!
# Shortest decimals

The decimal that stands for a binary floating-point number: of all decimals that round to the
number it has the fewest digits, and of those it is the nearest (a tie goes to the even last
digit). Everything is computed on integers: the number is `mantissa * 2 ^ exponent`, and the reals
that round to it form an interval around it whose ends belong to it iff the mantissa is even.
-/

namespace TypeCatalog.Decimal

/-- The decimal `digits * 10 ^ exponent`. -/
structure Scaled where
  digits : Nat
  exponent : Int
  deriving DecidableEq, Repr

/-! ### Binary numbers as fractions -/

/-- The bit above the stored ones, which every mantissa has but those of the smallest exponent. -/
def hiddenBit : Nat := Nat.pow 2 52

/-- Mantissa and binary exponent of the magnitude of a finite number, from its bits. -/
def decode (bits : Nat) : Nat × Int :=
  let field : Nat := bits / hiddenBit % 2048
  if field = 0 then (bits % hiddenBit, -1074)
  else (bits % hiddenBit + hiddenBit, (field : Int) - 1075)

/-- The numerator and denominator of `n * 2 ^ e`. -/
def fraction (n : Nat) (e : Int) : Nat × Nat :=
  match e with
  | .ofNat k => (n * Nat.pow 2 k, 1)
  | .negSucc k => (n, Nat.pow 2 (k + 1))

/-- The reals that round to a number, in quarter units of the last place over one denominator. -/
structure Interval where
  low : Nat
  value : Nat
  high : Nat
  denominator : Nat
  /-- Whether the ends round to the number too. -/
  closed : Bool

/-- The interval of a positive number. Below a power of two the neighbour is only half as far,
except at the smallest exponent. -/
def Interval.of (mantissa : Nat) (exponent : Int) : Interval :=
  let below := if mantissa = hiddenBit ∧ exponent > -1074 then 1 else 2
  let scale (n : Nat) := fraction n (exponent - 2)
  { low := (scale (4 * mantissa - below)).1
    value := (scale (4 * mantissa)).1
    high := (scale (4 * mantissa + 2)).1
    denominator := (scale 1).2
    closed := mantissa % 2 = 0 }

/-- How many decimal digits a positive number has. -/
def length (n : Nat) : Nat := (Nat.toDigits 10 n).length

/-- The exponent of the leading decimal digit of a positive fraction. -/
def leadingExponent (numerator denominator : Nat) : Int :=
  if denominator ≤ numerator then (length (numerator / denominator) : Int) - 1
  else -(length ((denominator - 1) / numerator) : Int)

/-! ### Candidates on a decimal grid -/

/-- Whether `d * 10 ^ k` lies in the interval. -/
def Interval.holds (i : Interval) (d : Nat) (k : Int) : Bool :=
  let up := Nat.pow 10 k.toNat
  let down := Nat.pow 10 (-k).toNat
  let x := d * up * i.denominator
  if i.closed then decide (i.low * down ≤ x ∧ x ≤ i.high * down)
  else decide (i.low * down < x ∧ x < i.high * down)

/-- The best decimal with `n` significant digits, if one lies in the interval: of the two
neighbours of the value on that grid, the nearer one, or the even one of two equally near. -/
def Interval.best? (i : Interval) (n : Nat) : Option Scaled :=
  let k := leadingExponent i.value i.denominator - ((n : Int) - 1)
  let unit := Nat.pow 10 k.toNat * i.denominator
  let scaled := i.value * Nat.pow 10 (-k).toNat
  let lower := scaled / unit
  let rest := scaled % unit
  let upperFirst := 2 * rest > unit ∨ 2 * rest = unit ∧ lower % 2 = 1
  let candidates := if upperFirst then [lower + 1, lower] else [lower, lower + 1]
  (candidates.find? fun d => i.holds d k).map (⟨·, k⟩)

/-- Takes trailing zeros off the digits; `fuel` bounds their number. -/
def Scaled.trim : Nat → Scaled → Scaled
  | 0, s => s
  | fuel + 1, s =>
    if s.digits ≠ 0 ∧ s.digits % 10 = 0 then trim fuel ⟨s.digits / 10, s.exponent + 1⟩ else s

/-- The shortest decimal of the magnitude of a finite number; seventeen digits always suffice. -/
def shortest (x : Float) : Scaled :=
  let (mantissa, exponent) := decode x.toBits.toNat
  if mantissa = 0 then ⟨0, 0⟩
  else
    let i := Interval.of mantissa exponent
    match (List.range' 1 17).findSome? i.best? with
    | some s => s.trim 17
    | none => ⟨mantissa, 0⟩

/-! ### Digits around the point -/

/-- The digits before and behind the point of a decimal whose leading digit has exponent `e`. -/
def splitAtPoint (digits : List Char) : Int → List Char × List Char
  | .ofNat k =>
    let whole := digits.take (k + 1)
    (whole ++ List.replicate (k + 1 - whole.length) '0', digits.drop (k + 1))
  | .negSucc k => (['0'], List.replicate k '0' ++ digits)

/-- The digits of a finite number and the exponent of the leading one. -/
def digitsOf (x : Float) : List Char × Int :=
  let s := shortest x
  let digits := Nat.toDigits 10 s.digits
  (digits, s.exponent + digits.length - 1)

/-- Whether the sign bit of a number is set. -/
def isNegative (x : Float) : Bool := decide (Nat.pow 2 63 ≤ x.toBits.toNat)

/-- A number without an exponent, with a point only before a fraction. -/
def plain (x : Float) : String :=
  if x.isNaN then "NaN"
  else
    let magnitude :=
      if x.isInf then "inf"
      else
        let (digits, e) := digitsOf x
        let (whole, fraction) := splitAtPoint digits e
        String.ofList (if fraction.isEmpty then whole else whole ++ '.' :: fraction)
    if isNegative x then "-" ++ magnitude else magnitude

end TypeCatalog.Decimal
