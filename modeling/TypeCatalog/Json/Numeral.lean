import TypeCatalog.Json.Fault
import TypeCatalog.Json.Value

/-!
# JSON numbers, read character by character

A `Numeral` is a number of which a part has been read. Its leading digits are kept as long as they
fit in 64 bits; later digits of the whole part only scale the number by ten, later digits of the
fraction are dropped. A whole number that is kept in full is an exact integer, anything else is a
floating-point number: the kept digits as such a number, times or divided by a power of ten.
-/

namespace TypeCatalog.Json

/-- How far a number has been read. -/
inductive NumeralPhase where
  /-- Just behind the minus sign. -/
  | sign
  /-- Behind a leading zero. -/
  | zero
  /-- In the whole part, all of it kept. -/
  | whole
  /-- In the whole part, behind the digits that are kept. -/
  | wholeExcess
  /-- Just behind the point. -/
  | point
  /-- In the fraction, all of it kept. -/
  | fraction
  /-- In the fraction, behind the digits that are kept. -/
  | fractionExcess
  /-- Just behind the exponent mark. -/
  | mark
  /-- Just behind the sign of the exponent. -/
  | exponentSign (negative : Bool)
  /-- In the exponent. -/
  | exponent (negative : Bool) (value : Nat)
  /-- In an exponent that no longer matters. -/
  | exponentExcess
  deriving DecidableEq, Repr

/-- A number of which a part has been read. -/
structure Numeral where
  negative : Bool
  /-- The digits kept. -/
  significand : Nat
  /-- The power of ten that the digits kept are to be multiplied by. -/
  scale : Int
  phase : NumeralPhase
  deriving DecidableEq, Repr

namespace Numeral

/-! ### Reading -/

/-- Significands stay below this bound. -/
def significandBound : Nat := Nat.pow 2 64

/-- Exponents stay below this bound. -/
def exponentBound : Nat := Nat.pow 2 31

/-- The value of a decimal digit. -/
def digit? (c : Char) : Option Nat :=
  if c.isDigit then some (c.toNat - '0'.toNat) else none

/-- The number that starts with a character, if one can. -/
def start? (c : Char) : Option Numeral :=
  if c = '-' then some ⟨true, 0, 0, .sign⟩
  else if c = '0' then some ⟨false, 0, 0, .zero⟩
  else (digit? c).map (⟨false, ·, 0, .whole⟩)

/-- The number with one more digit kept, unless it would no longer fit. -/
def keep? (n : Numeral) (d : Nat) : Option Numeral :=
  if n.significand * 10 + d < significandBound then
    some { n with significand := n.significand * 10 + d }
  else none

/-- What may follow a whole part: a point, an exponent mark, or the end of the number. -/
def afterWhole (n : Numeral) (c : Char) : Option Numeral :=
  if c = '.' then some { n with phase := .point }
  else if c = 'e' ∨ c = 'E' then some { n with phase := .mark }
  else none

/-- What may follow a fraction: an exponent mark, or the end of the number. -/
def afterFraction (n : Numeral) (c : Char) : Option Numeral :=
  if c = 'e' ∨ c = 'E' then some { n with phase := .mark } else none

/-- A digit of the fraction. -/
def fractionDigit (n : Numeral) (d : Nat) : Numeral :=
  match n.keep? d with
  | some n' => { n' with scale := n.scale - 1, phase := .fraction }
  | none => { n with phase := .fractionExcess }

/-- A further digit of the exponent. Beyond the bound the number is out of range if it grows,
and zero if it does not. -/
def exponentDigit (n : Numeral) (negative : Bool) (value d : Nat) : Except Cause Numeral :=
  if value * 10 + d < exponentBound then
    .ok { n with phase := .exponent negative (value * 10 + d) }
  else if n.significand ≠ 0 ∧ negative = false then .error .numberOutOfRange
  else .ok { n with phase := .exponentExcess }

/-- Takes the next character; nothing if the number ends before it. -/
def step (n : Numeral) (c : Char) : Except Cause (Option Numeral) :=
  match n.phase, digit? c with
  | .sign, some d =>
    .ok (some { n with significand := d, phase := if d = 0 then .zero else .whole })
  | .sign, none => .error .invalidNumber
  | .zero, some _ => .error .invalidNumber
  | .zero, none => .ok (n.afterWhole c)
  | .whole, some d =>
    match n.keep? d with
    | some n' => .ok (some n')
    | none => .ok (some { n with scale := n.scale + 1, phase := .wholeExcess })
  | .whole, none => .ok (n.afterWhole c)
  | .wholeExcess, some _ => .ok (some { n with scale := n.scale + 1 })
  | .wholeExcess, none => .ok (n.afterWhole c)
  | .point, some d => .ok (some (n.fractionDigit d))
  | .point, none => .error .invalidNumber
  | .fraction, some d => .ok (some (n.fractionDigit d))
  | .fraction, none => .ok (n.afterFraction c)
  | .fractionExcess, some _ => .ok (some n)
  | .fractionExcess, none => .ok (n.afterFraction c)
  | .mark, some d => .ok (some { n with phase := .exponent false d })
  | .mark, none =>
    if c = '+' then .ok (some { n with phase := .exponentSign false })
    else if c = '-' then .ok (some { n with phase := .exponentSign true })
    else .error .invalidNumber
  | .exponentSign negative, some d => .ok (some { n with phase := .exponent negative d })
  | .exponentSign _, none => .error .invalidNumber
  | .exponent negative value, some d => (n.exponentDigit negative value d).map some
  | .exponent _ _, none => .ok none
  | .exponentExcess, some _ => .ok (some n)
  | .exponentExcess, none => .ok none

/-! ### Values -/

/-- The greatest exponent of a power of ten that is a finite number. -/
def greatestPower : Nat := 308

/-- A power of ten, correctly rounded. -/
def powerOfTen (e : Nat) : Float := Float.ofScientific 1 false e

/-- `f * 10 ^ e`, unless it is too large. -/
def scaleUp (f : Float) (e : Nat) : Except Cause Float :=
  if e ≤ greatestPower then
    let g := f * powerOfTen e
    if g.isInf then .error .numberOutOfRange else .ok g
  else if f == 0 then .ok f
  else .error .numberOutOfRange

/-- `f / 10 ^ e`, in steps that each divide by a finite number. -/
def scaleDown (f : Float) (e : Nat) : Float :=
  if e ≤ greatestPower then f / powerOfTen e
  else if f == 0 then f
  else scaleDown (f / powerOfTen greatestPower) (e - greatestPower)
termination_by e
decreasing_by
  rename_i h _
  have : 0 < greatestPower := by decide
  omega

/-- `f * 10 ^ e`, unless it is too large. -/
def scaleBy (f : Float) : Int → Except Cause Float
  | .ofNat e => scaleUp f e
  | .negSucc e => .ok (scaleDown f (e + 1))

/-- The floating-point number of a sign and a magnitude. -/
def signed (negative : Bool) (x : Float) : Json := .float (if negative then -x else x)

/-- The whole number read: exact where it fits 64 bits, and `-0` is a floating-point zero. -/
def wholeValue (n : Numeral) : Json :=
  if n.negative then
    if n.significand ≠ 0 ∧ minInt ≤ -(n.significand : Int) then .int (-(n.significand : Int))
    else signed true n.significand.toUInt64.toFloat
  else .int n.significand

/-- The floating-point number read, with `e` as its exponent. -/
def scaledValue (n : Numeral) (e : Int) : Except Cause Json :=
  (scaleBy n.significand.toUInt64.toFloat (n.scale + e)).map (signed n.negative)

/-- The value of a number that ends here. -/
def finish (n : Numeral) : Except Cause Json :=
  match n.phase with
  | .sign | .point | .mark | .exponentSign _ => .error .endInValue
  | .zero | .whole => .ok n.wholeValue
  | .wholeExcess | .fraction | .fractionExcess => n.scaledValue 0
  | .exponent negative value => n.scaledValue (if negative then -(value : Int) else value)
  | .exponentExcess => .ok (signed n.negative 0)

end Numeral
end TypeCatalog.Json
