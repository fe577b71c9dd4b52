/-!
# Reading decimals

Numbers as people write them in settings: digits with or without a sign, a fraction and an
exponent, correctly rounded to a floating-point number.
-/

namespace TypeCatalog.Decimal

/-- The value of a digit in a base of at most sixteen. -/
def digitValue? (base : Nat) (c : Char) : Option Nat :=
  let value :=
    if c.isDigit then some (c.toNat - '0'.toNat)
    else if 'a' ≤ c ∧ c ≤ 'f' then some (c.toNat - 'a'.toNat + 10)
    else if 'A' ≤ c ∧ c ≤ 'F' then some (c.toNat - 'A'.toNat + 10)
    else none
  value.filter (· < base)

/-- The number that digits stand for, behind a number already read. -/
def digitsFrom (base acc : Nat) : List Char → Option Nat
  | [] => some acc
  | c :: cs =>
    match digitValue? base c with
    | some d => digitsFrom base (acc * base + d) cs
    | none => none

/-- The number that one or more digits stand for. -/
def natOfDigits? (base : Nat) (cs : List Char) : Option Nat :=
  if cs.isEmpty then none else digitsFrom base 0 cs

/-- A natural number below a bound; a plus sign may stand before it. -/
def unsigned? (bound : Nat) (cs : List Char) : Option Nat :=
  let digits := match cs with
    | '+' :: rest => rest
    | _ => cs
  (natOfDigits? 10 digits).filter (· < bound)

/-- A number with a minus sign that is not below a bound. -/
def negative? (bound : Nat) (cs : List Char) : Option Int :=
  match cs with
  | '-' :: rest => ((natOfDigits? 10 rest).filter (· ≤ bound)).map fun n => -(n : Int)
  | _ => none

/-- The number nearest to `digits * 10 ^ exponent`, also where the exponent is huge. -/
def nearest (digits : Nat) (exponent : Int) : Float :=
  let reach := exponent + (Nat.toDigits 10 digits).length
  if digits = 0 ∨ reach < -400 then 0
  else if 400 < reach then 1 / 0
  else match exponent with
    | .ofNat e => Float.ofScientific digits false e
    | .negSucc e => Float.ofScientific digits true (e + 1)

/-- An exponent with or without a sign. -/
def exponent? : List Char → Option Int
  | '-' :: rest => (natOfDigits? 10 rest).map fun n => -(n : Int)
  | '+' :: rest => (natOfDigits? 10 rest).map fun n => (n : Int)
  | rest => (natOfDigits? 10 rest).map fun n => (n : Int)

/-- A magnitude: digits, perhaps a point among or around them, perhaps an exponent; or a word for
infinity or for no number. -/
def magnitude? (cs : List Char) : Option Float :=
  let word := String.ofList (cs.map Char.toLower)
  if word = "inf" ∨ word = "infinity" then some (1 / 0)
  else if word = "nan" then some (0 / 0)
  else
    let whole := cs.takeWhile Char.isDigit
    let behind := cs.dropWhile Char.isDigit
    let fraction := match behind with
      | '.' :: rest => rest.takeWhile Char.isDigit
      | _ => []
    let last := match behind with
      | '.' :: rest => rest.dropWhile Char.isDigit
      | _ => behind
    let exponent := match last with
      | [] => some 0
      | c :: rest => if c = 'e' ∨ c = 'E' then exponent? rest else none
    match natOfDigits? 10 (whole ++ fraction), exponent with
    | some digits, some e => some (nearest digits (e - fraction.length))
    | _, _ => none

/-- A number with or without a sign. -/
def float? : List Char → Option Float
  | '-' :: rest => (magnitude? rest).map fun x => -x
  | '+' :: rest => magnitude? rest
  | cs => magnitude? cs

end TypeCatalog.Decimal
