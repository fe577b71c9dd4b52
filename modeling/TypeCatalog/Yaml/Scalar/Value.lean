import TypeCatalog.Decimal.Reading
import TypeCatalog.Settings.Tree

/-!
# The values of plain scalars

A scalar without quotes has a type: there are words for null and the truth values, integers in four
bases, and floating-point numbers; everything else is text.
-/

namespace TypeCatalog.Yaml

/-- Whether a text is a word for null. -/
def isNull (text : String) : Bool := ["~", "null", "Null", "NULL"].contains text

/-- The truth value that a word stands for. -/
def boolean? (text : String) : Option Bool :=
  if ["true", "True", "TRUE"].contains text then some true
  else if ["false", "False", "FALSE"].contains text then some false
  else none

/-- The base and the digits of a number with a letter for its base. -/
def basedDigits? : List Char → Option (Nat × List Char)
  | '0' :: 'x' :: digits => some (16, digits)
  | '0' :: 'o' :: digits => some (8, digits)
  | '0' :: 'b' :: digits => some (2, digits)
  | _ => none

/-- A number without its sign. -/
def unsigned (cs : List Char) : List Char :=
  match cs with
  | '+' :: rest | '-' :: rest => rest
  | _ => cs

/-- Whether digits stand behind a leading zero; such digits are text. -/
def isZeroPadded (cs : List Char) : Bool :=
  match unsigned cs with
  | '0' :: d :: rest => (d :: rest).all Char.isDigit
  | _ => false

/-- The natural number that digits stand for, perhaps in another base than ten. -/
def natural? (digits : List Char) : Option Nat :=
  match basedDigits? digits with
  | some (base, digits) => Decimal.natOfDigits? base digits
  | none => Decimal.natOfDigits? 10 digits

/-- The integer that a text is; it has at most 128 bits. -/
def integer? (cs : List Char) : Option Settings.Scalar :=
  if isZeroPadded cs then none
  else match cs with
    | '-' :: digits =>
      match natural? digits with
      | some n => if n ≤ Nat.pow 2 127 then some (.signed (-(n : Int))) else none
      | none => none
    | _ =>
      match natural? (unsigned cs) with
      | some n => if n < Nat.pow 2 128 then some (.unsigned n) else none
      | none => none

/-- The floating-point number that a text is. Infinity and what is no number are words with a
point in front. -/
def float? (cs : List Char) : Option Float :=
  let word := String.ofList cs
  if [".inf", ".Inf", ".INF", "+.inf", "+.Inf", "+.INF"].contains word then some (1 / 0)
  else if ["-.inf", "-.Inf", "-.INF"].contains word then some (-1 / 0)
  else if [".nan", ".NaN", ".NAN"].contains word then some (0 / 0)
  else (Decimal.float? cs).filter Float.isFinite

/-- The value of a plain scalar. -/
def plainValue (text : String) : Settings.Scalar :=
  let cs := text.toList
  if text.isEmpty || isNull text then .unit
  else match boolean? text, integer? cs with
    | some b, _ => .bool b
    | none, some n => n
    | none, none =>
      match if isZeroPadded cs then none else float? cs with
      | some x => .float x
      | none => .text text

end TypeCatalog.Yaml
