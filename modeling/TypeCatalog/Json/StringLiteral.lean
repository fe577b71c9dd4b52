import TypeCatalog.Json.Fault

/-!
# JSON strings

`StringLiteral.step` reads the inside of a string character by character, `escape` writes it.
The four characters of a `\u` escape are taken by their bytes: four bytes are looked at before any
of them is judged.
-/

namespace TypeCatalog.Json

/-- What part of a string the next character belongs to. -/
inductive StringPhase where
  /-- A plain character, an escape, or the closing quote. -/
  | plain
  /-- The letter behind a backslash. -/
  | escape
  /-- The digits of a `\u` escape: how many bytes were taken, their value while all were digits,
  and the first half of a surrogate pair if this is its second half. -/
  | hex (taken : Nat) (value : Option Nat) (high : Option Nat)
  /-- The backslash that must follow the first half of a surrogate pair. -/
  | pairSlash (high : Nat)
  /-- The letter `u` that must follow that backslash. -/
  | pairLetter (high : Nat)
  deriving DecidableEq, Repr

/-- A string of which a part has been read; its characters stand last one first. -/
structure StringLiteral where
  characters : List Char
  phase : StringPhase
  deriving DecidableEq, Repr

namespace StringLiteral

/-! ### Reading -/

/-- Just behind the opening quote. -/
def start : StringLiteral := ⟨[], .plain⟩

/-- One more character, and then plain text again. -/
def push (l : StringLiteral) (c : Char) : StringLiteral := ⟨c :: l.characters, .plain⟩

/-- The value of a hexadecimal digit. -/
def hexDigit? (c : Char) : Option Nat :=
  if c.isDigit then some (c.toNat - '0'.toNat)
  else if 'a' ≤ c ∧ c ≤ 'f' then some (c.toNat - 'a'.toNat + 10)
  else if 'A' ≤ c ∧ c ≤ 'F' then some (c.toNat - 'A'.toNat + 10)
  else none

/-- The character a letter stands for behind a backslash. -/
def escapeLetter? : Char → Option Char
  | '"' => some '"'
  | '\\' => some '\\'
  | '/' => some '/'
  | 'b' => some '\x08'
  | 'f' => some '\x0c'
  | 'n' => some '\n'
  | 'r' => some '\r'
  | 't' => some '\t'
  | _ => none

/-- First halves of surrogate pairs. -/
def isHigh (n : Nat) : Bool := decide (0xD800 ≤ n ∧ n < 0xDC00)

/-- Second halves of surrogate pairs. -/
def isLow (n : Nat) : Bool := decide (0xDC00 ≤ n ∧ n < 0xE000)

/-- The character of a surrogate pair. -/
def pairChar (high low : Nat) : Char :=
  Char.ofNat (0x10000 + (high - 0xD800) * 0x400 + (low - 0xDC00))

/-- A complete `\u` escape with value `n`. -/
def codeUnit (l : StringLiteral) (n : Nat) : Option Nat → Except Cause StringLiteral
  | none =>
    if isLow n then .error .loneSurrogate
    else if isHigh n then .ok { l with phase := .pairSlash n }
    else .ok (l.push (Char.ofNat n))
  | some high =>
    if isLow n then .ok (l.push (pairChar high n)) else .error .loneSurrogate

/-- What one character does to a string. -/
inductive Outcome where
  | more (l : StringLiteral)
  /-- The closing quote. -/
  | closed (s : String)

/-- The string read. -/
def text (l : StringLiteral) : String := String.ofList l.characters.reverse

/-- Takes the next character. -/
def step (l : StringLiteral) (c : Char) : Except Refusal Outcome :=
  match l.phase with
  | .plain =>
    if c = '"' then .ok (.closed l.text)
    else if c = '\\' then .ok (.more { l with phase := .escape })
    else if c.toNat < 0x20 then .error ⟨.controlCharacter, 1⟩
    else .ok (.more (l.push c))
  | .escape =>
    if c = 'u' then .ok (.more { l with phase := .hex 0 (some 0) none })
    else match escapeLetter? c with
      | some d => .ok (.more (l.push d))
      | none => .error ⟨.invalidEscape, 1⟩
  | .hex taken value high =>
    let value' := value.bind fun n => (hexDigit? c).map (n * 16 + ·)
    if taken + c.utf8Size < 4 then
      .ok (.more { l with phase := .hex (taken + c.utf8Size) value' high })
    else match value' with
      | none => .error ⟨.invalidEscape, 4 - taken⟩
      | some n =>
        match l.codeUnit n high with
        | .ok l' => .ok (.more l')
        | .error cause => .error ⟨cause, 4 - taken⟩
  | .pairSlash high =>
    if c = '\\' then .ok (.more { l with phase := .pairLetter high })
    else .error ⟨.unfinishedPair, 1⟩
  | .pairLetter high =>
    if c = 'u' then .ok (.more { l with phase := .hex 0 (some 0) (some high) })
    else .error ⟨.unfinishedPair, 1⟩

/-! ### Writing -/

/-- A hexadecimal digit, in lower case. -/
def hexLetter (n : Nat) : Char := Nat.digitChar n

/-- One character inside a string: quotes, backslashes and characters below U+0020 are escaped. -/
def escapeChar (c : Char) : List Char :=
  if c = '"' then ['\\', '"']
  else if c = '\\' then ['\\', '\\']
  else if c = '\x08' then ['\\', 'b']
  else if c = '\t' then ['\\', 't']
  else if c = '\n' then ['\\', 'n']
  else if c = '\x0c' then ['\\', 'f']
  else if c = '\r' then ['\\', 'r']
  else if c.toNat < 0x20 then
    ['\\', 'u', '0', '0', hexLetter (c.toNat / 16), hexLetter (c.toNat % 16)]
  else [c]

/-- A string between its quotes. -/
def quote (s : String) : List Char := '"' :: (s.toList.flatMap escapeChar ++ ['"'])

end StringLiteral
end TypeCatalog.Json
