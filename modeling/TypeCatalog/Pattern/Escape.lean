import TypeCatalog.Decimal.Reading
import TypeCatalog.Pattern.Mode

/-!
# Escapes in a pattern

What a backslash and the characters behind it stand for.
-/

namespace TypeCatalog.Pattern

/-- What a part of a pattern without parts of its own stands for. -/
inductive Meaning where
  | literal (c : Char)
  /-- Any of several characters. -/
  | several
  /-- A place in the text. -/
  | place
  deriving DecidableEq, Repr

/-- How many hexadecimal digits follow a letter behind a backslash. -/
def codeLength? : Char → Option Nat
  | 'x' => some 2
  | 'u' => some 4
  | 'U' => some 8
  | _ => none

/-- The control that a letter stands for behind a backslash. -/
def control? : Char → Option Char
  | 'a' => some '\x07'
  | 'f' => some '\x0c'
  | 't' => some '\t'
  | 'n' => some '\n'
  | 'r' => some '\r'
  | 'v' => some '\x0b'
  | _ => none

/-- The first `length` characters of a text that are no part of what means nothing, and what
follows them. -/
def spacedTake? (mode : Mode) : Nat → List Char → Option (List Char × List Char)
  | 0, text => some ([], text)
  | length + 1, text =>
    match mode.skip text with
    | [] => none
    | c :: rest => (spacedTake? mode length rest).map fun (cs, rest) => (c :: cs, rest)

/-- The character of a code with `length` hexadecimal digits; one of two digits is a byte, which
is a character of ASCII if the pattern is about bytes. -/
def code? (mode : Mode) (length : Nat) (text : List Char) : Option (Char × List Char) := do
  let (digits, rest) ← spacedTake? mode length text
  let n ← Decimal.natOfDigits? 16 digits
  if n.isValidChar && (mode.unicode || length != 2 || decide (n < 0x80)) then
    some (Char.ofNat n, rest)
  else none

/-- What an escape stands for behind its backslash, and what follows it. A boundary of words can
be asked for among bytes alone, a class that reaches beyond ASCII among characters alone. -/
def escape? (mode : Mode) : List Char → Option (Meaning × List Char)
  | [] => none
  | c :: rest =>
    match codeLength? c, control? c with
    | some length, _ => (code? mode length rest).map fun (c, rest) => (.literal c, rest)
    | none, some control => some (.literal control, rest)
    | none, none =>
      if c == 'p' || c == 'P' then
        match mode.skip rest with
        | name :: rest =>
          if mode.unicode && "LMNPSZC".toList.contains name.toUpper then some (.several, rest)
          else none
        | [] => none
      else if "dsw".toList.contains c then some (.several, rest)
      else if "DSW".toList.contains c then if mode.unicode then some (.several, rest) else none
      else if "Az".toList.contains c then some (.place, rest)
      else if "bB<>".toList.contains c then if mode.unicode then none else some (.place, rest)
      else if c.isAlphanum || 0x80 ≤ c.toNat then none
      else some (.literal c, rest)

end TypeCatalog.Pattern
