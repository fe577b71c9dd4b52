import TypeCatalog.Decimal.Reading
import TypeCatalog.Yaml.Place

/-!
# Anchors, tags and directives

The small texts that stand before a node or a document. A tag has a handle and a suffix; the handle
stands for the start of the tag. A directive says the version of YAML or what a handle stands for.
A tag consists of bytes, since percent signs may spell bytes that are no text.
-/

namespace TypeCatalog.Yaml

/-! ### Words -/

/-- The characters at the cursor that are in a class, and the cursor behind them. -/
def Cursor.takeWhile (c : Cursor) (class? : Char → Bool) : List Char × Cursor :=
  let word := c.rest.takeWhile class?
  (word, c.advance word.length)

/-- The name of an anchor, at the character before it. -/
def anchorName? (c : Cursor) : Option (String × Cursor) :=
  let (name, c) := (c.advance 1).takeWhile isWordChar
  let ends := atGap c.rest || c.rest.head?.any fun x => "?:,]\x7d%@`".toList.contains x
  if name.isEmpty || !ends then none else some (String.ofList name, c)

/-! ### The bytes of tags -/

/-- The bytes of a tag. -/
abbrev TagBytes := List UInt8

/-- The bytes of a text. -/
def TagBytes.ofText (text : String) : TagBytes := text.toList.flatMap String.utf8EncodeChar

/-- The text that the bytes spell, if they spell one. -/
def TagBytes.text? (bytes : TagBytes) : Option String :=
  String.fromUTF8? (ByteArray.mk bytes.toArray)

/-- The bytes before the first zero byte, which ends a tag or a part of it. -/
def TagBytes.untilZero (bytes : TagBytes) : TagBytes := bytes.takeWhile (· != 0)

/-- The byte that a percent sign with two hexadecimal digits stands for. -/
def percentByte? : List Char → Option (UInt8 × List Char)
  | '%' :: a :: b :: rest => (Decimal.natOfDigits? 16 [a, b]).map fun n => (n.toUInt8, rest)
  | _ => none

/-- How many bytes a character has that starts with the byte `b`. -/
def widthOfLead? (b : UInt8) : Option Nat :=
  if b < 0x80 then some 1
  else if 0xC0 ≤ b ∧ b < 0xE0 then some 2
  else if 0xE0 ≤ b ∧ b < 0xF0 then some 3
  else if 0xF0 ≤ b ∧ b < 0xF8 then some 4
  else none

/-- Further bytes of a character, spelled with percent signs. -/
def trailingBytes? : Nat → List Char → Option (TagBytes × List Char)
  | 0, text => some ([], text)
  | count + 1, text => do
    let (b, text) ← percentByte? text
    if 0x80 ≤ b ∧ b < 0xC0 then
      let (bs, text) ← trailingBytes? count text
      return (b :: bs, text)
    else none

/-- The bytes of a character that percent signs spell. There need not be such a character. -/
def percentChar? (text : List Char) : Option (TagBytes × List Char) := do
  let (lead, rest) ← percentByte? text
  let width ← widthOfLead? lead
  let (bytes, rest) ← trailingBytes? (width - 1) rest
  return (lead :: bytes, rest)

/-- A part of a tag in which percent signs spell bytes, and how many characters of the text it
takes; `fuel` bounds the characters that are read. -/
def tagText? (class? : Char → Bool) : Nat → List Char → Option (TagBytes × Nat)
  | 0, _ => some ([], 0)
  | _, [] => some ([], 0)
  | fuel + 1, c :: rest =>
    if c == '%' then do
      let (bytes, after) ← percentChar? (c :: rest)
      let (more, width) ← tagText? class? fuel after
      return (bytes ++ more, (c :: rest).length - after.length + width)
    else if class? c then do
      let (more, width) ← tagText? class? fuel rest
      return (String.utf8EncodeChar c ++ more, width + 1)
    else some ([], 0)

/-- A part of a tag, and the cursor behind it. -/
def Cursor.tagText? (c : Cursor) (class? : Char → Bool) : Option (TagBytes × Cursor) :=
  (Yaml.tagText? class? c.rest.length c.rest).map fun (bytes, width) => (bytes, c.advance width)

/-- A part of a tag that is not empty, up to its first zero byte, and the cursor behind it. -/
def Cursor.tagPart? (c : Cursor) (class? : Char → Bool) : Option (TagBytes × Cursor) := do
  let (bytes, c) ← c.tagText? class?
  if bytes.isEmpty then none else some (bytes.untilZero, c)

/-! ### Tags -/

/-- A tag as it is written. -/
structure WrittenTag where
  /-- Between exclamation marks, or empty if the suffix is the whole tag. -/
  handle : String
  suffix : TagBytes
  deriving DecidableEq, Repr

/-- The start of a tag: an exclamation mark, a word, and perhaps another exclamation mark. -/
def Cursor.handle? (c : Cursor) : Option (List Char × Cursor) :=
  match c.rest with
  | '!' :: _ =>
    let (word, c) := (c.advance 1).takeWhile isWordChar
    match c.rest with
    | '!' :: _ => some ('!' :: word ++ ['!'], c.advance 1)
    | _ => some ('!' :: word, c)
  | _ => none

/-- A tag, at its exclamation mark. -/
def tag? (inFlow : Bool) (c : Cursor) : Option (WrittenTag × Cursor) := do
  let (tag, c) ← match c.rest with
    | _ :: '<' :: _ => do
      let (suffix, c) ← (c.advance 2).tagPart? isFullTagChar
      if c.rest.head? != some '>' then none else some (WrittenTag.mk "" suffix, c.advance 1)
    | _ => do
      let (handle, c) ← c.handle?
      match handle, handle.getLast? with
      | _ :: _ :: _, some '!' =>
        let (suffix, c) ← c.tagPart? isTagChar
        some (WrittenTag.mk (String.ofList handle) suffix, c)
      | _, _ =>
        let (bytes, c) ← c.tagText? isTagChar
        let suffix := (TagBytes.ofText (String.ofList handle.tail) ++ bytes).untilZero
        if suffix.isEmpty then some (WrittenTag.mk "" (TagBytes.ofText "!"), c)
        else some (WrittenTag.mk "!" suffix, c)
  if atGap c.rest || (inFlow && c.rest.head? == some ',') then some (tag, c) else none

/-! ### Directives -/

/-- What a directive says. -/
inductive Directive where
  | version (major minor : Nat)
  /-- What a handle stands for. -/
  | handle (handle : String) (meaning : TagBytes)
  deriving DecidableEq, Repr

/-- A part of a version number. -/
def Cursor.versionPart? (c : Cursor) : Option (Nat × Cursor) :=
  let (digits, c) := c.takeWhile Char.isDigit
  if 9 < digits.length then none else (Decimal.natOfDigits? 10 digits).map fun n => (n, c)

/-- The version behind the name of its directive. -/
def Cursor.version? (c : Cursor) : Option (Directive × Cursor) := do
  let (major, c) ← c.skipBlanks.versionPart?
  if c.rest.head? == some '.' then
    let (minor, c) ← (c.advance 1).versionPart?
    return (.version major minor, c)
  else none

/-- The handle and its meaning behind the name of their directive. -/
def Cursor.handleMeaning? (c : Cursor) : Option (Directive × Cursor) := do
  let (handle, c) ← c.skipBlanks.handle?
  let isHandle := handle == ['!'] || (handle.length != 1 && handle.getLast? == some '!')
  if !isHandle || !c.rest.head?.any isBlank then none
  else
    let (meaning, c) ← c.skipBlanks.tagPart? isFullTagChar
    if !atGap c.rest then none
    else some (.handle (String.ofList handle) meaning, c)

/-- A directive, at its percent sign, and the start of the next line. -/
def directive? (c : Cursor) : Option (Directive × Cursor) := do
  let (name, c) := (c.advance 1).takeWhile isWordChar
  if !atGap c.rest then none
  else
    let (directive, c) ←
      if name == "YAML".toList then c.version?
      else if name == "TAG".toList then c.handleMeaning?
      else none
    let c ← c.endOfLine?
    return (directive, c)

end TypeCatalog.Yaml
