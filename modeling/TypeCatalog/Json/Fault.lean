/-!
# Faults of JSON text

The ways in which a text fails to be JSON, and where reading stopped.
-/

namespace TypeCatalog.Json

/-- Why reading stopped. -/
inductive Cause where
  /-- The text ends where a value is due, or inside a word or a number. -/
  | endInValue
  | endInList
  | endInObject
  | endInString
  | expectedValue
  /-- A word other than `true`, `false` and `null`. -/
  | expectedWord
  | expectedColon
  | expectedListEnd
  | expectedObjectEnd
  | keyNotString
  /-- A comma before a closing bracket. -/
  | trailingComma
  /-- Something follows the value. -/
  | trailingCharacters
  /-- A character below U+0020 inside a string. -/
  | controlCharacter
  | invalidEscape
  /-- A `\u` escape of half a surrogate pair that is not its first half. -/
  | loneSurrogate
  /-- The first half of a surrogate pair without a second `\u` escape. -/
  | unfinishedPair
  | invalidNumber
  | numberOutOfRange
  /-- More containers inside each other than allowed. -/
  | tooDeep
  deriving DecidableEq, Repr

/-- The wording of a cause. -/
def Cause.message : Cause → String
  | .endInValue => "EOF while parsing a value"
  | .endInList => "EOF while parsing a list"
  | .endInObject => "EOF while parsing an object"
  | .endInString => "EOF while parsing a string"
  | .expectedValue => "expected value"
  | .expectedWord => "expected ident"
  | .expectedColon => "expected `:`"
  | .expectedListEnd => "expected `,` or `]`"
  | .expectedObjectEnd => "expected `,` or `\x7d`"
  | .keyNotString => "key must be a string"
  | .trailingComma => "trailing comma"
  | .trailingCharacters => "trailing characters"
  | .controlCharacter => "control character (\\u0000-\\u001F) found while parsing a string"
  | .invalidEscape => "invalid escape"
  | .loneSurrogate => "lone leading surrogate in hex escape"
  | .unfinishedPair => "unexpected end of hex escape"
  | .invalidNumber => "invalid number"
  | .numberOutOfRange => "number out of range"
  | .tooDeep => "recursion limit exceeded"

/-- Why one character is refused, and how many bytes from its start the reader had looked at. -/
structure Refusal where
  cause : Cause
  ahead : Nat := 1
  deriving DecidableEq, Repr

/-- Why a text is refused, and the byte offset at which the reader stopped. -/
structure Fault where
  cause : Cause
  offset : Nat
  deriving DecidableEq, Repr

end TypeCatalog.Json
