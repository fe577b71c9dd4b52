import TypeCatalog.Json.Numeral
import TypeCatalog.Json.StringLiteral

/-!
# Reading JSON

The reader takes a text one character at a time. Its state is a stack of the containers that are
open and wait for a value, and a mode that says what the next character may be. It stops at the
first character that no JSON text can have at its place.
-/

namespace TypeCatalog.Json

namespace Reader

/-! ### States -/

/-- A container that is open and waits for a value. -/
inductive Frame where
  /-- A list with its elements so far, last one first. -/
  | list (done : List Json)
  /-- An object with its fields so far and the key of the next one. -/
  | field (done : Fields Json) (key : String)

/-- Where a complete value stands. -/
inductive Place where
  /-- It is the whole text. -/
  | whole (v : Json)
  /-- It was added to these elements. -/
  | inList (done : List Json)
  /-- It was added to these fields. -/
  | inObject (done : Fields Json)

/-- What is read next. -/
inductive Mode where
  | value
  /-- Behind `[`. -/
  | listStart
  /-- Behind a comma in a list. -/
  | listItem (done : List Json)
  /-- Behind `{`. -/
  | objectStart
  /-- Behind a comma in an object. -/
  | objectKey (done : Fields Json)
  /-- Inside a key. -/
  | key (done : Fields Json) (l : StringLiteral)
  /-- Behind a key. -/
  | colon (done : Fields Json) (key : String)
  /-- Inside a string. -/
  | string (l : StringLiteral)
  /-- Inside a number. -/
  | numeral (n : Numeral)
  /-- Inside a word that stands for `v`, before its letters `next` and `rest`. -/
  | word (next : Char) (rest : List Char) (v : Json)
  /-- Behind a value. -/
  | after (place : Place)

/-- The state of the reader. -/
structure State where
  mode : Mode
  stack : List Frame

/-- Before the first character. -/
def State.start : State := ⟨.value, []⟩

/-! ### Steps -/

/-- The blanks of JSON. -/
def isBlank (c : Char) : Bool := c == ' ' || c == '\n' || c == '\t' || c == '\r'

/-- Hands a complete value to the container that waits for it. -/
def complete (v : Json) : List Frame → Place × List Frame
  | [] => (.whole v, [])
  | .list done :: stack => (.inList (v :: done), stack)
  | .field done key :: stack => (.inObject (done.insert key v), stack)

/-- The state behind a complete value. -/
def behind (v : Json) (stack : List Frame) : State :=
  ⟨.after (complete v stack).1, (complete v stack).2⟩

/-- The first character of a value. The containers on the stack and the new one may be `limit`
many. -/
def startValue (limit : Nat) (stack : List Frame) (c : Char) : Except Refusal State :=
  match c with
  | '"' => .ok ⟨.string .start, stack⟩
  | '[' => if stack.length < limit then .ok ⟨.listStart, stack⟩ else .error ⟨.tooDeep, 1⟩
  | '{' => if stack.length < limit then .ok ⟨.objectStart, stack⟩ else .error ⟨.tooDeep, 1⟩
  | 't' => .ok ⟨.word 'r' ['u', 'e'] (.bool true), stack⟩
  | 'f' => .ok ⟨.word 'a' ['l', 's', 'e'] (.bool false), stack⟩
  | 'n' => .ok ⟨.word 'u' ['l', 'l'] .null, stack⟩
  | c =>
    match Numeral.start? c with
    | some n => .ok ⟨.numeral n, stack⟩
    | none => .error ⟨.expectedValue, 1⟩

/-- The character behind a value. -/
def stepAfter (place : Place) (stack : List Frame) (c : Char) : Except Refusal State :=
  if isBlank c then .ok ⟨.after place, stack⟩
  else match place with
    | .whole _ => .error ⟨.trailingCharacters, 1⟩
    | .inList done =>
      if c = ',' then .ok ⟨.listItem done, stack⟩
      else if c = ']' then .ok (behind (.arr done.reverse) stack)
      else .error ⟨.expectedListEnd, 1⟩
    | .inObject done =>
      if c = ',' then .ok ⟨.objectKey done, stack⟩
      else if c = '}' then .ok (behind (.obj done) stack)
      else .error ⟨.expectedObjectEnd, 1⟩

/-- Takes the next character. -/
def step (limit : Nat) (s : State) (c : Char) : Except Refusal State :=
  match s.mode with
  | .value => if isBlank c then .ok s else startValue limit s.stack c
  | .listStart =>
    if isBlank c then .ok s
    else if c = ']' then .ok (behind (.arr []) s.stack)
    else startValue limit (.list [] :: s.stack) c
  | .listItem done =>
    if isBlank c then .ok s
    else if c = ']' then .error ⟨.trailingComma, 1⟩
    else startValue limit (.list done :: s.stack) c
  | .objectStart =>
    if isBlank c then .ok s
    else if c = '"' then .ok ⟨.key [] .start, s.stack⟩
    else if c = '}' then .ok (behind (.obj []) s.stack)
    else .error ⟨.keyNotString, 1⟩
  | .objectKey done =>
    if isBlank c then .ok s
    else if c = '"' then .ok ⟨.key done .start, s.stack⟩
    else if c = '}' then .error ⟨.trailingComma, 1⟩
    else .error ⟨.keyNotString, 1⟩
  | .key done l =>
    (l.step c).map fun
      | .more l' => ⟨.key done l', s.stack⟩
      | .closed key => ⟨.colon done key, s.stack⟩
  | .colon done key =>
    if isBlank c then .ok s
    else if c = ':' then .ok ⟨.value, .field done key :: s.stack⟩
    else .error ⟨.expectedColon, 1⟩
  | .string l =>
    (l.step c).map fun
      | .more l' => ⟨.string l', s.stack⟩
      | .closed text => behind (.str text) s.stack
  | .numeral n =>
    match n.step c with
    | .error cause => .error ⟨cause, 1⟩
    | .ok (some n') => .ok ⟨.numeral n', s.stack⟩
    | .ok none =>
      match n.finish with
      | .error cause => .error ⟨cause, 0⟩
      | .ok v => stepAfter (complete v s.stack).1 (complete v s.stack).2 c
  | .word next rest v =>
    if c = next then
      match rest with
      | [] => .ok (behind v s.stack)
      | d :: rest => .ok ⟨.word d rest v, s.stack⟩
    else .error ⟨.expectedWord, 1⟩
  | .after place => stepAfter place s.stack c

/-- Takes the characters of a text one after the other; `offset` counts the bytes before them. -/
def run (limit : Nat) (s : State) (offset : Nat) : List Char → Except Fault (State × Nat)
  | [] => .ok (s, offset)
  | c :: cs =>
    match step limit s c with
    | .ok s' => run limit s' (offset + c.utf8Size) cs
    | .error r => .error ⟨r.cause, offset + r.ahead⟩

/-! ### The end of the text -/

/-- What the end of the text means behind a value. -/
def finishAfter : Place → Except Cause Json
  | .whole v => .ok v
  | .inList _ => .error .endInList
  | .inObject _ => .error .endInObject

/-- The value of a text that ends here. -/
def finish (s : State) : Except Cause Json :=
  match s.mode with
  | .value | .listItem _ | .objectKey _ | .word .. => .error .endInValue
  | .listStart => .error .endInList
  | .objectStart | .colon .. => .error .endInObject
  | .key .. | .string _ => .error .endInString
  | .numeral n =>
    match n.finish with
    | .error cause => .error cause
    | .ok v => finishAfter (complete v s.stack).1
  | .after place => finishAfter place

end Reader

/-- The value of a JSON text with at most `limit` containers inside each other. -/
def parseWithin (limit : Nat) (text : List Char) : Except Fault Json :=
  match Reader.run limit .start 0 text with
  | .error fault => .error fault
  | .ok (s, offset) =>
    match Reader.finish s with
    | .ok v => .ok v
    | .error cause => .error ⟨cause, offset⟩

/-- How many containers may be inside each other. -/
def depthLimit : Nat := 127

/-- The value of a JSON text. -/
def parse (text : List Char) : Except Fault Json := parseWithin depthLimit text

end TypeCatalog.Json
