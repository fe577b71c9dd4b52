import TypeCatalog.Yaml.Scalar.Block
import TypeCatalog.Yaml.Scalar.Plain
import TypeCatalog.Yaml.Scalar.Quoted
import TypeCatalog.Yaml.Token

/-!
# The tokens of a YAML text

Tokens are read from the left. A node on one line may turn out to be a key when a colon follows it;
until that is known the node waits in a queue, and no token behind it is given out. Block
collections are told by the columns of their lines: a line that starts further right opens one, a
line that starts further left closes those that it is left of.
-/

namespace TypeCatalog.Yaml

/-- A token that may turn out to start a key. -/
structure KeyCandidate where
  /-- The number of the token. -/
  number : Nat
  place : Place
  /-- Whether the line holds nothing of worth but a key: it starts where the keys of the block
  around it start. -/
  required : Bool
  deriving DecidableEq, Repr

/-- A text of which a part has been read. -/
structure Scan where
  cursor : Cursor
  /-- The tokens that are not given out yet. -/
  queue : List Token := []
  /-- How many tokens were given out. -/
  given : Nat := 0
  /-- The column of the innermost block collection; it is negative outside of all. -/
  indent : Int := -1
  /-- The columns of the block collections around it, innermost first. -/
  outerIndents : List Int := []
  /-- Whether a key may stand here. -/
  keyAllowed : Bool := true
  candidate : Option KeyCandidate := none
  /-- The candidates outside of the brackets that are open, innermost first. -/
  outerCandidates : List (Option KeyCandidate) := []

namespace Scan

/-- Whether the text is inside brackets. -/
def inFlow (s : Scan) : Bool := !s.outerCandidates.isEmpty

/-- The place that the scan is at. -/
def place (s : Scan) : Place := s.cursor.place

/-- The column that the scan is at. -/
def column (s : Scan) : Int := s.cursor.place.column

/-! ### The queue -/

/-- Puts a token at the end of the queue. -/
def push (s : Scan) (place : Place) (kind : TokenKind) : Scan :=
  { s with queue := s.queue ++ [⟨place, kind⟩] }

/-- Puts a token before the one with a number. -/
def insert (s : Scan) (number : Nat) (place : Place) (kind : TokenKind) : Scan :=
  { s with queue := s.queue.insertIdx (number - s.given) ⟨place, kind⟩ }

/-- Puts a token of some characters at the end of the queue, and goes behind it. -/
def pushSign (s : Scan) (width : Nat) (kind : TokenKind) : Scan :=
  { s.push s.place kind with cursor := s.cursor.advance width }

/-! ### Indentation -/

/-- Opens a block collection at a column unless one is open there; its token stands before the one
with a number if that is given. -/
def openBlock (s : Scan) (column : Int) (number : Option Nat) (place : Place)
    (kind : TokenKind) : Scan :=
  if s.inFlow || column ≤ s.indent then s
  else
    let s := { s with indent := column, outerIndents := s.indent :: s.outerIndents }
    match number with
    | some n => s.insert n place kind
    | none => s.push place kind

/-- Closes some block collections. -/
def closeCount : Nat → Scan → Scan
  | 0, s => s
  | count + 1, s =>
    let s := s.push s.place .blockEnd
    closeCount count { s with indent := s.outerIndents.headD (-1),
                              outerIndents := s.outerIndents.tail }

/-- Closes the block collections whose lines start behind a column. -/
def closeBlocks (s : Scan) (column : Int) : Scan :=
  if s.inFlow then s
  else closeCount ((s.indent :: s.outerIndents).takeWhile fun i => decide (column < i)).length s

/-! ### Keys -/

/-- How many bytes a key may have that no sign of a key precedes. -/
def keyLimit : Nat := 1024

/-- Whether a candidate is no key for sure: a key ends on its line and is not too long. -/
def isStale (p : Place) (k : KeyCandidate) : Bool :=
  decide (k.place.line < p.line) || decide (k.place.offset + keyLimit < p.offset)

/-- A candidate at a place, unless it has become stale there. -/
def refresh (p : Place) : Option KeyCandidate → Option (Option KeyCandidate)
  | none => some none
  | some k => if !isStale p k then some (some k) else if k.required then none else some none

/-- Drops the candidates that have become stale; one that had to be a key is a fault. -/
def dropStale (s : Scan) : Option Scan := do
  let candidate ← refresh s.place s.candidate
  let outerCandidates ← s.outerCandidates.mapM (refresh s.place)
  return { s with candidate, outerCandidates }

/-- Drops the candidate; one that had to be a key is a fault. -/
def dropCandidate (s : Scan) : Option Scan :=
  if s.candidate.any KeyCandidate.required then none else some { s with candidate := none }

/-- Notes that the next token may start a key, if one may stand here. -/
def noteCandidate (s : Scan) : Option Scan :=
  if s.keyAllowed then do
    let required := !s.inFlow && s.indent == s.column
    let s' ← s.dropCandidate
    return { s' with candidate := some ⟨s.given + s.queue.length, s.place, required⟩ }
  else some s

/-- Whether the first token of the queue may turn out to start a key. -/
def headIsOpen (s : Scan) : Bool :=
  (s.candidate :: s.outerCandidates).any fun k => k.any fun k => k.number == s.given

/-! ### Tokens -/

/-- Reads the end of the text. -/
def readEnd (s : Scan) : Option Scan := do
  let s := if s.column = 0 then s else { s with cursor := ⟨s.place.nextLine, []⟩ }
  let s ← (s.closeBlocks (-1)).dropCandidate
  return { s.push s.place .textEnd with keyAllowed := false }

/-- Reads a directive. -/
def readDirective (s : Scan) : Option Scan := do
  let s ← (s.closeBlocks (-1)).dropCandidate
  let (d, cursor) ← directive? s.cursor
  return { s.push s.place (.directive d) with cursor, keyAllowed := false }

/-- Reads a marker of documents. -/
def readMarker (s : Scan) (kind : TokenKind) : Option Scan := do
  let s ← (s.closeBlocks (-1)).dropCandidate
  return { s.pushSign 3 kind with keyAllowed := false }

/-- Reads an opening bracket. -/
def readOpening (s : Scan) (kind : TokenKind) : Option Scan := do
  let s ← s.noteCandidate
  return { s.pushSign 1 kind with candidate := none, keyAllowed := true,
                                  outerCandidates := s.candidate :: s.outerCandidates }

/-- Reads a closing bracket. -/
def readClosing (s : Scan) (kind : TokenKind) : Option Scan := do
  let s ← s.dropCandidate
  let s := { s.pushSign 1 kind with keyAllowed := false }
  match s.outerCandidates with
  | [] => return s
  | candidate :: outerCandidates => return { s with candidate, outerCandidates }

/-- Reads a comma in brackets. -/
def readComma (s : Scan) : Option Scan := do
  let s ← s.dropCandidate
  return { s.pushSign 1 .flowEntry with keyAllowed := true }

/-- Opens a block collection here, outside of brackets; it has to be where a key may stand. -/
def openHere (s : Scan) (kind : TokenKind) : Option Scan :=
  if s.inFlow then some s
  else if s.keyAllowed then some (s.openBlock s.column none s.place kind) else none

/-- Reads the sign of a list element. -/
def readEntry (s : Scan) : Option Scan := do
  let s ← (← s.openHere .blockListStart).dropCandidate
  return { s.pushSign 1 .blockEntry with keyAllowed := true }

/-- Reads the sign of a key. -/
def readKey (s : Scan) : Option Scan := do
  let s ← (← s.openHere .blockDictStart).dropCandidate
  return { s.pushSign 1 .key with keyAllowed := !s.inFlow }

/-- Reads the sign of a value. If a candidate is left, it was a key. -/
def readValue (s : Scan) : Option Scan :=
  match s.candidate with
  | some k =>
    let s := (s.insert k.number k.place .key).openBlock k.place.column (some k.number) k.place
      .blockDictStart
    some { s.pushSign 1 .value with candidate := none, keyAllowed := false }
  | none => do
    let s ← s.openHere .blockDictStart
    return { s.pushSign 1 .value with keyAllowed := !s.inFlow }

/-- Reads a token that may start a key. -/
def readOnLine (s : Scan) (read : Cursor → Option (TokenKind × Cursor)) : Option Scan := do
  let s ← s.noteCandidate
  let (kind, cursor) ← read s.cursor
  return { s.push s.place kind with cursor, keyAllowed := false }

/-- Reads a quoted scalar. -/
def readQuoted (s : Scan) (q : Quote) : Option Scan :=
  s.readOnLine fun c => (quoted q c).map fun (text, c) => (.scalar false (String.ofList text), c)

/-- Reads a block scalar. -/
def readBlock (s : Scan) (literal : Bool) : Option Scan := do
  let s ← s.dropCandidate
  let (text, cursor) ← block literal s.indent s.cursor
  return { s.push s.place (.scalar false (String.ofList text)) with cursor, keyAllowed := true }

/-- Reads a plain scalar. -/
def readPlain (s : Scan) : Option Scan := do
  let s ← s.noteCandidate
  let p ← plain ⟨s.inFlow, s.indent + 1⟩ s.cursor
  return { s.push s.place (.scalar true (String.ofList p.text)) with
    cursor := p.cursor, keyAllowed := p.lineEnded }

/-- Whether a plain scalar starts with the character `c` before `rest`. -/
def startsPlain (inFlow : Bool) (c : Char) (rest : List Char) : Bool :=
  !(isBlank c || isIndicator c) || (c == '-' && !rest.head?.any isBlank) ||
    (!inFlow && (c == '?' || c == ':') && !atGap rest)

/-- Reads the token that starts here. -/
def readToken (s : Scan) : Option Scan :=
  match s.cursor.rest with
  | [] => s.readEnd
  | c :: rest =>
    let atStart := s.cursor.place.column == 0
    if atStart && c == '%' then s.readDirective
    else if atStart && atMarker '-' (c :: rest) then s.readMarker .documentStart
    else if atStart && atMarker '.' (c :: rest) then s.readMarker .documentEnd
    else if c == '[' then s.readOpening .flowListStart
    else if c == '{' then s.readOpening .flowDictStart
    else if c == ']' then s.readClosing .flowListEnd
    else if c == '}' then s.readClosing .flowDictEnd
    else if c == ',' then s.readComma
    else if c == '-' && atGap rest then s.readEntry
    else if c == '?' && (s.inFlow || atGap rest) then s.readKey
    else if c == ':' && (s.inFlow || atGap rest) then s.readValue
    else if c == '*' then
      s.readOnLine fun c => (anchorName? c).map fun (name, c) => (.alias name, c)
    else if c == '&' then
      s.readOnLine fun c => (anchorName? c).map fun (name, c) => (.anchor name, c)
    else if c == '!' then s.readOnLine fun c => (tag? s.inFlow c).map fun (t, c) => (.tag t, c)
    else if c == '|' && !s.inFlow then s.readBlock true
    else if c == '>' && !s.inFlow then s.readBlock false
    else if c == '\'' then s.readQuoted .single
    else if c == '"' then s.readQuoted .double
    else if startsPlain s.inFlow c rest then s.readPlain
    else none

/-- Reads the next token. -/
def fetch (s : Scan) : Option Scan := do
  let (keyAllowed, cursor) := toToken s.inFlow s.keyAllowed false s.place s.cursor.rest
  let s ← { s with keyAllowed, cursor }.dropStale
  (s.closeBlocks s.column).readToken

/-- The tokens that are given out from here on; `fuel` bounds the steps. -/
def tokens : Nat → Scan → List Token
  | 0, _ => []
  | fuel + 1, s =>
    match s.queue with
    | [] =>
      match s.fetch with
      | some s => tokens fuel s
      | none => []
    | t :: queue =>
      match s.dropStale with
      | none => []
      | some s =>
        if s.headIsOpen then
          match s.fetch with
          | some s => tokens fuel s
          | none => []
        else if t.kind = .textEnd then [t]
        else t :: tokens fuel { s with queue, given := s.given + 1 }

end Scan

/-- The tokens of a text. The last one is the end of the text unless the text is faulty; then the
tokens are those before the fault. -/
def tokens (text : List Char) : List Token :=
  if text.all isAllowed then Scan.tokens (6 * text.length + 6) { cursor := ⟨.start, text⟩ }
  else []

end TypeCatalog.Yaml
