import TypeCatalog.Json.Reader
import TypeCatalog.Snapshot.Declaration
import TypeCatalog.Snapshot.TrailingComma
import TypeCatalog.Text.Position

/-!
# Snapshot texts

A snapshot text is JSON in which trailing commas are allowed, perhaps as the value of a variable
declaration, perhaps with a semicolon at its end.
-/

namespace TypeCatalog.Snapshot

/-- What a text is refused for. -/
inductive SyntaxReason where
  | declaration (defect : DeclarationDefect)
  | json (cause : Json.Cause)
  deriving DecidableEq, Repr

/-- The wording of the reason. -/
def SyntaxReason.message : SyntaxReason → String
  | .declaration .noEqualsSign => "declaration without `=`"
  | .declaration (.badName name) => s!"invalid declaration name `{String.ofList name}`"
  | .json cause => cause.message

/-- Why a text is no snapshot. -/
inductive TextError where
  /-- There is no value in the text. -/
  | empty
  /-- The text cannot be read beyond a position. -/
  | unreadable (position : Text.Position) (reason : SyntaxReason)
  deriving DecidableEq, Repr

/-- The wording of the error. -/
def TextError.message : TextError → String
  | .empty => "Snapshot is empty"
  | .unreadable position reason =>
    s!"Snapshot syntax error at line {position.line}, column {position.column}: {reason.message}"

/-- A text without one semicolon at its very end. -/
def dropSemicolon (text : List Char) : List Char :=
  if text.getLast? = some ';' then text.dropLast else text

/-- A text without its final blanks and one semicolon among them. -/
def trimBody (text : List Char) : List Char :=
  Text.trimEnd (dropSemicolon (Text.trimEnd text))

/-- The place in a whole text of a position in its body: lines are counted on, and the first line
of the body stands behind the last line of what was skipped. -/
def placeBehind (skipped : List Char) (p : Text.Position) : Text.Position :=
  ⟨p.line + Text.lineBreaks skipped,
    if p.line = 1 then p.column + Text.byteLength (Text.lastLine skipped) else p.column⟩

/-- The value of a body, whose positions are those of the whole text. -/
def readBody (skipped body : List Char) : Except TextError Json :=
  if (Text.trimStart body).isEmpty then .error .empty
  else
    let cleaned := dropTrailingCommas body
    match Json.parse cleaned with
    | .ok v => .ok v
    | .error fault =>
      let place := placeBehind skipped (.ofOffset cleaned fault.offset)
      .error (.unreadable place (.json fault.cause))

/-- The value that a snapshot text holds. -/
def readChars (text : List Char) : Except TextError Json :=
  match cutDeclaration text with
  | .error defect =>
    let line := Text.lineBreaks (text.takeWhile Text.isBlank) + 1
    .error (.unreadable ⟨line, 1⟩ (.declaration defect))
  | .ok cut => readBody cut.skipped (trimBody cut.body)

/-- The value that a snapshot text holds. -/
def read (text : String) : Except TextError Json := readChars text.toList

end TypeCatalog.Snapshot
