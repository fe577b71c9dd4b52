import TypeCatalog.Yaml.Place
import TypeCatalog.Yaml.Tag

/-!
# YAML tokens

A text as a sequence of tokens. Indentation is told by tokens of its own, and so is that a node is
a key.
-/

namespace TypeCatalog.Yaml

/-- What a token is. -/
inductive TokenKind where
  | directive (d : Directive)
  | documentStart
  | documentEnd
  | blockListStart
  | blockDictStart
  | blockEnd
  | flowListStart
  | flowListEnd
  | flowDictStart
  | flowDictEnd
  /-- An element of a block list follows. -/
  | blockEntry
  /-- A comma between elements of a flow collection. -/
  | flowEntry
  /-- A key follows. -/
  | key
  /-- The value of a key follows. -/
  | value
  | alias (name : String)
  | anchor (name : String)
  | tag (t : WrittenTag)
  | scalar (isPlain : Bool) (text : String)
  /-- The end of the text. -/
  | textEnd
  deriving DecidableEq, Repr

/-- A token and where it starts. -/
structure Token where
  place : Place
  kind : TokenKind
  deriving DecidableEq, Repr

end TypeCatalog.Yaml
