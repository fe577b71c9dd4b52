import TypeCatalog.Yaml.Document
import TypeCatalog.Yaml.Entry

/-!
# The content of YAML texts

The settings that a document holds. Nodes are read only to a certain depth. A node with a tag of
its own is read as a dictionary from the tag to its content, and as dictionaries inside one another
where the tag is a path.
-/

namespace TypeCatalog.Yaml

/-! ### Nodes -/

section
variable {τ : Type}
/- The origin of the nodes, what numbers of origins stand for, and the nodes with anchors. -/
variable (o : τ) (source : Nat → τ) (anchored : List (Nat × Node))

/-- The readers of what stands inside a collection. -/
structure Inside (τ : Type) where
  tree : Path → Node → Reading (Settings.Tree τ)
  /-- Reads the number of an origin. -/
  origin : Path → Node → Reading Nat

/-- Reads what stands under a key. -/
def Inside.entry (inside : Inside τ) (key : String) (path : Path) (n : Node) :
    Reading (Entry τ) := do
  if key = originKey then return .origin (← inside.origin path n)
  else return .tree (← inside.tree path n)

/-- The content of a node without its tag; there is nothing to read the nodes in it with if they
are too deep. -/
def contentOf (inside : Option (Inside τ)) (path : Path) : Node → Reading (Settings.Tree τ)
  | .scalar p isPlain text =>
    match scalarValue p.tag isPlain text with
    | .ok s => return .scalar o s
    | .error why => throw (.misread path p.place why)
  | .list p items =>
    match inside with
    | some inside => return .list o (← readItems inside.tree path 0 items)
    | none => throw (.tooDeep p.place)
  | .dict p entries =>
    match inside with
    | some inside =>
      return Entry.combine o source (← readEntries anchored inside.entry path entries)
    | none => throw (.tooDeep p.place)
  | .alias .. => throw .malformed
  | .cut f => throw f

/-- The content of a node under the keys that its tag gives. -/
def taggedContentOf (inside : Option (Inside τ)) (path : Path) (n : Node) :
    Reading (Settings.Tree τ) := do
  let n ← followed anchored n
  let t ← contentOf o source anchored inside path n
  match ownName? n.tag? with
  | some name => return t.nest o (pathKeys name)
  | none => return t

/-- The settings that a node holds, in which collections are nested to a depth. -/
def settingsOf : Nat → Path → Node → Reading (Settings.Tree τ)
  | 0 => taggedContentOf o source anchored none
  | depth + 1 =>
    taggedContentOf o source anchored
      (some ⟨settingsOf depth, readOrigin anchored (depth == 0)⟩)

end

/-! ### Documents -/

/-- How deep collections may be nested. -/
def depthLimit : Nat := 128

/-- How many aliases may be followed for each part of a document. -/
def aliasesPerPart : Nat := 100

namespace Document

variable {τ : Type}

/-- The fields at the root of a document; a document without content has none. No key of the root
has a meaning of its own. -/
def readFields (o : τ) (source : Nat → τ) (root : Node) :
    Reading (List (String × Settings.Tree τ)) :=
  match root with
  | .dict _ entries =>
    let anchored := root.anchored
    let read (_ : String) := settingsOf o source anchored (depthLimit - 1)
    return Fields.ofList (← readEntries anchored read [] entries)
  | .scalar p isPlain text =>
    if isPlain && text.isEmpty then return []
    else match scalarValue p.tag isPlain text with
      | .ok s => throw (.misread [] p.place (.notDict (.scalar s)))
      | .error why => throw (.misread [] p.place why)
  | .list p _ => throw (.misread [] p.place (.notDict .list))
  | .alias .. => throw .malformed
  | .cut f => throw f

/-- The fields that a document holds, where `o` is their origin and `source` tells what numbers of
origins stand for. -/
def fields (o : τ) (source : Nat → τ) (d : Document) :
    Except Fault (List (String × Settings.Tree τ)) := do
  let (fields, _) ← (readFields o source d.root).run (aliasesPerPart * d.root.partCount)
  match d.ending with
  | some f => throw f
  | none => return fields

end Document
end TypeCatalog.Yaml
