import TypeCatalog.Catalog
import TypeCatalog.Event
import TypeCatalog.Settings.Basic
import TypeCatalog.Snapshot.Traced

/-!
# Loading a snapshot value

A snapshot is an object with a document list, a module list, a package list and a type list.
`load` checks it in a fixed order and stops at the first defect: the object and its keys, the four
lists, the elements of the package list, the entries of the type list, and at last what
`Catalog.assemble` checks. Its events tell how far it came.
-/

namespace TypeCatalog.Snapshot

/-! ### Events -/

/-- What happens on the way from a value to a catalog. -/
inductive Event where
  /-- The document list stands under another key than `documents`. -/
  | aliasUsed (field : String)
  /-- The four lists are there; their lengths. -/
  | shapeValidated (documents modules packages types : Nat)
  /-- All entries of the type list are types. -/
  | typesValidated (types : Nat)
  /-- The catalog is made. -/
  | loaded (packages types : Nat)
  deriving DecidableEq, Repr

namespace Event

/-- How much the event matters. -/
def level : Event → Level
  | .aliasUsed _ => .warn
  | .shapeValidated .. | .typesValidated _ => .debug
  | .loaded .. => .info

/-- The wording of the event. -/
def message : Event → String
  | .aliasUsed _ => "snapshot uses an alias for the document list"
  | .shapeValidated .. => "snapshot shape validated"
  | .typesValidated _ => "type entries validated"
  | .loaded .. => "snapshot loaded"

/-- The fields of the event. -/
def fields : Event → Fields EventValue
  | .aliasUsed field => [("field", .text field), ("canonical", .quoted "documents")]
  | .shapeValidated documents modules packages types =>
    [("documents", .count documents), ("modules", .count modules),
      ("packages", .count packages), ("types", .count types)]
  | .typesValidated types => [("types", .count types)]
  | .loaded packages types => [("packages", .count packages), ("types", .count types)]

end Event

/-- A part of a load. -/
abbrev Loading := Traced Event LoadError

/-! ### Top-level keys -/

/-- The keys under which the document list may stand: `documents` first, then the others. -/
def documentKeys (settings : Settings) : List String :=
  "documents" :: settings.documentAliases.filter (· != "documents")

/-- Whether a top-level key means something. -/
def isKnownKey (settings : Settings) (key : String) : Bool :=
  key == "modules" || key == "packages" || key == "types" || (documentKeys settings).contains key

/-- The list under a top-level key. -/
def listAt (root : Fields Json) (key : String) : Except LoadError (List Json) :=
  match root.get? key with
  | none => .error (.malformed key .missing)
  | some (.arr items) => .ok items
  | some _ => .error (.malformed key .notArray)

/-- The one key under which the document list stands. -/
def documentKey (settings : Settings) (root : Fields Json) : Except LoadError String :=
  match (documentKeys settings).filter root.hasKey with
  | [] => .error (.malformed "documents" .missing)
  | [key] => .ok key
  | key :: other :: _ => .error (.malformed other (.repeatsDocuments key))

/-- The document list. -/
def documentList (settings : Settings) (root : Fields Json) : Loading (List Json) := do
  let key ← Traced.lift (documentKey settings root)
  if key != "documents" then Traced.note (.aliasUsed key)
  Traced.lift (listAt root key)

/-! ### The four lists -/

/-- The lists of a snapshot. -/
structure Shape where
  documents : List Json
  modules : List Json
  packages : List Json
  types : List Json

/-- Refuses the least key that means nothing, if the settings ask for that. -/
def checkKeys (settings : Settings) (root : Fields Json) : Except LoadError Unit :=
  if settings.rejectUnknownFields then
    match root.keys.find? fun key => !isKnownKey settings key with
    | some key => .error (.malformed key .unrecognized)
    | none => .ok ()
  else .ok ()

/-- The fields of a snapshot. -/
def rootFields : Json → Except LoadError (Fields Json)
  | .obj fields => .ok fields
  | _ => .error (.malformed "$" .notObject)

/-- The lists of a snapshot. -/
def shape (settings : Settings) (snapshot : Json) : Loading Shape := do
  let root ← Traced.lift (rootFields snapshot)
  Traced.lift (checkKeys settings root)
  let documents ← documentList settings root
  let modules ← Traced.lift (listAt root "modules")
  let packages ← Traced.lift (listAt root "packages")
  let types ← Traced.lift (listAt root "types")
  return ⟨documents, modules, packages, types⟩

/-! ### Packages -/

/-- The declared packages, from position `pos` on. -/
def packageNames (pos : Nat) : List Json → Except LoadError (List String)
  | [] => .ok []
  | .str name :: rest => do
    let names ← packageNames (pos + 1) rest
    return name :: names
  | _ :: _ => .error (.malformed (elementPlace "packages" pos) .notString)

/-! ### Types -/

/-- The text under a key of an entry. -/
def stringAt (entry : Fields Json) (key : String) : Except Reason String :=
  match entry.get? key with
  | some (.str s) => .ok s
  | some _ => .error (.notString key)
  | none => .error (.missing key)

/-- The value of the provenance tag among modifiers. -/
def provenanceOf (fields : Fields Json) : Except Reason (Option String) :=
  match fields.get? provenanceTag with
  | none => .ok none
  | some (.str text) => .ok (some text)
  | some _ => .error .provenanceNotString

/-- The modifiers of an entry: the keys of an object, of which only the provenance tag keeps its
value. -/
def modifiersOf (settings : Settings) : Option Json → Except Reason Modifiers
  | none => .ok .empty
  | some (.obj fields) => do
    let provenance ← provenanceOf fields
    let tags := (Fields.keys fields).filter (· != provenanceTag)
    Modifiers.withProvenance tags provenance settings.provenanceMarkers
  | some _ => .error .modifiersNotObject

/-- The type that the fields of an entry describe. A defect names the type once its name is
known. -/
def typeOf (settings : Settings) (entry : Fields Json) : Except EntryDefect Descriptor := do
  let name ← (stringAt entry "name").mapError EntryDefect.ofReason
  let named {α : Type} (x : Except Reason α) : Except EntryDefect α :=
    x.mapError fun reason => (EntryDefect.ofReason reason).forType name
  let package ← named (stringAt entry "packageName")
  let kind ← named (stringAt entry "type")
  let modifiers ← named (modifiersOf settings (entry.get? "modifiers"))
  Descriptor.ofTexts name package kind modifiers

/-- The type at position `pos` of the type list. -/
def typeAt (settings : Settings) (pos : Nat) : Json → Except LoadError Descriptor
  | .obj entry =>
    (typeOf settings entry).mapError fun defect =>
      .invalid (defect.locatedAt (elementPlace "types" pos))
  | _ => .error (.malformed (elementPlace "types" pos) .notObject)

/-- The types, from position `pos` on. -/
def typesFrom (settings : Settings) (pos : Nat) : List Json → Except LoadError (List Descriptor)
  | [] => .ok []
  | entry :: rest => do
    let d ← typeAt settings pos entry
    let ds ← typesFrom settings (pos + 1) rest
    return d :: ds

/-! ### Loading -/

/-- The catalog that a snapshot describes. -/
def load (settings : Settings) (snapshot : Json) : Loading Catalog := do
  let s ← shape settings snapshot
  Traced.note (.shapeValidated s.documents.length s.modules.length s.packages.length s.types.length)
  let packages ← Traced.lift (packageNames 0 s.packages)
  let types ← Traced.lift (typesFrom settings 0 s.types)
  Traced.note (.typesValidated types.length)
  let catalog ← Traced.lift (Catalog.assemble s.documents s.modules packages types)
  Traced.note (.loaded catalog.packages.length catalog.size)
  return catalog

end TypeCatalog.Snapshot
