/-!
# Defects of a snapshot

Why a snapshot is refused, as causes. Every wording stands in the `message` functions, so a
statement about a failure speaks of its cause and place and not of a text.
-/

namespace TypeCatalog

/-! ### Reasons -/

/-- Why one entry is refused. -/
inductive Reason where
  /-- A type's simple name is no identifier. -/
  | badTypeName (name : String)
  /-- A package name is no dotted name. -/
  | badPackageName (name : String)
  /-- No kind has this text. -/
  | unknownKind (text : String)
  /-- A modifier tag is the empty string. -/
  | emptyTag
  /-- An entry lacks a required key. -/
  | missing (key : String)
  /-- A key holds something else than a string. -/
  | notString (key : String)
  /-- The modifiers of an entry are no object. -/
  | modifiersNotObject
  /-- The provenance of an entry is no string. -/
  | provenanceNotString
  /-- A package is declared again; `first` is its first position. -/
  | repeatedPackage (package : String) (first : Nat)
  /-- A reason in the caller's own words. -/
  | other (text : String)
  deriving DecidableEq, Repr

/-- The wording of a reason. -/
def Reason.message : Reason → String
  | .badTypeName name => s!"`{name}` is not a valid type name"
  | .badPackageName name => s!"`{name}` is not a valid package name"
  | .unknownKind text => s!"unknown type kind `{text}`"
  | .emptyTag => "modifier tag must be a non-empty string"
  | .missing key => s!"`{key}` is missing"
  | .notString key => s!"`{key}` must be a string"
  | .modifiersNotObject => "`modifiers` must be an object"
  | .provenanceNotString => "modifier `#` must be a string"
  | .repeatedPackage package first =>
    s!"package `{package}` already declared at packages[{first}]"
  | .other text => text

/-- Why a top-level part of a snapshot, or one of its elements, has the wrong shape. -/
inductive ShapeReason where
  | missing
  | notArray
  | notObject
  | notString
  /-- The key is none of those a strict reading knows. -/
  | unrecognized
  /-- The document list was given before, under the key `first`. -/
  | repeatsDocuments (first : String)
  /-- A reason in the caller's own words. -/
  | other (text : String)
  deriving DecidableEq, Repr

/-- The wording of a shape reason; it follows the name of the part. -/
def ShapeReason.message : ShapeReason → String
  | .missing => "is missing"
  | .notArray => "must be an array"
  | .notObject => "must be an object"
  | .notString => "must be a string"
  | .unrecognized => "is not a recognized snapshot field"
  | .repeatsDocuments first => s!"duplicates the document list already given as `{first}`"
  | .other text => text

/-! ### Defects with their places -/

/-- The name of element `i` of the top-level list `field`. -/
def elementPlace (field : String) (i : Nat) : String := s!"{field}[{i}]"

/-- A refused entry: where it stands, which type it names, and why it is refused. -/
structure EntryDefect where
  /-- The entry's place; empty for an entry outside a snapshot. -/
  location : String := ""
  /-- The name of the type, as far as it could be read. -/
  typeName : Option String := none
  reason : Reason
  deriving DecidableEq, Repr

namespace EntryDefect

/-- A defect of which only the reason is known. -/
def ofReason (reason : Reason) : EntryDefect := ⟨"", none, reason⟩

/-- Says which type the entry names. -/
def forType (typeName : String) (d : EntryDefect) : EntryDefect :=
  ⟨d.location, some typeName, d.reason⟩

/-- Says where the entry stands. -/
def locatedAt (location : String) (d : EntryDefect) : EntryDefect :=
  ⟨location, d.typeName, d.reason⟩

/-- What is known of place and type, and then the reason. -/
def message (d : EntryDefect) : String :=
  match d.location.isEmpty, d.typeName with
  | false, some name => s!"{d.location} (`{name}`): {d.reason.message}"
  | false, none => s!"{d.location}: {d.reason.message}"
  | true, some name => s!"`{name}`: {d.reason.message}"
  | true, none => d.reason.message

end EntryDefect

/-- Why no catalog can be made from a snapshot. -/
inductive LoadError where
  /-- A top-level part, or an element of one, has the wrong shape. -/
  | malformed (field : String) (reason : ShapeReason)
  /-- An entry breaks a rule of its own. -/
  | invalid (defect : EntryDefect)
  /-- A type names a package that is not declared. -/
  | undeclaredPackage (package typeName : String) (index : Nat)
  /-- Two types share package and name. -/
  | duplicateType (package name : String) (first duplicate : Nat)
  deriving DecidableEq, Repr

namespace LoadError

/-- The wording of a load error. -/
def message : LoadError → String
  | .malformed field reason => s!"Malformed snapshot: `{field}` {reason.message}"
  | .invalid defect => s!"Validation failed: {defect.message}"
  | .undeclaredPackage package typeName index =>
    s!"Referential integrity violated: `{typeName}` at types[{index}] " ++
      s!"references undeclared package `{package}`"
  | .duplicateType package name first duplicate =>
    s!"Duplicate type `{package}.{name}` at types[{duplicate}] (first declared at types[{first}])"

/-- Whether the shape of a part is wrong. -/
def isMalformed : LoadError → Bool
  | .malformed .. => true
  | _ => false

/-- Whether an entry breaks a rule of its own. -/
def isInvalid : LoadError → Bool
  | .invalid .. => true
  | _ => false

/-- Whether a package is used that is not declared. -/
def isUndeclaredPackage : LoadError → Bool
  | .undeclaredPackage .. => true
  | _ => false

/-- Whether two types share their qualified name. -/
def isDuplicateType : LoadError → Bool
  | .duplicateType .. => true
  | _ => false

end LoadError
end TypeCatalog
