/-!
# Settings of a load
-/

namespace TypeCatalog

/-- What may be adjusted about reading a snapshot. -/
structure Settings where
  /-- Keys under which the document list may stand besides `documents`. -/
  documentAliases : List String := ["documents", "docs"]
  /-- Whether a top-level key that means nothing is an error. -/
  rejectUnknownFields : Bool := false
  /-- What in a provenance tells that a collection cannot change. -/
  provenanceMarkers : List String := ["Unmodifiable", "Immutable"]
  deriving DecidableEq, Repr

end TypeCatalog
