import TypeCatalog.Collection.StringSet
import TypeCatalog.Defect

/-!
# Modifier sets

The tags attached to a type. The tag `#` may carry a *provenance*, a text that says where the
producer took the collection from; markers found in it mark the collection as immutable.
-/

namespace TypeCatalog

/-- The tag under which a provenance is kept. -/
def provenanceTag : String := "#"

/-- Whether `part` occurs in `text` as a run of consecutive characters. -/
def occursIn (part : List Char) : List Char → Bool
  | [] => part.isEmpty
  | c :: cs => part.isPrefixOf (c :: cs) || occursIn part cs

/-- A set of non-empty tags, with the provenance of the collection they came from. -/
structure Modifiers where
  tags : StringSet
  /-- The value of the provenance tag. -/
  provenance : Option String
  /-- Whether the provenance tells that the collection cannot change. -/
  immutable : Bool
  tags_nonempty : ¬ "" ∈ tags
  provenance_tagged : provenance.isSome → provenanceTag ∈ tags
  deriving DecidableEq

namespace Modifiers

/-- No tags at all. -/
def empty : Modifiers where
  tags := .empty
  provenance := .none
  immutable := false
  tags_nonempty := StringSet.not_mem_empty _
  provenance_tagged := by simp

/-- The tags of a collection: those listed, and the provenance tag if there is a provenance. -/
def tagSet (tags : List String) : Option String → StringSet
  | .none => .ofList tags
  | some _ => (StringSet.ofList tags).insert provenanceTag

/-- A provenance with one of the markers in it means an immutable collection. -/
def isImmutable (markers : List String) : Option String → Bool
  | .none => false
  | some text => markers.any fun marker => occursIn marker.toList text.toList

theorem mem_tagSet {x : String} {tags : List String} {provenance : Option String} :
    x ∈ tagSet tags provenance ↔ x ∈ tags ∨ x = provenanceTag ∧ provenance.isSome := by
  cases provenance with
  | none => simp [tagSet]
  | some p =>
    simp only [tagSet, StringSet.mem_insert, StringSet.mem_ofList, Option.isSome_some, and_true]
    exact or_comm

/-- The modifier set of a collection with a known origin; tags must not be empty. -/
def withProvenance (tags : List String) (provenance : Option String) (markers : List String) :
    Except Reason Modifiers :=
  if h : "" ∈ tags then .error .emptyTag
  else .ok {
    tags := tagSet tags provenance
    provenance := provenance
    immutable := isImmutable markers provenance
    tags_nonempty := by
      rw [mem_tagSet]
      rintro (hx | ⟨hx, -⟩)
      · exact h hx
      · simp [provenanceTag] at hx
    provenance_tagged := fun hp => mem_tagSet.2 (.inr ⟨rfl, hp⟩) }

/-- The modifier set of plain tags. -/
def ofTags (tags : List String) : Except Reason Modifiers := withProvenance tags .none []

/-- Whether the set carries a tag. -/
def contains (m : Modifiers) (tag : String) : Bool := decide (tag ∈ m.tags)

end Modifiers
end TypeCatalog
