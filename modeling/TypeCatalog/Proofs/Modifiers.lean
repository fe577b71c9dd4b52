import TypeCatalog.Proofs.Descriptor
import TypeCatalog.Proofs.Text.ByteOrder

/-! # Modifier sets in one form

The tags of a modifier set are those that are listed and the one that a provenance implies
(`Given`).  They are held in ascending order, which is the order of their bytes, each of them once,
so the set depends on which tags are given and on nothing else (`withProvenance_congr`): neither on
their order, nor on repetitions, nor on whether an implied tag is listed too
(`withProvenance_canonical`). -/

namespace TypeCatalog.Modifiers

variable {tags tags' : List String} {provenance : Option String} {markers : List String}

/-! ### Given tags -/

/-- The tag is listed, or a provenance implies it. -/
def Given (tags : List String) (provenance : Option String) (x : String) : Prop :=
  x ∈ tags ∨ x = "#" ∧ provenance.isSome

theorem given_empty_iff : Given tags provenance "" ↔ "" ∈ tags := by
  have other : ("" : String) ≠ "#" := by decide
  simp [Given, other]

theorem given_congr (h : ∀ x, x ∈ tags ↔ x ∈ tags') (x : String) :
    Given tags provenance x ↔ Given tags' provenance x := by
  rw [Given, Given, h x]

theorem given_congr_of_isSome (hp : provenance.isSome)
    (h : ∀ x, x ≠ "#" → (x ∈ tags ↔ x ∈ tags')) (x : String) :
    Given tags provenance x ↔ Given tags' provenance x := by
  by_cases hx : x = "#"
  · exact iff_of_true (.inr ⟨hx, hp⟩) (.inr ⟨hx, hp⟩)
  · rw [Given, Given, h x hx]

/-! ### Construction -/

/-- The set holds the given tags in ascending order, and it tells whether a marker occurs. -/
structure IsSetOf (m : Modifiers) (tags : List String) (provenance : Option String)
    (markers : List String) : Prop where
  contains : ∀ x, m.contains x = true ↔ Given tags provenance x
  listed : ∀ x, x ∈ m.tags.toList ↔ Given tags provenance x
  ascending : m.tags.toList.Pairwise fun x y => Text.bytesOf x < Text.bytesOf y
  size : m.tags.size = m.tags.toList.length
  origin : m.provenance = provenance
  immutable : m.immutable = true ↔ Marked markers provenance

theorem isSetOf_of_withProvenance {m : Modifiers}
    (h : withProvenance tags provenance markers = .ok m) :
    m.IsSetOf tags provenance markers := by
  obtain ⟨members, origin, marked⟩ := withProvenance_eq_ok_iff.mp h
  refine ⟨fun x => ?_, members, ?_, rfl, origin, marked⟩
  · rw [Modifiers.contains, decide_eq_true_eq]
    exact members x
  · exact m.tags.sorted.imp fun lt => Text.bytesOf_lt_iff.mpr lt

theorem withProvenance_congr (h : ∀ x, Given tags provenance x ↔ Given tags' provenance x)
    (markers : List String) :
    withProvenance tags provenance markers = withProvenance tags' provenance markers := by
  cases hm : withProvenance tags' provenance markers with
  | ok m =>
      rw [withProvenance_eq_ok_iff] at hm ⊢
      obtain ⟨members, rest⟩ := hm
      exact ⟨fun x => (members x).trans (h x).symm, rest⟩
  | error reason =>
      rw [withProvenance_eq_error_iff] at hm ⊢
      have empty : "" ∈ tags ↔ "" ∈ tags' :=
        given_empty_iff.symm.trans ((h "").trans given_empty_iff)
      rwa [empty]

/-- **Modifier sets are sets.**  There is none iff a listed tag is empty.  Otherwise it holds the
listed tags and, under a provenance, the tag `#`, in the order of their bytes, and it is marked as
immutable iff one of the markers occurs in the provenance.  Lists with the same tags make the same
set, and under a provenance lists that differ in `#` do too. -/
theorem withProvenance_canonical (provenance : Option String) (markers : List String) :
    (∀ tags, withProvenance tags provenance markers = .error .emptyTag ↔ "" ∈ tags) ∧
    (∀ tags, "" ∉ tags → ∃ m, withProvenance tags provenance markers = .ok m ∧
      m.IsSetOf tags provenance markers) ∧
    (∀ tags tags', (∀ x, x ∈ tags ↔ x ∈ tags') →
      withProvenance tags provenance markers = withProvenance tags' provenance markers) ∧
    (provenance.isSome → ∀ tags tags', (∀ x, x ≠ "#" → (x ∈ tags ↔ x ∈ tags')) →
      withProvenance tags provenance markers = withProvenance tags' provenance markers) := by
  refine ⟨fun tags => ?_, fun tags filled => ?_, fun tags tags' same => ?_,
    fun origin tags tags' same => ?_⟩
  · rw [withProvenance_eq_error_iff, and_iff_left rfl]
  · cases h : withProvenance tags provenance markers with
    | ok m => exact ⟨m, rfl, isSetOf_of_withProvenance h⟩
    | error reason => exact absurd (withProvenance_eq_error_iff.mp h).1 filled
  · exact withProvenance_congr (given_congr same) markers
  · exact withProvenance_congr (given_congr_of_isSome origin same) markers

/-- Repeated tags, one of them implied. -/
def listedTags : List String := ["static", "#", "abstract", "static"]

theorem withProvenance_of_listedTags :
    "" ∉ listedTags ∧ ∃ m,
      withProvenance listedTags (some "Set(Unmodifiable)") ["Mutable", "modif"] = .ok m ∧
      m.contains "#" = true ∧ m.contains "final" = false ∧ m.immutable = true ∧
      m.tags.toList = ["#", "abstract", "static"] ∧
      withProvenance ["#", "abstract", "static"] (some "Set(Unmodifiable)") ["Mutable", "modif"] =
        .ok m ∧
      withProvenance ["abstract", "static"] (some "Set(Unmodifiable)") ["Mutable", "modif"] =
        .ok m := by
  obtain ⟨-, made, same, implied⟩ :=
    withProvenance_canonical (some "Set(Unmodifiable)") ["Mutable", "modif"]
  have filled : "" ∉ listedTags := by decide
  obtain ⟨m, hm, set⟩ := made listedTags filled
  have sorted : ∀ x, x ∈ ["#", "abstract", "static"] ↔ x ∈ listedTags := by
    intro x
    by_cases static : x = "static" <;> simp [listedTags, static]
  have without : ∀ x, x ≠ "#" → (x ∈ ["abstract", "static"] ↔ x ∈ listedTags) := by
    intro x hx
    by_cases static : x = "static" <;> simp [listedTags, hx, static]
  have marked : Marked ["Mutable", "modif"] (some "Set(Unmodifiable)") :=
    ⟨_, rfl, "modif", by decide, "Set(Un".toList, "iable)".toList, rfl⟩
  refine ⟨filled, m, hm, (set.contains _).mpr (.inl (by decide)), ?_, set.immutable.mpr marked,
    ?_, (same _ _ sorted).trans hm, (implied rfl _ _ without).trans hm⟩
  · rw [Bool.eq_false_iff]
    intro final
    exact absurd ((set.contains _).mp final) (by simp [Given, listedTags])
  · cases hm
    rfl

end TypeCatalog.Modifiers
