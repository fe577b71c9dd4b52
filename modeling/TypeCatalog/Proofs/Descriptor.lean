import Mathlib.Data.List.Sort
import TypeCatalog.Descriptor

/-! # What modifier sets and descriptors are made from

Two sets of strings with the same members are equal, so a modifier set is determined by its
members, its provenance and its flag (`Modifiers.ext_mem`).  `Marked` says in terms of substrings
when a provenance tells that a collection cannot change.  A descriptor is determined by its four
parts, and `Descriptor.ofTexts` fails with the first of these that is not well formed. -/

namespace TypeCatalog

/-! ### Sets of strings -/

theorem StringSet.ext_mem {a b : StringSet} (h : ∀ x, x ∈ a ↔ x ∈ b) : a = b := by
  obtain ⟨as, ha⟩ := a
  obtain ⟨bs, hb⟩ := b
  have e : as = bs := ha.eq_of_mem_iff hb h
  subst e
  rfl

/-! ### Substrings -/

theorem occursIn_iff {part text : List Char} : occursIn part text = true ↔ part <:+: text := by
  induction text with
  | nil => simp [occursIn]
  | cons c cs ih =>
      rw [occursIn, Bool.or_eq_true, List.isPrefixOf_iff_prefix, ih, List.infix_cons_iff]

/-- There is a provenance, and one of the markers occurs in it. -/
def Marked (markers : List String) (provenance : Option String) : Prop :=
  ∃ text, provenance = some text ∧ ∃ marker ∈ markers, marker.toList <:+: text.toList

namespace Modifiers

theorem isImmutable_iff {markers : List String} {provenance : Option String} :
    isImmutable markers provenance = true ↔ Marked markers provenance := by
  cases provenance with
  | none => simp [isImmutable, Marked]
  | some text => simp [isImmutable, Marked, occursIn_iff]

/-! ### Construction -/

theorem ext_mem {a b : Modifiers} (ht : ∀ x, x ∈ a.tags ↔ x ∈ b.tags)
    (hp : a.provenance = b.provenance) (hi : a.immutable = b.immutable) : a = b := by
  have e : a.tags = b.tags := StringSet.ext_mem ht
  cases a
  cases b
  simp_all

/-- A modifier set is made iff no tag is empty, and then from the tags and the provenance. -/
theorem withProvenance_eq_ok_iff {tags : List String} {provenance : Option String}
    {markers : List String} {m : Modifiers} :
    withProvenance tags provenance markers = .ok m ↔
      (∀ x, x ∈ m.tags ↔ x ∈ tags ∨ x = provenanceTag ∧ provenance.isSome) ∧
        m.provenance = provenance ∧ (m.immutable = true ↔ Marked markers provenance) := by
  unfold withProvenance
  split
  · rename_i h
    refine iff_of_false (by simp) fun hm => ?_
    exact m.tags_nonempty ((hm.1 "").mpr (.inl h))
  · rename_i h
    rw [Except.ok.injEq]
    constructor
    · rintro rfl
      exact ⟨fun x => mem_tagSet, rfl, isImmutable_iff⟩
    · rintro ⟨ht, hp, hi⟩
      refine ext_mem (fun x => mem_tagSet.trans (ht x).symm) hp.symm ?_
      rw [Bool.eq_iff_iff, hi]
      exact isImmutable_iff

theorem withProvenance_eq_error_iff {tags : List String} {provenance : Option String}
    {markers : List String} {reason : Reason} :
    withProvenance tags provenance markers = .error reason ↔ "" ∈ tags ∧ reason = .emptyTag := by
  unfold withProvenance
  split
  · rename_i h
    simp [h, eq_comm]
  · rename_i h
    simp [h]

end Modifiers

/-! ### Kinds -/

theorem Kind.ofText?_eq_some_iff {s : String} {kind : Kind} :
    Kind.ofText? s = some kind ↔ s = kind.text :=
  ⟨Kind.eq_text_of_ofText?, fun h => h ▸ Kind.ofText?_text kind⟩

theorem Kind.ofText?_eq_none_iff {s : String} :
    Kind.ofText? s = none ↔ ∀ kind : Kind, s ≠ kind.text := by
  constructor
  · intro h kind e
    rw [Kind.ofText?_eq_some_iff.mpr e] at h
    cases h
  · intro h
    cases hs : Kind.ofText? s with
    | none => rfl
    | some kind => exact absurd (Kind.ofText?_eq_some_iff.mp hs) (h kind)

/-! ### Descriptors -/

namespace Descriptor

variable {name package kind : String} {m : Modifiers}

theorem make_eq_ok_iff {k : Kind} {d : Descriptor} :
    make name package k m = .ok d ↔
      d.name = name ∧ d.package = package ∧ d.kind = k ∧ d.modifiers = m := by
  constructor
  · intro h
    unfold make at h
    split at h
    · split at h
      · cases h
        exact ⟨rfl, rfl, rfl, rfl⟩
      · cases h
    · cases h
  · rintro ⟨rfl, rfl, rfl, rfl⟩
    unfold make
    rw [dif_pos d.name_wellFormed, dif_pos d.package_wellFormed]

theorem make_eq_error_iff {k : Kind} {e : EntryDefect} :
    make name package k m = .error e ↔
      Name.isIdentifier name = false ∧ e = ⟨"", some name, .badTypeName name⟩ ∨
        Name.isIdentifier name = true ∧ Name.isPackageName package = false ∧
          e = ⟨"", some name, .badPackageName package⟩ := by
  unfold make
  split
  · rename_i hn
    split
    · rename_i hp
      simp [hn, hp]
    · rename_i hp
      simp [hn, hp, EntryDefect.forType, EntryDefect.ofReason, eq_comm (b := e)]
  · rename_i hn
    simp [hn, EntryDefect.forType, EntryDefect.ofReason, eq_comm (b := e)]

theorem ofTexts_eq_ok_iff {d : Descriptor} :
    ofTexts name package kind m = .ok d ↔
      d.name = name ∧ d.package = package ∧ kind = d.kind.text ∧ d.modifiers = m := by
  unfold ofTexts
  split
  · rename_i k hk
    obtain rfl := Kind.ofText?_eq_some_iff.mp hk
    rw [make_eq_ok_iff]
    have hkd : d.kind = k ↔ k.text = d.kind.text :=
      ⟨fun h => by rw [h], fun h => (Kind.text_injective h).symm⟩
    rw [hkd]
  · rename_i hk
    refine iff_of_false (by simp) fun h => ?_
    exact Kind.ofText?_eq_none_iff.mp hk d.kind h.2.2.1

theorem ofTexts_eq_error_iff {e : EntryDefect} :
    ofTexts name package kind m = .error e ↔
      (∀ k : Kind, kind ≠ k.text) ∧ e = ⟨"", some name, .unknownKind kind⟩ ∨
        (∃ k : Kind, kind = k.text) ∧ (
          Name.isIdentifier name = false ∧ e = ⟨"", some name, .badTypeName name⟩ ∨
          Name.isIdentifier name = true ∧ Name.isPackageName package = false ∧
            e = ⟨"", some name, .badPackageName package⟩) := by
  unfold ofTexts
  split
  · rename_i k hk
    have hk := Kind.ofText?_eq_some_iff.mp hk
    rw [make_eq_error_iff]
    constructor
    · exact fun h => .inr ⟨⟨k, hk⟩, h⟩
    · rintro (⟨h, -⟩ | ⟨-, h⟩)
      · exact absurd hk (h k)
      · exact h
  · rename_i hk
    have hk := Kind.ofText?_eq_none_iff.mp hk
    constructor
    · intro h
      cases h
      exact .inl ⟨hk, rfl⟩
    · rintro (⟨-, rfl⟩ | ⟨⟨k, h⟩, -⟩)
      · rfl
      · exact absurd h (hk k)

end Descriptor
end TypeCatalog
