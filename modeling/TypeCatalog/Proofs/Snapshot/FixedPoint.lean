import TypeCatalog.Proofs.Snapshot.Reload

/-! # Written snapshots as fixed points

What a catalog loses when it is written and loaded again is nothing that is written: the reloaded
catalog is written as the same snapshot (`toValue_eq_of_reloaded`).  This holds of every catalog,
also of one that no snapshot loads to, with a bare provenance tag or with flags that do not follow
from the provenances.  Such a type is the only thing that can change on the way
(`load_toValue_fixedPoint`). -/

namespace TypeCatalog.Snapshot

/-! ### Writing what was reloaded -/

theorem modifiersValue_reloaded (markers : List String) (m : Modifiers) :
    modifiersValue (m.reloaded markers) = modifiersValue m := by
  have same : ∀ tag ∈ m.tags.toList,
      (tag, Json.str (if tag = provenanceTag then m.writtenProvenance.getD tag else tag)) =
        (tag, Json.str (if tag = provenanceTag then m.provenance.getD tag else tag)) := by
    intro tag ht
    by_cases hp : tag = provenanceTag
    · subst hp
      -- the tag is there, so what is written of the provenance is read as the provenance
      rw [if_pos rfl, if_pos rfl, Modifiers.writtenProvenance, if_pos (StringSet.mem_toList.mp ht),
        Option.getD_some]
    · rw [if_neg hp, if_neg hp]
  exact congrArg Json.obj (List.map_congr_left same)

theorem typeValue_reloaded (markers : List String) (d : Descriptor) :
    typeValue (d.reloaded markers) = typeValue d := by
  simp only [typeValue, Descriptor.reloaded, modifiersValue_reloaded]

theorem toValue_eq_of_reloaded {markers : List String} {c c' : Catalog}
    (h : c'.HasParts c.documents c.modules c.packages
      (c.types.map (Descriptor.reloaded markers))) : toValue c' = toValue c := by
  have types : c'.types.map typeValue = c.types.map typeValue := by
    rw [h.types, List.map_map]
    exact List.map_congr_left fun d _ => typeValue_reloaded markers d
  rw [toValue_eq, toValue_eq, writtenFields, writtenFields, h.documents, h.modules, h.packages,
    types]

/-! ### What changes -/

theorem map_reloaded_eq_self_iff {markers : List String} {ds : List Descriptor} :
    ds.map (Descriptor.reloaded markers) = ds ↔ ∀ d ∈ ds,
      (provenanceTag ∈ d.modifiers.tags → d.modifiers.provenance.isSome) ∧
        (d.modifiers.immutable = true ↔ Marked markers d.modifiers.provenance) := by
  have same : ds.map (Descriptor.reloaded markers) = ds ↔
      ∀ d ∈ ds, d.reloaded markers = id d := by
    rw [← List.map_inj_left, List.map_id]
  rw [same]
  exact forall₂_congr fun d _ => Descriptor.reloaded_eq_self_iff

/-- **Writing is a fixed point.**  Under settings whose aliases leave the other three lists alone
every catalog loads again from its snapshot and is written as the same snapshot, with documents,
modules, packages and qualified names as they were.  Its types are the same iff every provenance
tag has its provenance and every flag is what the markers of the settings say. -/
theorem load_toValue_fixedPoint (c : Catalog) (settings : Settings)
    (h : AliasesApart settings) :
    ∃ c', (load settings (toValue c)).outcome = .ok c' ∧ toValue c' = toValue c ∧
      c'.documents = c.documents ∧ c'.modules = c.modules ∧ c'.packages = c.packages ∧
      c'.types.map Descriptor.qualifiedName = c.types.map Descriptor.qualifiedName ∧
      (c'.types = c.types ↔ ∀ d ∈ c.types,
        (provenanceTag ∈ d.modifiers.tags → d.modifiers.provenance.isSome) ∧
        (d.modifiers.immutable = true ↔
          Marked settings.provenanceMarkers d.modifiers.provenance)) := by
  obtain ⟨c', hc, parts⟩ := load_toValue h c
  have names : c'.types.map Descriptor.qualifiedName = c.types.map Descriptor.qualifiedName := by
    rw [parts.types, List.map_map]
    rfl
  refine ⟨c', hc, toValue_eq_of_reloaded parts, parts.documents, parts.modules, parts.packages,
    names, ?_⟩
  rw [parts.types]
  exact map_reloaded_eq_self_iff

/-- A type with a provenance tag that has no provenance. -/
def bareType : Descriptor where
  name := "Bare"
  package := "forest"
  kind := .enumeration
  modifiers := {
    tags := .ofList ["final", provenanceTag]
    provenance := none
    immutable := false
    tags_nonempty := by decide
    provenance_tagged := nofun }
  name_wellFormed := by decide
  package_wellFormed := by decide

/-- A catalog with a bare provenance tag comes back with another type and is written as before. -/
theorem load_toValue_fixedPoint_of_bareType :
    AliasesApart {} ∧ ∃ c c' : Catalog, c.HasParts [] [] ["forest"] [bareType] ∧
      (load {} (toValue c)).outcome = .ok c' ∧ toValue c' = toValue c ∧ c'.types ≠ c.types := by
  have apart : AliasesApart {} := by
    unfold AliasesApart
    decide
  obtain ⟨c, hc⟩ : ∃ c : Catalog, c.HasParts [] [] ["forest"] [bareType] :=
    Catalog.exists_catalog_iff.mpr ⟨by decide, by decide, by simp, by simp [bareType]⟩
  obtain ⟨c', hc', written, -, -, -, -, types⟩ := load_toValue_fixedPoint c {} apart
  refine ⟨apart, c, c', hc, hc', written, fun same => ?_⟩
  have tagged := (types.mp same bareType (by rw [hc.types]; exact List.mem_singleton_self _)).1
  exact absurd (tagged (by decide)) (by decide)

end TypeCatalog.Snapshot
