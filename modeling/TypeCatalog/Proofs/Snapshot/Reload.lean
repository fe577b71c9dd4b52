import TypeCatalog.Proofs.Snapshot.Acceptance
import TypeCatalog.Snapshot.Write

/-! # Reloading what was written

Every catalog is written as a snapshot that loads again, under any settings whose aliases leave
the other three lists alone (`load_toValue`).  Documents, modules and packages come back as they
were; a type comes back as `Descriptor.reloaded` says, which changes nothing but the provenance of
a bare provenance tag and the flag.  In a loaded catalog the provenance tag is never bare, so there
only the flag can change, and only with the markers (`load_toValue_of_load`).  Under any other
settings the written snapshot has two document lists and is refused
(`load_toValue_accepts_iff`). -/

namespace TypeCatalog

/-! ### What becomes of a type -/

namespace Modifiers

/-- The provenance that is written: a bare provenance tag stands for itself. -/
def writtenProvenance (m : Modifiers) : Option String :=
  if provenanceTag ∈ m.tags then some (m.provenance.getD provenanceTag) else none

/-- The modifiers as they are read again. -/
def reloaded (markers : List String) (m : Modifiers) : Modifiers where
  tags := m.tags
  provenance := m.writtenProvenance
  immutable := isImmutable markers m.writtenProvenance
  tags_nonempty := m.tags_nonempty
  provenance_tagged := by
    unfold writtenProvenance
    split
    · exact fun _ => ‹_›
    · exact fun h => absurd h (by simp)

theorem writtenProvenance_eq {m : Modifiers}
    (h : provenanceTag ∈ m.tags → m.provenance.isSome) : m.writtenProvenance = m.provenance := by
  unfold writtenProvenance
  split
  · rename_i ht
    obtain ⟨p, hp⟩ := Option.isSome_iff_exists.mp (h ht)
    rw [hp, Option.getD_some]
  · rename_i ht
    cases hp : m.provenance with
    | none => rfl
    | some p => exact absurd (m.provenance_tagged (by rw [hp]; rfl)) ht

theorem reloaded_eq_self_iff {markers : List String} {m : Modifiers} :
    m.reloaded markers = m ↔ (provenanceTag ∈ m.tags → m.provenance.isSome) ∧
      (m.immutable = true ↔ Marked markers m.provenance) := by
  constructor
  · intro h
    have written : m.writtenProvenance = m.provenance := congrArg provenance h
    have flag : isImmutable markers m.writtenProvenance = m.immutable := congrArg immutable h
    refine ⟨fun ht => ?_, ?_⟩
    · rw [← written, writtenProvenance, if_pos ht]
      rfl
    · rw [← flag, written]
      exact isImmutable_iff
  · rintro ⟨tagged, flag⟩
    have written := writtenProvenance_eq tagged
    refine ext_mem (fun _ => Iff.rfl) written ?_
    rw [Bool.eq_iff_iff, flag, ← written]
    exact isImmutable_iff

end Modifiers

/-- The type as it is read again. -/
def Descriptor.reloaded (markers : List String) (d : Descriptor) : Descriptor :=
  { d with modifiers := d.modifiers.reloaded markers }

theorem Descriptor.reloaded_eq_self_iff {markers : List String} {d : Descriptor} :
    d.reloaded markers = d ↔ (provenanceTag ∈ d.modifiers.tags → d.modifiers.provenance.isSome) ∧
      (d.modifiers.immutable = true ↔ Marked markers d.modifiers.provenance) := by
  rw [← Modifiers.reloaded_eq_self_iff]
  constructor
  · exact fun h => congrArg modifiers h
  · intro h
    rw [reloaded, h]

/-! ### Written snapshots -/

namespace Snapshot

/-- The top-level fields of the snapshot that a catalog is written as. -/
def writtenFields (c : Catalog) : Fields Json :=
  [("documents", .arr c.documents), ("modules", .arr c.modules),
    ("packages", .ofStrings c.packages), ("types", .arr (c.types.map typeValue))]

theorem toValue_eq (c : Catalog) : toValue c = .obj (writtenFields c) := rfl

theorem describesModifiers_modifiersValue (markers : List String) (m : Modifiers) :
    DescribesModifiers markers (some (modifiersValue m)) (m.reloaded markers) := by
  refine .object (fun x => ?_) ?_ Modifiers.isImmutable_iff
  · rw [Fields.keys_map]
    exact StringSet.mem_toList.symm
  · rw [Fields.get?_map, if_pos rfl]
    simp only [Modifiers.reloaded, Modifiers.writtenProvenance, StringSet.mem_toList]
    split <;> rfl

theorem describesItem_typeValue (settings : Settings) (d : Descriptor) :
    DescribesItem settings (typeValue d) (d.reloaded settings.provenanceMarkers) :=
  ⟨_, rfl, rfl, rfl, rfl, describesModifiers_modifiersValue _ _⟩

/-- The settings accept no key of the other three lists for the document list. -/
def AliasesApart (settings : Settings) : Prop :=
  ∀ key ∈ settings.documentAliases, key ≠ "modules" ∧ key ≠ "packages" ∧ key ≠ "types"

theorem presentDocumentKeys_writtenFields {settings : Settings} (h : AliasesApart settings)
    (c : Catalog) : presentDocumentKeys settings (writtenFields c) = ["documents"] := by
  have absent : (settings.documentAliases.filter (· != "documents")).filter
      (writtenFields c).hasKey = [] := by
    refine List.filter_eq_nil_iff.mpr fun key hk => ?_
    obtain ⟨hm, hd⟩ := List.mem_filter.mp hk
    obtain ⟨h₁, h₂, h₃⟩ := h key hm
    have hd : key ≠ "documents" := by simpa using hd
    rw [Fields.hasKey_iff]
    simp [writtenFields, Fields.keys, hd, h₁, h₂, h₃]
  rw [presentDocumentKeys, documentKeys, List.filter_cons_of_pos (by rfl), absent]

theorem keysRecognized_writtenFields (settings : Settings) (c : Catalog) :
    KeysRecognized settings (writtenFields c) := by
  intro _ key hk
  have hk : key = "documents" ∨ key = "modules" ∨ key = "packages" ∨ key = "types" := by
    simpa [writtenFields, Fields.keys] using hk
  rcases hk with rfl | h
  · exact .inr (.inr (.inr (.inl rfl)))
  · rcases h with rfl | rfl | rfl
    · exact .inl rfl
    · exact .inr (.inl rfl)
    · exact .inr (.inr (.inl rfl))

theorem load_toValue {settings : Settings} (h : AliasesApart settings) (c : Catalog) :
    ∃ c', (load settings (toValue c)).outcome = .ok c' ∧
      c'.HasParts c.documents c.modules c.packages
        (c.types.map (Descriptor.reloaded settings.provenanceMarkers)) := by
  obtain ⟨c', hc⟩ : ∃ c' : Catalog, c'.HasParts c.documents c.modules c.packages
      (c.types.map (Descriptor.reloaded settings.provenanceMarkers)) := by
    refine Catalog.exists_catalog_iff.mpr
      ⟨c.packages_wellFormed, c.packages_nodup, ?_, ?_⟩
    · rw [List.map_map]
      exact c.names_nodup
    · rw [List.forall_mem_map]
      exact c.packages_declared
  refine ⟨c', load_eq_ok_iff.mpr ⟨writtenFields c, _, toValue_eq c,
    keysRecognized_writtenFields settings c, ?_, ?_, ?_, rfl, ?_⟩, hc⟩
  · exact ⟨"documents", presentDocumentKeys_writtenFields h c, by rw [hc.documents]; rfl⟩
  · rw [hc.modules]
    rfl
  · rw [hc.packages]
    rfl
  · rw [hc.types, List.forall₂_map_left_iff, List.forall₂_map_right_iff]
    exact List.forall₂_same.mpr fun d _ => describesItem_typeValue settings d

/-! ### Loaded catalogs -/

/-- What loading guarantees of the modifiers of a type: the provenance tag is there only with a
provenance, and the flag follows from this and the markers. -/
theorem DescribesModifiers.flag_iff {markers : List String} {x : Option Json} {m : Modifiers}
    (h : DescribesModifiers markers x m) :
    (provenanceTag ∈ m.tags → m.provenance.isSome) ∧
      (m.immutable = true ↔ Marked markers m.provenance) := by
  cases h with
  | absent => exact ⟨by simp [Modifiers.empty], by simp [Modifiers.empty, Marked]⟩
  | object tags provenance immutable =>
      refine ⟨fun ht => ?_, immutable⟩
      obtain ⟨v, hv⟩ := Fields.mem_keys_iff.mp ((tags _).mp ht)
      rw [hv] at provenance
      obtain ⟨p, hp, -⟩ := Option.map_eq_some_iff.mp provenance.symm
      rw [hp]
      rfl

theorem describesItem_of_mem {settings : Settings} {snapshot : Json} {c : Catalog}
    (h : (load settings snapshot).outcome = .ok c) {d : Descriptor} (hd : d ∈ c.types) :
    ∃ item, DescribesItem settings item d := by
  obtain ⟨root, items, -, hl⟩ := load_eq_ok_iff.mp h
  obtain ⟨i, hi, rfl⟩ := List.mem_iff_getElem.mp hd
  have hlen := hl.entries.length_eq
  exact ⟨items[i], hl.entries.get (by omega) hi⟩

/-- The type `d'` is the type `d` with its flag set by the markers. -/
structure ReloadsAs (markers : List String) (d d' : Descriptor) : Prop where
  name : d'.name = d.name
  package : d'.package = d.package
  kind : d'.kind = d.kind
  tags : d'.modifiers.tags = d.modifiers.tags
  provenance : d'.modifiers.provenance = d.modifiers.provenance
  immutable : d'.modifiers.immutable = true ↔ Marked markers d'.modifiers.provenance

theorem reloadsAs_reloaded {settings : Settings} (markers : List String) {item : Json}
    {d : Descriptor} (h : DescribesItem settings item d) :
    ReloadsAs markers d (d.reloaded markers) := by
  obtain ⟨entry, -, h⟩ := h
  exact ⟨rfl, rfl, rfl, rfl, Modifiers.writtenProvenance_eq h.modifiers.flag_iff.1,
    Modifiers.isImmutable_iff⟩

theorem reloaded_eq_self {settings : Settings} {item : Json} {d : Descriptor}
    (h : DescribesItem settings item d) : d.reloaded settings.provenanceMarkers = d := by
  obtain ⟨entry, -, h⟩ := h
  exact Descriptor.reloaded_eq_self_iff.mpr h.modifiers.flag_iff

/-- **Loading, writing and loading again loses nothing.**  The second load may use other settings,
provided that their aliases leave the other three lists alone; the flags then follow its markers,
and with equal markers the types are equal. -/
theorem load_toValue_of_load (settings settings' : Settings) (snapshot : Json) (c : Catalog)
    (h : (load settings snapshot).outcome = .ok c) (ha : AliasesApart settings') :
    ∃ c', (load settings' (toValue c)).outcome = .ok c' ∧ c'.documents = c.documents ∧
      c'.modules = c.modules ∧ c'.packages = c.packages ∧
      List.Forall₂ (ReloadsAs settings'.provenanceMarkers) c.types c'.types ∧
      (settings.provenanceMarkers = settings'.provenanceMarkers → c'.types = c.types) := by
  obtain ⟨c', hc, hd, hm, hp, ht⟩ := load_toValue ha c
  refine ⟨c', hc, hd, hm, hp, ?_, fun hmarkers => ?_⟩
  · rw [ht, List.forall₂_map_right_iff]
    refine List.forall₂_same.mpr fun d hd => ?_
    obtain ⟨item, hi⟩ := describesItem_of_mem h hd
    exact reloadsAs_reloaded _ hi
  · rw [ht, ← hmarkers]
    refine (List.map_congr_left fun d hd => ?_).trans (List.map_id _)
    obtain ⟨item, hi⟩ := describesItem_of_mem h hd
    exact reloaded_eq_self hi

/-- Settings that repeat an alias, refuse unknown keys and look for another marker. -/
def strictSettings : Settings where
  documentAliases := ["docs", "items", "docs"]
  rejectUnknownFields := true
  provenanceMarkers := ["Set"]

theorem load_toValue_of_aliasedRoot :
    AliasesApart strictSettings ∧
      ∃ c c', (load {} (.obj aliasedRoot)).outcome = .ok c ∧
        (load strictSettings (toValue c)).outcome = .ok c' ∧ c'.packages = c.packages ∧
        List.Forall₂ (ReloadsAs strictSettings.provenanceMarkers) c.types c'.types := by
  have apart : AliasesApart strictSettings := by
    unfold AliasesApart
    decide
  obtain ⟨c, hc⟩ : ∃ c, (load {} (.obj aliasedRoot)).outcome = .ok c := ⟨_, rfl⟩
  obtain ⟨c', hc', -, -, hp, ht, -⟩ := load_toValue_of_load {} strictSettings _ c hc apart
  exact ⟨apart, c, c', hc, hc', hp, ht⟩

/-! ### Settings under which written catalogs load -/

/-- A key of another list among the aliases makes that list a second document list. -/
theorem exists_presentDocumentKeys_writtenFields {settings : Settings}
    (h : ¬ AliasesApart settings) (c : Catalog) :
    ∃ key rest, presentDocumentKeys settings (writtenFields c) = "documents" :: key :: rest := by
  simp only [AliasesApart, not_forall] at h
  obtain ⟨key, hk, h⟩ := h
  have field : key ≠ "documents" ∧ key ∈ (writtenFields c).keys := by
    by_contra hn
    refine h ⟨?_, ?_, ?_⟩ <;> rintro rfl <;> simp [writtenFields, Fields.keys] at hn
  have present : key ∈ (settings.documentAliases.filter (· != "documents")).filter
      (writtenFields c).hasKey := by
    simp [List.mem_filter, hk, field.1, Fields.hasKey_iff.mpr field.2]
  obtain ⟨other, rest, hrest⟩ := List.exists_cons_of_ne_nil (List.ne_nil_of_mem present)
  refine ⟨other, rest, ?_⟩
  rw [presentDocumentKeys, documentKeys, List.filter_cons_of_pos (by rfl), hrest]

theorem load_toValue_eq_error {settings : Settings} (h : ¬ AliasesApart settings) (c : Catalog) :
    ∃ key, (load settings (toValue c)).outcome =
      .error (.malformed key (.repeatsDocuments "documents")) := by
  obtain ⟨key, rest, hk⟩ := exists_presentDocumentKeys_writtenFields h c
  exact ⟨key, load_eq_error_of_doubled (keysRecognized_writtenFields settings c) hk⟩

/-- **A written catalog loads again iff the aliases leave the other three lists alone.** -/
theorem load_toValue_accepts_iff (settings : Settings) (c : Catalog) :
    (∃ c', (load settings (toValue c)).outcome = .ok c') ↔ AliasesApart settings := by
  constructor
  · rintro ⟨c', hc⟩
    by_contra h
    obtain ⟨key, he⟩ := load_toValue_eq_error h c
    rw [hc] at he
    cases he
  · intro h
    obtain ⟨c', hc, -⟩ := load_toValue h c
    exact ⟨c', hc⟩

/-- Settings that take the module list for the document list. -/
def modulesForDocuments : Settings where
  documentAliases := ["modules"]

/-- A snapshot without a document list of its own. -/
def sharedListRoot : Fields Json :=
  [("modules", .arr [.str "core"]), ("packages", .arr [.str "tree.leaf"]),
    ("types", .arr [leafEntry])]

theorem load_toValue_of_sharedList :
    ∃ c, (load modulesForDocuments (.obj sharedListRoot)).outcome = .ok c ∧
      (load modulesForDocuments (toValue c)).outcome =
        .error (.malformed "modules" (.repeatsDocuments "documents")) :=
  ⟨_, rfl, rfl⟩

end Snapshot
end TypeCatalog
