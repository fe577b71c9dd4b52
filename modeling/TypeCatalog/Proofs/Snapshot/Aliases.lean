import TypeCatalog.Proofs.Snapshot.Acceptance

/-! # Aliases of the document list

The document list is found iff its key is the only one present of those under which it may stand,
and the settings list this key once (`documents_iff_onlyKey_listedOnce`).  The first condition
depends on the set of these keys alone; the second one does not, and a snapshot that uses an alias
which is listed twice is refused as if it had two document lists.  The order of the aliases does
not matter, nor how often `documents` is among them. -/

namespace TypeCatalog.Snapshot

/-! ### The document keys that are present -/

/-- Of the keys under which the document list may stand just this one is present. -/
structure OnlyDocumentKey (settings : Settings) (root : Fields Json) (key : String) : Prop where
  accepted : IsDocumentKey settings key
  present : key ∈ root.keys
  only : ∀ other ∈ root.keys, IsDocumentKey settings other → other = key

/-- The settings list the key once; `documents` always counts once. -/
def ListedOnce (settings : Settings) (key : String) : Prop :=
  key = "documents" ∨ settings.documentAliases.count key = 1

theorem count_documentKeys_eq_one_iff {settings : Settings} {key : String} :
    (documentKeys settings).count key = 1 ↔ ListedOnce settings key := by
  rw [documentKeys, ListedOnce]
  by_cases h : key = "documents"
  · subst h
    have none : (settings.documentAliases.filter (· != "documents")).count "documents" = 0 := by
      rw [List.count_eq_zero, List.mem_filter]
      simp
    rw [List.count_cons_self, none]
    exact iff_of_true rfl (.inl rfl)
  · have kept : (key != "documents") = true := bne_iff_ne.mpr h
    rw [List.count_cons_of_ne (Ne.symm h), List.count_filter (p := (· != "documents")) kept]
    exact (or_iff_right h).symm

theorem count_presentDocumentKeys {settings : Settings} {root : Fields Json} {key : String}
    (h : key ∈ root.keys) :
    (presentDocumentKeys settings root).count key = (documentKeys settings).count key :=
  List.count_filter (Fields.hasKey_iff.mpr h)

theorem OnlyDocumentKey.presentDocumentKeys_eq {settings : Settings} {root : Fields Json}
    {key : String} (h : OnlyDocumentKey settings root key) :
    presentDocumentKeys settings root =
      List.replicate ((documentKeys settings).count key) key := by
  have same : ∀ other ∈ presentDocumentKeys settings root, other = key := by
    intro other hmem
    obtain ⟨accepted, present⟩ := mem_presentDocumentKeys.mp hmem
    exact h.only other present accepted
  have whole := List.eq_replicate_of_mem same
  rw [← count_presentDocumentKeys h.present, whole, List.count_replicate_self]

theorem presentDocumentKeys_eq_singleton_iff {settings : Settings} {root : Fields Json}
    {key : String} :
    presentDocumentKeys settings root = [key] ↔
      OnlyDocumentKey settings root key ∧ ListedOnce settings key := by
  rw [← count_documentKeys_eq_one_iff]
  constructor
  · intro h
    have mem {other : String} : IsDocumentKey settings other ∧ other ∈ root.keys ↔ other = key := by
      rw [← mem_presentDocumentKeys, h, List.mem_singleton]
    obtain ⟨accepted, present⟩ := mem.mpr rfl
    refine ⟨⟨accepted, present, fun other hp ha => mem.mp ⟨ha, hp⟩⟩, ?_⟩
    rw [← count_presentDocumentKeys present, h, List.count_singleton_self]
  · rintro ⟨only, once⟩
    rw [only.presentDocumentKeys_eq, once]
    rfl

theorem OnlyDocumentKey.doubled {settings : Settings} {root : Fields Json} {key : String}
    (h : OnlyDocumentKey settings root key) (hn : ¬ ListedOnce settings key) :
    ∃ rest, presentDocumentKeys settings root = key :: key :: rest := by
  rw [← count_documentKeys_eq_one_iff] at hn
  have listed : 0 < (documentKeys settings).count key :=
    List.count_pos_iff.mpr (mem_documentKeys.mpr h.accepted)
  obtain ⟨n, twice⟩ : ∃ n, (documentKeys settings).count key = n + 2 :=
    ⟨(documentKeys settings).count key - 2, by omega⟩
  exact ⟨List.replicate n key, by rw [h.presentDocumentKeys_eq, twice]; rfl⟩

/-! ### The document list -/

theorem documentsAt_iff_onlyKey {settings : Settings} {root : Fields Json}
    {documents : List Json} :
    DocumentsAt settings root documents ↔
      ∃ key, OnlyDocumentKey settings root key ∧ ListedOnce settings key ∧
        root.get? key = some (.arr documents) := by
  simp only [DocumentsAt, presentDocumentKeys_eq_singleton_iff, and_assoc]

/-! ### Settings with other aliases -/

/-- Beside `documents` the same keys are accepted for the document list. -/
def SameAliases (aliases aliases' : List String) : Prop :=
  ∀ key, key ≠ "documents" → (key ∈ aliases ↔ key ∈ aliases')

section
variable {settings : Settings} {aliases : List String} {root : Fields Json}

theorem SameAliases.isDocumentKey_iff (h : SameAliases aliases settings.documentAliases)
    {key : String} :
    IsDocumentKey { settings with documentAliases := aliases } key ↔
      IsDocumentKey settings key := by
  by_cases hk : key = "documents"
  · exact iff_of_true (.inl hk) (.inl hk)
  · exact or_congr_right (h key hk)

theorem SameAliases.keysRecognized (h : SameAliases aliases settings.documentAliases)
    (keys : KeysRecognized settings root) :
    KeysRecognized { settings with documentAliases := aliases } root := by
  intro strict key hk
  refine (keys strict key hk).imp_right (Or.imp_right (Or.imp_right ?_))
  exact h.isDocumentKey_iff.mpr

theorem SameAliases.onlyDocumentKey (h : SameAliases aliases settings.documentAliases)
    {key : String} (only : OnlyDocumentKey settings root key) :
    OnlyDocumentKey { settings with documentAliases := aliases } root key where
  accepted := h.isDocumentKey_iff.mpr only.accepted
  present := only.present
  only := fun other hp ha => only.only other hp (h.isDocumentKey_iff.mp ha)

/-- The lists are read as before where the one document key that is present is listed once. -/
theorem Loads.withAliases {items : List Json} {c : Catalog} {key : String}
    (h : Loads settings root items c) (same : SameAliases aliases settings.documentAliases)
    (only : OnlyDocumentKey settings root key)
    (once : ListedOnce { settings with documentAliases := aliases } key) :
    Loads { settings with documentAliases := aliases } root items c where
  keys := same.keysRecognized h.keys
  documents := by
    obtain ⟨key', only', -, list⟩ := documentsAt_iff_onlyKey.mp h.documents
    obtain rfl : key' = key := only.only key' only'.present only'.accepted
    exact documentsAt_iff_onlyKey.mpr ⟨key', same.onlyDocumentKey only, once, list⟩
  modules := h.modules
  packages := h.packages
  types := h.types
  entries := h.entries.imp fun _ _ ⟨entry, item, described⟩ =>
    ⟨entry, item, described.name, described.package, described.kind, described.modifiers⟩

end

theorem load_withAliases {settings : Settings} {aliases : List String}
    (h : SameAliases aliases settings.documentAliases) {snapshot : Json} {c : Catalog}
    (hc : (load settings snapshot).outcome = .ok c) :
    (load { settings with documentAliases := aliases } snapshot).outcome = .ok c ∨
      ∃ key, key ≠ "documents" ∧ 2 ≤ aliases.count key ∧
        (load { settings with documentAliases := aliases } snapshot).outcome =
          .error (.malformed key (.repeatsDocuments key)) := by
  obtain ⟨root, items, rfl, hl⟩ := load_eq_ok_iff.mp hc
  obtain ⟨key, only, -, -⟩ := documentsAt_iff_onlyKey.mp hl.documents
  have only' := h.onlyDocumentKey only
  by_cases once : ListedOnce { settings with documentAliases := aliases } key
  · exact .inl (load_eq_ok_iff.mpr ⟨root, items, rfl, hl.withAliases h only once⟩)
  · obtain ⟨rest, present⟩ := only'.doubled once
    obtain ⟨other, several⟩ : key ≠ "documents" ∧ aliases.count key ≠ 1 := not_or.mp once
    have listed : 0 < aliases.count key :=
      List.count_pos_iff.mpr (only'.accepted.resolve_left other)
    exact .inr ⟨key, other, by omega, load_eq_error_of_doubled (h.keysRecognized hl.keys) present⟩

theorem load_of_count_eq {settings : Settings} {aliases : List String}
    (h : ∀ key, key ≠ "documents" → aliases.count key = settings.documentAliases.count key)
    {snapshot : Json} {c : Catalog} (hc : (load settings snapshot).outcome = .ok c) :
    (load { settings with documentAliases := aliases } snapshot).outcome = .ok c := by
  have same : SameAliases aliases settings.documentAliases := by
    intro key hk
    rw [← List.count_pos_iff, h key hk, List.count_pos_iff]
  obtain ⟨root, items, rfl, hl⟩ := load_eq_ok_iff.mp hc
  obtain ⟨key, only, once, -⟩ := documentsAt_iff_onlyKey.mp hl.documents
  refine load_eq_ok_iff.mpr ⟨root, items, rfl, hl.withAliases same only ?_⟩
  by_cases hk : key = "documents"
  · exact .inl hk
  · exact .inr ((h key hk).trans (once.resolve_left hk))

/-- **The document list is found iff its key is the only one present and is listed once.**  If the
only key present is listed more than once, the snapshot is refused as if it gave the list twice.
With other aliases for the same keys a snapshot loads to the same catalog, or it is refused in this
way; the order of the aliases does not matter, nor how often `documents` is among them. -/
theorem documents_iff_onlyKey_listedOnce (settings : Settings) :
    (∀ root documents, (documentList settings root).outcome = .ok documents ↔
      ∃ key, OnlyDocumentKey settings root key ∧ ListedOnce settings key ∧
        root.get? key = some (.arr documents)) ∧
    (∀ root key, OnlyDocumentKey settings root key → ¬ ListedOnce settings key →
      (documentList settings root).outcome = .error (.malformed key (.repeatsDocuments key))) ∧
    (∀ aliases, SameAliases aliases settings.documentAliases → ∀ snapshot c,
      (load settings snapshot).outcome = .ok c →
        (load { settings with documentAliases := aliases } snapshot).outcome = .ok c ∨
        ∃ key, key ≠ "documents" ∧ 2 ≤ aliases.count key ∧
          (load { settings with documentAliases := aliases } snapshot).outcome =
            .error (.malformed key (.repeatsDocuments key))) ∧
    ∀ aliases : List String,
      (∀ key, key ≠ "documents" → aliases.count key = settings.documentAliases.count key) →
      ∀ snapshot c, (load settings snapshot).outcome = .ok c ↔
        (load { settings with documentAliases := aliases } snapshot).outcome = .ok c := by
  refine ⟨fun root documents => documentList_eq_ok_iff.trans documentsAt_iff_onlyKey,
    fun root key only several => ?_, fun aliases same snapshot c => load_withAliases same,
    fun aliases same snapshot c => ⟨load_of_count_eq same, fun hc => ?_⟩⟩
  · obtain ⟨rest, present⟩ := only.doubled several
    exact documentList_eq_error_iff.mpr (.doubled present)
  · exact @load_of_count_eq { settings with documentAliases := aliases } settings.documentAliases
      (fun key hk => (same key hk).symm) snapshot c hc

/-- The default settings, with their aliases the other way round and `documents` twice. -/
theorem documents_of_reorderedAliases :
    (∀ key, key ≠ "documents" → ["docs", "documents", "documents"].count key =
        ({} : Settings).documentAliases.count key) ∧
      ∃ c, (load {} (.obj aliasedRoot)).outcome = .ok c ∧
        (load { documentAliases := ["docs", "documents", "documents"] }
          (.obj aliasedRoot)).outcome = .ok c := by
  have same : ∀ key, key ≠ "documents" → ["docs", "documents", "documents"].count key =
      ({} : Settings).documentAliases.count key := by
    intro key hk
    simp [List.count_cons, Ne.symm hk]
  obtain ⟨c, hc⟩ : ∃ c, (load {} (.obj aliasedRoot)).outcome = .ok c := ⟨_, rfl⟩
  obtain ⟨-, -, -, reordered⟩ := documents_iff_onlyKey_listedOnce {}
  exact ⟨same, c, hc, (reordered _ same _ c).mp hc⟩

/-- A snapshot that uses an alias is refused where the alias is listed twice. -/
theorem load_of_repeatedAlias :
    ∃ c, (load { documentAliases := ["docs"] } (.obj aliasedRoot)).outcome = .ok c ∧
      (load { documentAliases := ["docs", "docs"] } (.obj aliasedRoot)).outcome =
        .error (.malformed "docs" (.repeatsDocuments "docs")) :=
  ⟨_, rfl, rfl⟩

end TypeCatalog.Snapshot
