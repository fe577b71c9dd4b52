import Mathlib.Data.List.Forall2
import TypeCatalog.Proofs.Catalog
import TypeCatalog.Proofs.Snapshot.Entry
import TypeCatalog.Proofs.Snapshot.Shape

/-! # What snapshots are accepted

`Loads` says that a catalog holds what stands in the top-level fields of a snapshot, entry by
entry; a value loads to a catalog iff it is an object of which this holds (`load_eq_ok_iff`).
`IsSnapshot` is the schema, without any catalog: the lists are there, and their elements are well
formed on their own and consistent with one another.  If no alias is listed twice, a value loads
iff it obeys the schema (`load_accepts_iff_isSnapshot`). -/

namespace TypeCatalog.Snapshot

/-! ### Loading as one chain of checks -/

theorem outcome_load (settings : Settings) (snapshot : Json) :
    (load settings snapshot).outcome = (do
      let s ← (shape settings snapshot).outcome
      let packages ← packageNames 0 s.packages
      let types ← typesFrom settings 0 s.types
      Catalog.assemble s.documents s.modules packages types) := by
  simp only [load, Traced.outcome_bind, Traced.outcome_lift, Traced.outcome_note]
  congr 1
  funext s
  show (packageNames 0 s.packages >>= _) = _
  congr 1
  funext packages
  congr 1
  funext types
  cases Catalog.assemble s.documents s.modules packages types <;> rfl

/-- The catalog holds what stands in the top-level fields; `items` is the type list. -/
structure Loads (settings : Settings) (root : Fields Json) (items : List Json) (c : Catalog) :
    Prop where
  keys : KeysRecognized settings root
  documents : DocumentsAt settings root c.documents
  modules : root.get? "modules" = some (.arr c.modules)
  packages : root.get? "packages" = some (.arr (c.packages.map .str))
  types : root.get? "types" = some (.arr items)
  entries : List.Forall₂ (DescribesItem settings) items c.types

theorem load_eq_ok_iff {settings : Settings} {snapshot : Json} {c : Catalog} :
    (load settings snapshot).outcome = .ok c ↔
      ∃ root items, snapshot = .obj root ∧ Loads settings root items c := by
  simp only [outcome_load, bind_eq_ok_iff, shape_eq_ok_iff, packageNames_eq_ok_iff,
    typesFrom_eq_ok_iff, Catalog.assemble_eq_ok_iff]
  constructor
  · rintro ⟨⟨ds, ms, ps, ts⟩, ⟨root, rfl, hk, hd, hm, hp, ht⟩, names, rfl, types, he, hc⟩
    obtain ⟨rfl, rfl, rfl, rfl⟩ := hc
    exact ⟨root, ts, rfl, hk, hd, hm, hp, ht, he⟩
  · rintro ⟨root, items, rfl, hk, hd, hm, hp, ht, he⟩
    exact ⟨⟨_, _, _, items⟩, ⟨root, rfl, hk, hd, hm, hp, ht⟩, c.packages, rfl, c.types, he,
      c.hasParts_self⟩

theorem load_eq_error_of_doubled {settings : Settings} {root : Fields Json} {key other : String}
    {rest : List String} (keys : KeysRecognized settings root)
    (present : presentDocumentKeys settings root = key :: other :: rest) :
    (load settings (.obj root)).outcome = .error (.malformed other (.repeatsDocuments key)) := by
  have refused : (shape settings (.obj root)).outcome =
      .error (.malformed other (.repeatsDocuments key)) := by
    rw [outcome_shape]
    refine bind_eq_error_iff.mpr (.inr ⟨root, rfl, ?_⟩)
    refine bind_eq_error_iff.mpr (.inr ⟨(), checkKeys_eq_ok_iff.mpr keys, ?_⟩)
    exact bind_eq_error_iff.mpr (.inl (documentList_eq_error_iff.mpr (.doubled present)))
  rw [outcome_load, refused]
  rfl

/-! ### Two lists, element by element -/

section
variable {α β : Type} {R : α → β → Prop} {xs : List α} {ys : List β}

theorem exists_forall₂ (h : ∀ x ∈ xs, ∃ y, R x y) : ∃ ys, List.Forall₂ R xs ys := by
  induction xs with
  | nil => exact ⟨[], .nil⟩
  | cons x xs ih =>
      rw [List.forall_mem_cons] at h
      obtain ⟨y, hy⟩ := h.1
      obtain ⟨ys, hys⟩ := ih h.2
      exact ⟨y :: ys, .cons hy hys⟩

theorem forall_mem_iff_of_forall₂ {P : α → Prop} {Q : β → Prop} (h : List.Forall₂ R xs ys)
    (hPQ : ∀ x y, R x y → (P x ↔ Q y)) : (∀ x ∈ xs, P x) ↔ ∀ y ∈ ys, Q y := by
  induction h with
  | nil => simp
  | cons hxy _ ih => simp only [List.forall_mem_cons, hPQ _ _ hxy, ih]

theorem pairwise_iff_of_forall₂ {S : α → α → Prop} {T : β → β → Prop}
    (h : List.Forall₂ R xs ys) (hST : ∀ x y x' y', R x y → R x' y' → (S x x' ↔ T y y')) :
    xs.Pairwise S ↔ ys.Pairwise T := by
  induction h with
  | nil => simp
  | cons hxy hxys ih =>
      rw [List.pairwise_cons, List.pairwise_cons, ih,
        forall_mem_iff_of_forall₂ hxys fun x y h => hST _ _ x y hxy h]

theorem eq_singleton_iff_of_nodup {l : List α} {a : α} (h : l.Nodup) :
    l = [a] ↔ a ∈ l ∧ ∀ b ∈ l, b = a := by
  constructor
  · rintro rfl
    simp
  · rintro ⟨ha, hb⟩
    rw [← List.perm_singleton, List.perm_ext_iff_of_nodup h (List.nodup_singleton a)]
    exact fun x => ⟨fun hx => by simp [hb x hx], fun hx => by rwa [List.mem_singleton.mp hx]⟩

end

/-! ### The schema -/

/-- The top-level fields are those of a snapshot with these lists. -/
structure IsSnapshot (settings : Settings) (root : Fields Json) (documents modules : List Json)
    (packages : List String) (types : List Json) : Prop where
  keys : settings.rejectUnknownFields = true → ∀ key ∈ root.keys, IsRecognized settings key
  /-- Of all keys under which the document list may stand just one is present. -/
  documentList : ∃ key, IsDocumentKey settings key ∧ root.get? key = some (.arr documents) ∧
    ∀ other ∈ root.keys, IsDocumentKey settings other → other = key
  moduleList : root.get? "modules" = some (.arr modules)
  packageList : root.get? "packages" = some (.arr (packages.map .str))
  typeList : root.get? "types" = some (.arr types)
  packages_wellFormed : ∀ p ∈ packages, Name.isPackageName p = true
  packages_nodup : packages.Nodup
  types_wellFormed : ∀ item ∈ types, WellFormedItem item
  types_declared : ∀ item ∈ types, ∃ p ∈ packages, item.field? "packageName" = some (.str p)
  types_distinct : types.Pairwise fun a b =>
    ¬ (a.field? "packageName" = b.field? "packageName" ∧ a.field? "name" = b.field? "name")

theorem documentsAt_iff {settings : Settings} {root : Fields Json} {documents : List Json}
    (h : settings.documentAliases.Nodup) :
    DocumentsAt settings root documents ↔
      ∃ key, IsDocumentKey settings key ∧ root.get? key = some (.arr documents) ∧
        ∀ other ∈ root.keys, IsDocumentKey settings other → other = key := by
  have hn : (presentDocumentKeys settings root).Nodup := by
    refine List.Nodup.filter _ (List.nodup_cons.mpr ⟨?_, h.filter _⟩)
    simp [List.mem_filter]
  refine exists_congr fun key => ?_
  rw [eq_singleton_iff_of_nodup hn]
  simp only [mem_presentDocumentKeys]
  constructor
  · rintro ⟨⟨⟨hk, -⟩, ho⟩, hg⟩
    exact ⟨hk, hg, fun other hm hd => ho other ⟨hd, hm⟩⟩
  · rintro ⟨hk, hg, ho⟩
    exact ⟨⟨⟨hk, Fields.mem_keys_of_get? hg⟩, fun other hd => ho other hd.2 hd.1⟩, hg⟩

/-- What two described types have in common can be read off their entries. -/
theorem sameName_iff {settings : Settings} {a b : Json} {d d' : Descriptor}
    (ha : DescribesItem settings a d) (hb : DescribesItem settings b d') :
    (a.field? "packageName" = b.field? "packageName" ∧ a.field? "name" = b.field? "name") ↔
      d.qualifiedName = d'.qualifiedName := by
  obtain ⟨entry, rfl, h⟩ := ha
  obtain ⟨entry', rfl, h'⟩ := hb
  simp [Json.field?, h.name, h'.name, h.package, h'.package, Descriptor.qualifiedName]

theorem declared_iff {settings : Settings} {packages : List String} {item : Json}
    {d : Descriptor} (h : DescribesItem settings item d) :
    (∃ p ∈ packages, item.field? "packageName" = some (.str p)) ↔ d.package ∈ packages := by
  obtain ⟨entry, rfl, h⟩ := h
  simp [Json.field?, h.package]

theorem forall_wellFormedItem_iff (settings : Settings) {items : List Json} :
    (∀ item ∈ items, WellFormedItem item) ↔
      ∃ ds, List.Forall₂ (DescribesItem settings) items ds := by
  constructor
  · intro h
    exact exists_forall₂ fun item hi => (exists_describesItem_iff settings).mpr (h item hi)
  · rintro ⟨ds, hds⟩
    refine (forall_mem_iff_of_forall₂ hds (Q := fun _ => True) ?_).mpr fun _ _ => trivial
    exact fun item d hd => iff_of_true ((exists_describesItem_iff settings).mp ⟨d, hd⟩) trivial

theorem Loads.isSnapshot {settings : Settings} {root : Fields Json} {items : List Json}
    {c : Catalog} (hn : settings.documentAliases.Nodup) (h : Loads settings root items c) :
    IsSnapshot settings root c.documents c.modules c.packages items where
  keys := h.keys
  documentList := (documentsAt_iff hn).mp h.documents
  moduleList := h.modules
  packageList := h.packages
  typeList := h.types
  packages_wellFormed := c.packages_wellFormed
  packages_nodup := c.packages_nodup
  types_wellFormed := (forall_wellFormedItem_iff settings).mpr ⟨c.types, h.entries⟩
  types_declared :=
    (forall_mem_iff_of_forall₂ h.entries fun _ _ hd => declared_iff hd).mpr c.packages_declared
  types_distinct := by
    refine (pairwise_iff_of_forall₂ h.entries fun _ _ _ _ ha hb => ?_).mpr
      (List.pairwise_map.mp c.names_nodup)
    rw [sameName_iff ha hb]

theorem IsSnapshot.exists_loads {settings : Settings} {root : Fields Json}
    {documents modules types : List Json} {packages : List String}
    (hn : settings.documentAliases.Nodup)
    (h : IsSnapshot settings root documents modules packages types) :
    ∃ c, Loads settings root types c := by
  obtain ⟨ds, hds⟩ := (forall_wellFormedItem_iff settings).mp h.types_wellFormed
  have hnames : (ds.map Descriptor.qualifiedName).Nodup := by
    refine List.pairwise_map.mpr ((pairwise_iff_of_forall₂ hds fun _ _ _ _ ha hb => ?_).mp
      h.types_distinct)
    rw [sameName_iff ha hb]
  have hdeclared : ∀ d ∈ ds, d.package ∈ packages :=
    (forall_mem_iff_of_forall₂ hds fun _ _ hd => declared_iff hd).mp h.types_declared
  obtain ⟨c, hc⟩ : ∃ c : Catalog, c.HasParts documents modules packages ds :=
    Catalog.exists_catalog_iff.mpr ⟨h.packages_wellFormed, h.packages_nodup, hnames, hdeclared⟩
  obtain ⟨rfl, rfl, rfl, rfl⟩ := hc
  exact ⟨c, h.keys, (documentsAt_iff hn).mpr h.documentList, h.moduleList, h.packageList,
    h.typeList, hds⟩

/-- **The loader accepts exactly its schema and decodes it faithfully.**  A value loads iff it is
an object that obeys the schema; the catalog then holds the given documents, modules and packages,
and its types are described by the entries of the type list, one by one and in order. -/
theorem load_accepts_iff_isSnapshot (settings : Settings)
    (h : settings.documentAliases.Nodup) (snapshot : Json) :
    ((∃ c, (load settings snapshot).outcome = .ok c) ↔
      ∃ root documents modules packages types, snapshot = .obj root ∧
        IsSnapshot settings root documents modules packages types) ∧
    ∀ c, (load settings snapshot).outcome = .ok c →
      ∃ root types, snapshot = .obj root ∧
        IsSnapshot settings root c.documents c.modules c.packages types ∧
        List.Forall₂ (DescribesItem settings) types c.types := by
  refine ⟨⟨?_, ?_⟩, ?_⟩
  · rintro ⟨c, hc⟩
    obtain ⟨root, items, rfl, hl⟩ := load_eq_ok_iff.mp hc
    exact ⟨root, _, _, _, items, rfl, hl.isSnapshot h⟩
  · rintro ⟨root, _, _, _, types, rfl, hs⟩
    obtain ⟨c, hc⟩ := hs.exists_loads h
    exact ⟨c, load_eq_ok_iff.mpr ⟨root, types, rfl, hc⟩⟩
  · intro c hc
    obtain ⟨root, items, rfl, hl⟩ := load_eq_ok_iff.mp hc
    exact ⟨root, items, rfl, hl.isSnapshot h, hl.entries⟩

/-- The entry of a type of known provenance. -/
def leafEntry : Json :=
  .obj [("modifiers", .obj [("#", .str "ImmutableSet"), ("final", .bool true)]),
    ("name", .str "Leaf"), ("packageName", .str "tree.leaf"), ("type", .str "Enum")]

/-- A snapshot with its documents under an alias. -/
def aliasedRoot : Fields Json :=
  [("docs", .arr [.int 1]), ("modules", .arr []), ("packages", .arr [.str "tree.leaf"]),
    ("types", .arr [leafEntry])]

theorem load_accepts_aliasedRoot :
    ({} : Settings).documentAliases.Nodup ∧
      ∃ c, (load {} (.obj aliasedRoot)).outcome = .ok c ∧ c.packages = ["tree.leaf"] := by
  have nodup : ({} : Settings).documentAliases.Nodup := by decide
  have wellFormed : WellFormedItem leafEntry := by
    refine ⟨_, rfl, ⟨"Leaf", rfl, rfl⟩, ⟨"tree.leaf", rfl, rfl⟩, ⟨.enumeration, rfl⟩, ?_⟩
    rintro v ⟨⟩
    refine ⟨_, rfl, by simp [Fields.keys], ?_⟩
    rintro w ⟨⟩
    exact ⟨_, rfl⟩
  have schema : IsSnapshot {} aliasedRoot [.int 1] [] ["tree.leaf"] [leafEntry] := by
    refine ⟨by simp, ⟨"docs", .inr (by decide), rfl, ?_⟩, rfl, rfl, rfl, by decide, by decide,
      by simpa using wellFormed, ?_, by simp⟩
    · simp [Fields.keys, aliasedRoot, IsDocumentKey]
    · simp [leafEntry, Json.field?, Fields.get?]
  obtain ⟨c, hc⟩ := (load_accepts_iff_isSnapshot {} nodup _).1.mpr ⟨_, _, _, _, _, rfl, schema⟩
  obtain ⟨root, types, hr, hs, -⟩ := (load_accepts_iff_isSnapshot {} nodup _).2 c hc
  cases hr
  have packages : [Json.str "tree.leaf"] = c.packages.map .str := by
    simpa [aliasedRoot, Fields.get?] using hs.packageList
  refine ⟨nodup, c, hc, ?_⟩
  exact List.map_injective_iff.mpr (fun _ _ h => Json.str.inj h) packages.symm

end TypeCatalog.Snapshot
