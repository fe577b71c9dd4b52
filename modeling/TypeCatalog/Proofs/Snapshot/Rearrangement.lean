import Mathlib.Data.List.Perm.Subperm
import TypeCatalog.Proofs.Grouping
import TypeCatalog.Proofs.Lookup
import TypeCatalog.Proofs.Snapshot.Acceptance

/-! # Order does not matter

The package list of a snapshot may be permuted, and the type list may be permuted and entries of it
may be left out: what loaded before loads still (`Loads.rearranged`).  The new catalog holds some
of the old types, each with the descriptor that it had; it finds them under their names, and its
groups by package and by kind are the old groups without the types that were left out, in the new
order (`load_rearranged`). -/

namespace TypeCatalog

/-! ### Rearranged lists -/

section
variable {α β : Type} {R : α → β → Prop} {xs xs' : List α} {ys : List β}

theorem exists_forall₂_of_sublist (h : List.Forall₂ R xs ys) (hs : xs'.Sublist xs) :
    ∃ ys', List.Forall₂ R xs' ys' ∧ ys'.Sublist ys := by
  induction hs generalizing ys with
  | slnil => exact ⟨[], .nil, List.nil_sublist _⟩
  | cons x _ ih =>
      cases h with
      | cons _ hxs =>
          obtain ⟨ys', h', hs'⟩ := ih hxs
          exact ⟨ys', h', hs'.cons _⟩
  | cons_cons x _ ih =>
      cases h with
      | @cons _ y _ _ hxy hxs =>
          obtain ⟨ys', h', hs'⟩ := ih hxs
          exact ⟨y :: ys', .cons hxy h', hs'.cons_cons y⟩

theorem exists_forall₂_of_subperm (h : List.Forall₂ R xs ys) (hs : xs'.Subperm xs) :
    ∃ ys', List.Forall₂ R xs' ys' ∧ ys'.Subperm ys := by
  obtain ⟨zs, hp, hsub⟩ := hs
  obtain ⟨us, hus, hsub'⟩ := exists_forall₂_of_sublist h hsub
  obtain ⟨ys', h', hp'⟩ := List.perm_comp_forall₂ hp.symm hus
  exact ⟨ys', h', us, hp'.symm, hsub'⟩

theorem nodup_map_of_subperm {zs zs' : List α} (f : α → β) (hs : zs'.Subperm zs)
    (hn : (zs.map f).Nodup) : (zs'.map f).Nodup := by
  obtain ⟨us, hp, hsub⟩ := hs
  have hu : (us.map f).Nodup := hn.sublist (hsub.map f)
  exact (hp.map f).nodup hu

/-- A group of what is left is what is left of the group. -/
theorem filter_perm_of_subperm [DecidableEq α] {zs zs' : List α} (hs : zs'.Subperm zs)
    (hn : zs.Nodup) (p : α → Bool) :
    (zs'.filter p).Perm ((zs.filter p).filter fun z => z ∈ zs') := by
  have hn' : zs'.Nodup := by
    obtain ⟨us, hp, hsub⟩ := hs
    exact hp.nodup (hn.sublist hsub)
  rw [List.perm_ext_iff_of_nodup (hn'.filter p) ((hn.filter p).filter _)]
  intro z
  simp only [List.mem_filter, decide_eq_true_eq]
  constructor
  · rintro ⟨hz, hpz⟩
    exact ⟨⟨hs.subset hz, hpz⟩, hz⟩
  · rintro ⟨⟨-, hpz⟩, hz⟩
    exact ⟨hz, hpz⟩

end

namespace Snapshot

/-- The package list is permuted, the new type list stands in the relation `R` to the old one, and
all else is left as it is. -/
structure Rearranges (R : List Json → List Json → Prop) (root root' : Fields Json) : Prop where
  other : ∀ key, key ≠ "packages" → key ≠ "types" → root'.get? key = root.get? key
  packages : ∃ packages packages', root.get? "packages" = some (.arr packages) ∧
    root'.get? "packages" = some (.arr packages') ∧ packages'.Perm packages
  types : ∃ items items', root.get? "types" = some (.arr items) ∧
    root'.get? "types" = some (.arr items') ∧ R items' items

theorem rearranges_insert {R : List Json → List Json → Prop} {root : Fields Json}
    {packages packages' items items' : List Json}
    (hp : root.get? "packages" = some (.arr packages)) (ht : root.get? "types" = some (.arr items))
    (perm : packages'.Perm packages) (related : R items' items) :
    Rearranges R root ((root.insert "packages" (.arr packages')).insert "types" (.arr items')) := by
  refine ⟨?_, ⟨packages, packages', hp, ?_, perm⟩, ⟨items, items', ht, ?_, related⟩⟩
  · intro key hkp hkt
    rw [Fields.get?_insert, if_neg hkt.symm, Fields.get?_insert, if_neg hkp.symm]
  · rw [Fields.get?_insert, if_neg (by decide), Fields.get?_insert, if_pos rfl]
  · rw [Fields.get?_insert, if_pos rfl]

theorem Rearranges.symm {root root' : Fields Json} (h : Rearranges List.Perm root root') :
    Rearranges List.Perm root' root := by
  obtain ⟨packages, packages', hp, hp', pp⟩ := h.packages
  obtain ⟨items, items', ht, ht', pt⟩ := h.types
  refine ⟨?_, ⟨packages', packages, hp', hp, pp.symm⟩, ⟨items', items, ht', ht, pt.symm⟩⟩
  intro key hkp hkt
  exact (h.other key hkp hkt).symm

theorem Rearranges.subperm {root root' : Fields Json} (h : Rearranges List.Perm root root') :
    Rearranges List.Subperm root root' := by
  obtain ⟨items, items', ht, ht', pt⟩ := h.types
  exact ⟨h.other, h.packages, items, items', ht, ht', pt.subperm⟩

/-! ### Top-level fields -/

section
variable {R : List Json → List Json → Prop} {settings : Settings} {root root' : Fields Json}

theorem Rearranges.get?_cases (h : Rearranges R root root') (key : String) :
    root'.get? key = root.get? key ∨
      ∃ items items', root.get? key = some (.arr items) ∧ root'.get? key = some (.arr items') := by
  by_cases hp : key = "packages"
  · obtain ⟨packages, packages', old, new, -⟩ := h.packages
    exact .inr ⟨packages, packages', hp ▸ old, hp ▸ new⟩
  · by_cases ht : key = "types"
    · obtain ⟨items, items', old, new, -⟩ := h.types
      exact .inr ⟨items, items', ht ▸ old, ht ▸ new⟩
    · exact .inl (h.other key hp ht)

theorem Rearranges.hasKey (h : Rearranges R root root') (key : String) :
    root'.hasKey key = root.hasKey key := by
  unfold Fields.hasKey
  rcases h.get?_cases key with same | ⟨items, items', old, new⟩
  · rw [same]
  · rw [old, new]
    rfl

theorem Rearranges.mem_keys (h : Rearranges R root root') {key : String} :
    key ∈ root'.keys ↔ key ∈ root.keys := by
  rw [← Fields.hasKey_iff, ← Fields.hasKey_iff, h.hasKey key]

/-- The documents may have been one of the rearranged lists; they are a list in any case. -/
theorem Rearranges.documentsAt (h : Rearranges R root root') {documents : List Json}
    (hd : DocumentsAt settings root documents) :
    ∃ documents', DocumentsAt settings root' documents' := by
  obtain ⟨key, present, list⟩ := hd
  have present' : presentDocumentKeys settings root' = [key] := by
    rw [← present]
    apply List.filter_congr
    intro other _
    exact h.hasKey other
  rcases h.get?_cases key with same | ⟨items, items', -, new⟩
  · exact ⟨documents, key, present', same.trans list⟩
  · exact ⟨items', key, present', new⟩

end

/-! ### Catalogs of rearranged snapshots -/

/-- The catalog `c'`, of which these are the top-level fields, holds types of `c` as they were. -/
structure Retains (settings : Settings) (root' : Fields Json) (c c' : Catalog) : Prop where
  /-- The packages are in the new order. -/
  packages : root'.get? "packages" = some (.arr (c'.packages.map .str)) ∧
    c'.packages.Perm c.packages
  /-- The types are in the new order. -/
  types : ∃ items, root'.get? "types" = some (.arr items) ∧
    List.Forall₂ (DescribesItem settings) items c'.types
  retained : c'.types.Subperm c.types
  found : ∀ d ∈ c'.types, c'.find? d.qualifiedName = some d ∧ c.find? d.qualifiedName = some d
  typesIn : ∀ package, c'.typesIn package = c'.types.filter (fun d => d.package = package) ∧
    (c'.typesIn package).Perm ((c.typesIn package).filter fun d => d ∈ c'.types)
  typesOfKind : ∀ kind, c'.typesOfKind kind = c'.types.filter (fun d => d.kind = kind) ∧
    (c'.typesOfKind kind).Perm ((c.typesOfKind kind).filter fun d => d ∈ c'.types)

variable {settings : Settings} {root root' : Fields Json}

theorem Loads.rearranged {items : List Json} {c : Catalog} (hl : Loads settings root items c)
    (h : Rearranges List.Subperm root root') :
    ∃ items' c', Loads settings root' items' c' ∧ c'.packages.Perm c.packages ∧
      c'.types.Subperm c.types := by
  obtain ⟨documents, hd⟩ := h.documentsAt hl.documents
  obtain ⟨packages, packages', hp, hp', permuted⟩ := h.packages
  obtain ⟨olds, news, ht, ht', thinned⟩ := h.types
  -- the new lists, element by element
  obtain rfl : c.packages.map .str = packages :=
    Json.arr.inj (Option.some.inj (hl.packages.symm.trans hp))
  obtain rfl : items = olds := Json.arr.inj (Option.some.inj (hl.types.symm.trans ht))
  have texts : List.Forall₂ (fun item name => item = Json.str name) (c.packages.map .str)
      c.packages := by
    rw [List.forall₂_map_left_iff]
    exact List.forall₂_same.mpr fun _ _ => rfl
  obtain ⟨names, named, hnames⟩ := List.perm_comp_forall₂ permuted texts
  obtain rfl : packages' = names.map .str := by
    rw [← List.forall₂_eq_eq_eq, List.forall₂_map_right_iff]
    exact named
  obtain ⟨ds, hds, hsub⟩ := exists_forall₂_of_subperm hl.entries thinned
  -- they are as consistent as the old ones
  obtain ⟨c', hc'⟩ : ∃ c' : Catalog, c'.HasParts documents c.modules names ds := by
    apply Catalog.exists_catalog_iff.mpr
    refine ⟨?_, hnames.symm.nodup c.packages_nodup, ?_, ?_⟩
    · intro p hmem
      exact c.packages_wellFormed p (hnames.mem_iff.mp hmem)
    · exact nodup_map_of_subperm _ hsub c.names_nodup
    · intro d hmem
      exact hnames.mem_iff.mpr (c.packages_declared d (hsub.subset hmem))
  obtain ⟨rfl, hm, rfl, rfl⟩ := hc'
  refine ⟨news, c', ⟨?_, hd, ?_, hp', ht', hds⟩, hnames, hsub⟩
  · intro strict key hmem
    exact hl.keys strict key (h.mem_keys.mp hmem)
  · rw [h.other _ (by decide) (by decide), hm]
    exact hl.modules

theorem Loads.retains {items' : List Json} {c c' : Catalog} (hl : Loads settings root' items' c')
    (hp : c'.packages.Perm c.packages) (ht : c'.types.Subperm c.types) :
    Retains settings root' c c' where
  packages := ⟨hl.packages, hp⟩
  types := ⟨items', hl.types, hl.entries⟩
  retained := ht
  found := by
    intro d hd
    exact ⟨Catalog.find?_eq_some_iff.mpr ⟨hd, rfl⟩,
      Catalog.find?_eq_some_iff.mpr ⟨ht.subset hd, rfl⟩⟩
  typesIn := by
    intro package
    rw [Catalog.typesIn_eq_filter, Catalog.typesIn_eq_filter]
    exact ⟨rfl, filter_perm_of_subperm ht c.types_nodup _⟩
  typesOfKind := by
    intro kind
    exact ⟨rfl, filter_perm_of_subperm ht c.types_nodup _⟩

/-- **Order does not matter.**  If a snapshot loads and its packages are permuted and its types
permuted and perhaps left out, it loads again, and the catalog retains the types that are left: they
are found as before, and they make up the groups by package and by kind in the new order.  If no
type is left out, both snapshots load or neither does. -/
theorem load_rearranged (settings : Settings) (root root' : Fields Json) :
    (Rearranges List.Subperm root root' → ∀ c, (load settings (.obj root)).outcome = .ok c →
      ∃ c', (load settings (.obj root')).outcome = .ok c' ∧ Retains settings root' c c') ∧
    (Rearranges List.Perm root root' →
      ((∃ c, (load settings (.obj root)).outcome = .ok c) ↔
        ∃ c', (load settings (.obj root')).outcome = .ok c')) := by
  have again : ∀ {r r' : Fields Json}, Rearranges List.Subperm r r' →
      ∀ c, (load settings (.obj r)).outcome = .ok c →
        ∃ c', (load settings (.obj r')).outcome = .ok c' ∧ Retains settings r' c c' := by
    intro r r' h c hc
    obtain ⟨_, items, ⟨⟩, hl⟩ := load_eq_ok_iff.mp hc
    obtain ⟨items', c', hl', hp, ht⟩ := hl.rearranged h
    exact ⟨c', load_eq_ok_iff.mpr ⟨r', items', rfl, hl'⟩, hl'.retains hp ht⟩
  refine ⟨again, ?_⟩
  intro h
  constructor
  · rintro ⟨c, hc⟩
    obtain ⟨c', hc', -⟩ := again h.subperm c hc
    exact ⟨c', hc'⟩
  · rintro ⟨c', hc'⟩
    obtain ⟨c, hc, -⟩ := again h.symm.subperm c' hc'
    exact ⟨c, hc⟩

/-- An entry of a class. -/
def classEntry (package name : String) : Json :=
  .obj [("name", .str name), ("packageName", .str package), ("type", .str "Class")]

/-- A snapshot with two packages and three types. -/
def forestRoot : Fields Json :=
  [("documents", .arr []), ("modules", .arr []),
    ("packages", .arr [.str "tree", .str "tree.leaf"]),
    ("types", .arr [classEntry "tree" "Node", classEntry "tree.leaf" "Leaf",
      classEntry "tree" "Root"])]

/-- The snapshot with its packages the other way round, and with two of its types the other way
round. -/
def thinnedRoot : Fields Json :=
  (forestRoot.insert "packages" (.arr [.str "tree.leaf", .str "tree"])).insert "types"
    (.arr [classEntry "tree" "Root", classEntry "tree" "Node"])

theorem load_rearranged_of_forest :
    Rearranges List.Subperm forestRoot thinnedRoot ∧
      ∃ c c', (load {} (.obj forestRoot)).outcome = .ok c ∧
        (load {} (.obj thinnedRoot)).outcome = .ok c' ∧ Retains {} thinnedRoot c c' ∧
        (c.typesIn "tree").map Descriptor.name = ["Node", "Root"] ∧
        (c'.typesIn "tree").map Descriptor.name = ["Root", "Node"] := by
  have thinned : List.Subperm [classEntry "tree" "Root", classEntry "tree" "Node"]
      [classEntry "tree" "Node", classEntry "tree.leaf" "Leaf", classEntry "tree" "Root"] := by
    refine ⟨[classEntry "tree" "Node", classEntry "tree" "Root"], .swap _ _ _, ?_⟩
    exact (((List.Sublist.refl []).cons_cons _).cons _).cons_cons _
  have rearranged : Rearranges List.Subperm forestRoot thinnedRoot :=
    rearranges_insert rfl rfl (.swap _ _ _) thinned
  obtain ⟨c, hc, before⟩ : ∃ c, (load {} (.obj forestRoot)).outcome = .ok c ∧
      (c.typesIn "tree").map Descriptor.name = ["Node", "Root"] := ⟨_, rfl, rfl⟩
  obtain ⟨c', hc', after⟩ : ∃ c, (load {} (.obj thinnedRoot)).outcome = .ok c ∧
      (c.typesIn "tree").map Descriptor.name = ["Root", "Node"] := ⟨_, rfl, rfl⟩
  obtain ⟨c'', hc'', retains⟩ := (load_rearranged {} forestRoot thinnedRoot).1 rearranged c hc
  obtain rfl : c' = c'' := Except.ok.inj (hc'.symm.trans hc'')
  exact ⟨rearranged, c, c', hc, hc', retains, before, after⟩

end Snapshot
end TypeCatalog
