import Mathlib.Algebra.GroupWithZero.Nat
import Mathlib.Data.List.Basic
import Mathlib.Data.List.Nodup
import Std.Data.TreeMap.Lemmas
import TypeCatalog.Proofs.Catalog

/-! # Types by package and by kind

The index keeps positions in the type list.  Under each package stand the positions of the types
that have it, in order (`getD_membersFrom`), so looking these positions up again gives the types of
the package as they stand in the list, with none dropped (`typesIn_eq_filter`).

The groups by package and the groups by kind are filters of one list by the value of a key.  If the
values that are looked for are distinct and each element has one of them, such groups make up the
list again (`flatMap_filter_perm`).  Hence each type of a catalog is in one group of either sort,
and the sizes of the groups add up to the size of the catalog (`groups_partition_types`). -/

namespace TypeCatalog

/-! ### Groups of a list -/

section
variable {α κ : Type} [DecidableEq κ] (key : α → κ) {keys : List κ}

theorem flatMap_filter_perm (distinct : keys.Nodup) {xs : List α}
    (covered : ∀ x ∈ xs, key x ∈ keys) :
    (keys.flatMap fun k => xs.filter fun x => key x = k).Perm xs := by
  -- one key after the other is taken, and the elements that have it leave the list
  induction keys generalizing xs with
  | nil =>
      have none : xs = [] := List.eq_nil_iff_forall_not_mem.mpr fun x hx =>
        List.not_mem_nil (covered x hx)
      rw [none]
      exact List.Perm.nil
  | cons k ks ih =>
      obtain ⟨fresh, distinct⟩ := List.nodup_cons.mp distinct
      let rest := xs.filter fun x => !decide (key x = k)
      have later : ∀ x ∈ rest, key x ∈ ks := by
        intro x hx
        obtain ⟨mem, other⟩ := List.mem_filter.mp hx
        have other : key x ≠ k := by simpa using other
        exact (List.mem_cons.mp (covered x mem)).resolve_left other
      have same : ∀ k' ∈ ks, (xs.filter fun x => key x = k') = rest.filter fun x => key x = k' := by
        intro k' hk'
        have ne : k' ≠ k := fun e => fresh (e ▸ hk')
        rw [List.filter_filter]
        refine List.filter_congr fun x _ => ?_
        by_cases h : key x = k' <;> simp [h, ne]
      have others : (ks.flatMap fun k' => rest.filter fun x => key x = k').Perm rest :=
        ih distinct later
      rw [List.flatMap_cons, List.flatMap_congr same]
      exact (others.append_left _).trans (List.filter_append_perm _ xs)

theorem sum_length_filter (distinct : keys.Nodup) {xs : List α}
    (covered : ∀ x ∈ xs, key x ∈ keys) :
    (keys.map fun k => (xs.filter fun x => key x = k).length).sum = xs.length := by
  rw [← (flatMap_filter_perm key distinct covered).length_eq, List.length_flatMap]

theorem map_fst_filter_zipIdx (k : κ) (xs : List α) :
    (xs.zipIdx.filter fun x => key x.1 = k).map Prod.fst = xs.filter fun x => key x = k := by
  calc (xs.zipIdx.filter fun x => key x.1 = k).map Prod.fst
      = (xs.zipIdx.map Prod.fst).filter fun x => key x = k := by
        rw [List.filter_map]
        rfl
    _ = xs.filter fun x => key x = k := by rw [List.zipIdx_map_fst]

end

/-! ### Positions -/

namespace PackageIndex

/-- Under each package stand the positions, counted from `pos`, of the types that have it. -/
theorem getD_membersFrom (pos : Nat) (ds : List Descriptor) (package : String) :
    (membersFrom pos ds).getD package [] =
      ((ds.zipIdx pos).filter fun x => x.1.package = package).map Prod.snd := by
  induction ds generalizing pos with
  | nil => simp [membersFrom]
  | cons d ds ih =>
      unfold membersFrom
      rw [Std.TreeMap.getD_insert, List.zipIdx_cons]
      by_cases h : d.package = package
      · simp [h, ih]
      · have other : compare d.package package ≠ .eq := fun he =>
          h (Std.LawfulEqCmp.compare_eq_iff_eq.mp he)
        simp [h, other, ih]

theorem positionsIn_build (packages : List String) (types : List Descriptor) (package : String) :
    (build packages types).positionsIn package =
      (types.zipIdx.filter fun x => x.1.package = package).map Prod.snd :=
  getD_membersFrom 0 types package

theorem mem_positionsIn_build_iff {packages : List String} {types : List Descriptor}
    {package : String} {i : Nat} :
    i ∈ (build packages types).positionsIn package ↔
      ∃ d, types[i]? = some d ∧ d.package = package := by
  rw [positionsIn_build, List.mem_map]
  constructor
  · rintro ⟨⟨d, i⟩, hx, rfl⟩
    obtain ⟨mem, named⟩ := List.mem_filter.mp hx
    exact ⟨d, List.mem_zipIdx_iff_getElem?.mp mem, of_decide_eq_true named⟩
  · rintro ⟨d, element, named⟩
    refine ⟨(d, i), List.mem_filter.mpr ⟨?_, decide_eq_true named⟩, rfl⟩
    exact List.mem_zipIdx_iff_getElem?.mpr element

theorem positionsIn_build_ascending (packages : List String) (types : List Descriptor)
    (package : String) : ((build packages types).positionsIn package).Pairwise (· < ·) := by
  have part : ((build packages types).positionsIn package).Sublist
      (types.zipIdx.map Prod.snd) := by
    rw [positionsIn_build]
    exact List.filter_sublist.map Prod.snd
  have all : (types.zipIdx.map Prod.snd).Pairwise (· < ·) := by
    rw [List.zipIdx_map_snd]
    exact List.pairwise_lt_range'
  exact all.sublist part

theorem typeCount_build (packages : List String) (types : List Descriptor) (package : String) :
    (build packages types).typeCount package =
      (types.filter fun d => d.package = package).length := by
  rw [← map_fst_filter_zipIdx Descriptor.package package types, typeCount, positionsIn_build,
    List.length_map, List.length_map]

end PackageIndex

/-! ### Groups of a catalog -/

namespace Catalog

/-- The types of a package are those of the type list that have it, in its order. -/
theorem typesIn_eq_filter (c : Catalog) (package : String) :
    c.typesIn package = c.types.filter fun d => d.package = package := by
  have positions : c.index.positionsIn package =
      (c.types.zipIdx.filter fun x => x.1.package = package).map Prod.snd := by
    rw [c.index_eq]
    exact PackageIndex.positionsIn_build _ _ _
  -- a position that was taken from the list leads back to its type
  have back : ∀ x ∈ c.types.zipIdx.filter (fun x => x.1.package = package),
      c.types[x.2]? = some x.1 := by
    intro x hx
    exact List.mem_zipIdx_iff_getElem?.mp (List.mem_filter.mp hx).1
  calc c.typesIn package
      = (c.types.zipIdx.filter fun x => x.1.package = package).filterMap
          fun x => c.types[x.2]? := by
        rw [typesIn, positions, List.filterMap_map]
        rfl
    _ = (c.types.zipIdx.filter fun x => x.1.package = package).map Prod.fst := by
        rw [List.filterMap_congr back, ← Function.comp_def, List.filterMap_eq_map]
    _ = c.types.filter fun d => d.package = package :=
        map_fst_filter_zipIdx Descriptor.package package c.types

theorem types_nodup (c : Catalog) : c.types.Nodup := c.names_nodup.of_map

theorem mem_typesIn_iff {c : Catalog} {package : String} {d : Descriptor} :
    d ∈ c.typesIn package ↔ d ∈ c.types ∧ d.package = package := by
  rw [typesIn_eq_filter, List.mem_filter, decide_eq_true_eq]

theorem mem_typesOfKind_iff {c : Catalog} {kind : Kind} {d : Descriptor} :
    d ∈ c.typesOfKind kind ↔ d ∈ c.types ∧ d.kind = kind := by
  rw [typesOfKind, List.mem_filter, decide_eq_true_eq]

theorem sum_typeCount (c : Catalog) : (c.packages.map c.index.typeCount).sum = c.size := by
  have counts : ∀ package, c.index.typeCount package =
      (c.types.filter fun d => d.package = package).length := by
    intro package
    rw [c.index_eq]
    exact PackageIndex.typeCount_build _ _ _
  rw [List.map_congr_left fun package _ => counts package]
  exact sum_length_filter Descriptor.package c.packages_nodup c.packages_declared

theorem sum_length_typesOfKind (c : Catalog) :
    (Kind.all.map fun kind => (c.typesOfKind kind).length).sum = c.size :=
  sum_length_filter Descriptor.kind (by decide) fun d _ => Kind.mem_all d.kind

/-- **Groups are exact.**  For any two lists the index holds under each package the positions of its
types and no others, in ascending order.  In every catalog the types of a package and of a kind are
those that have it, in the order of the type list; each type is in the group of one declared package
and of one kind; and the groups of either sort have as many members as there are types. -/
theorem groups_partition_types :
    (∀ (packages : List String) (types : List Descriptor) (package : String),
      ((PackageIndex.build packages types).positionsIn package).Pairwise (· < ·) ∧
      (∀ i, i ∈ (PackageIndex.build packages types).positionsIn package ↔
        ∃ d, types[i]? = some d ∧ d.package = package) ∧
      (PackageIndex.build packages types).typeCount package =
        ((PackageIndex.build packages types).positionsIn package).length) ∧
    ∀ c : Catalog,
      (∀ package, c.typesIn package = c.types.filter fun d => d.package = package) ∧
      (∀ kind, c.typesOfKind kind = c.types.filter fun d => d.kind = kind) ∧
      (∀ d ∈ c.types, (∃! package, package ∈ c.packages ∧ d ∈ c.typesIn package) ∧
        ∃! kind, d ∈ c.typesOfKind kind) ∧
      (c.packages.map c.index.typeCount).sum = c.size ∧
      (Kind.all.map fun kind => (c.typesOfKind kind).length).sum = c.size := by
  constructor
  · intro packages types package
    exact ⟨PackageIndex.positionsIn_build_ascending packages types package,
      fun i => PackageIndex.mem_positionsIn_build_iff, rfl⟩
  · intro c
    refine ⟨c.typesIn_eq_filter, fun kind => rfl, fun d hd => ⟨?_, ?_⟩, c.sum_typeCount,
      c.sum_length_typesOfKind⟩
    · refine ⟨d.package, ⟨c.packages_declared d hd, mem_typesIn_iff.mpr ⟨hd, rfl⟩⟩, ?_⟩
      rintro package ⟨-, mem⟩
      exact (mem_typesIn_iff.mp mem).2.symm
    · refine ⟨d.kind, mem_typesOfKind_iff.mpr ⟨hd, rfl⟩, ?_⟩
      intro kind mem
      exact (mem_typesOfKind_iff.mp mem).2.symm

/-- A type of the package `wood.bark`. -/
def beetle : Descriptor := ⟨"Beetle", "wood.bark", .enumeration, .empty, by decide, by decide⟩

/-- Two types of one package, with a type of another package between them. -/
def woods : List Descriptor :=
  [⟨"Fern", "wood", .plainClass, .empty, by decide, by decide⟩, beetle,
    ⟨"Moss", "wood", .plainClass, .empty, by decide, by decide⟩]

theorem groups_partition_woods :
    ∃ c : Catalog, c.HasParts [] [] ["wood", "sky", "wood.bark"] woods ∧
      (c.typesIn "wood").map Descriptor.name = ["Fern", "Moss"] ∧ beetle ∈ c.types ∧
      (∃! package, package ∈ c.packages ∧ beetle ∈ c.typesIn package) ∧
      (∃! kind, beetle ∈ c.typesOfKind kind) ∧ (c.packages.map c.index.typeCount).sum = 3 := by
  obtain ⟨c, hc⟩ : ∃ c : Catalog, c.HasParts [] [] ["wood", "sky", "wood.bark"] woods :=
    exists_catalog_iff.mpr ⟨by decide, by decide, by decide, by decide⟩
  obtain ⟨inPackage, -, once, packages, -⟩ := groups_partition_types.2 c
  have mem : beetle ∈ c.types := by
    rw [hc.types]
    exact List.mem_cons_of_mem _ List.mem_cons_self
  refine ⟨c, hc, ?_, mem, (once beetle mem).1, (once beetle mem).2, ?_⟩
  · rw [inPackage, hc.types]
    rfl
  · rw [packages, size, hc.types]
    rfl

end Catalog
end TypeCatalog
