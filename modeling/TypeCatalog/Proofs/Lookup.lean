import Mathlib.Data.List.Nodup
import Std.Data.TreeMap.Lemmas
import TypeCatalog.Proofs.Catalog

/-! # Looking types up

The table of names is built from the last type to the first, so it holds under each qualified name
the first position of a type that has it (`nameTableFrom_getElem?`).  Look-up in a catalog by way
of this table is a search through the type list (`find?_eq_find?`), and since no two types of a
catalog share a name it finds exactly the type with the given one.  What a catalog says of a type
or a package is therefore what its two lists say (`lookup_agrees_with_lists`). -/

namespace TypeCatalog

/-! ### The table of names -/

/-- Under each name stands the first position of a type with this name, counted from `pos`. -/
theorem nameTableFrom_getElem? (pos : Nat) (ds : List Descriptor) (q : QualifiedName) :
    (nameTableFrom pos ds)[q]? =
      (ds.findIdx? fun d => d.qualifiedName = q).map fun i => i + pos := by
  induction ds generalizing pos with
  | nil => simp [nameTableFrom]
  | cons d ds ih =>
      rw [nameTableFrom, Std.TreeMap.getElem?_insert, List.findIdx?_cons, ih]
      by_cases h : d.qualifiedName = q
      · simp [h]
      · have later : compare d.qualifiedName q ≠ .eq := fun he =>
          h (Std.LawfulEqCmp.compare_eq_iff_eq.mp he)
        simp [later, h, Function.comp_def, Nat.add_assoc, Nat.add_comm 1 pos]

namespace Catalog

/-! ### Look-up as a search -/

theorem find?_eq_find? (c : Catalog) (q : QualifiedName) :
    c.find? q = c.types.find? fun d => d.qualifiedName = q := by
  have table : c.names[q]? = c.types.findIdx? fun d => d.qualifiedName = q := by
    rw [c.names_eq, nameTableFrom_getElem?]
    simp
  rw [find?, table, List.find?_eq_bind_findIdx?_getElem?]
  cases c.types.findIdx? fun d => d.qualifiedName = q <;> rfl

theorem find?_eq_none_iff {c : Catalog} {q : QualifiedName} :
    c.find? q = none ↔ ∀ d ∈ c.types, d.qualifiedName ≠ q := by
  simp [find?_eq_find?]

theorem find?_eq_some_iff {c : Catalog} {q : QualifiedName} {d : Descriptor} :
    c.find? q = some d ↔ d ∈ c.types ∧ d.qualifiedName = q := by
  rw [find?_eq_find?]
  constructor
  · intro h
    exact ⟨List.mem_of_find?_eq_some h, by simpa using List.find?_some h⟩
  · rintro ⟨hd, rfl⟩
    cases h : c.types.find? fun d' => d'.qualifiedName = d.qualifiedName with
    | none => exact absurd (decide_eq_true rfl) (List.find?_eq_none.mp h d hd)
    | some d' =>
        -- both have the name, and the catalog has one type with it
        have same : d'.qualifiedName = d.qualifiedName := by simpa using List.find?_some h
        rw [List.inj_on_of_nodup_map c.names_nodup (List.mem_of_find?_eq_some h) hd same]

theorem eq_of_qualifiedName_eq {c : Catalog} {i j : Nat} {d d' : Descriptor}
    (hi : c.types[i]? = some d) (hj : c.types[j]? = some d')
    (h : d.qualifiedName = d'.qualifiedName) : i = j := by
  have bound : i < (c.types.map Descriptor.qualifiedName).length := by
    rw [List.length_map]
    exact (List.getElem?_eq_some_iff.mp hi).1
  refine (List.getElem?_inj bound c.names_nodup).mp ?_
  rw [List.getElem?_map, List.getElem?_map, hi, hj, Option.map_some, Option.map_some, h]

theorem qualifiedName_eq_iff {d : Descriptor} {package name : String} :
    d.qualifiedName = ⟨package, name⟩ ↔ d.package = package ∧ d.name = name := by
  simp [Descriptor.qualifiedName]

/-! ### Packages -/

theorem packageExists_iff {c : Catalog} {package : String} :
    c.packageExists package = true ↔ package ∈ c.packages := by
  rw [packageExists, c.index_eq]
  exact PackageIndex.packageExists_build

/-! ### What a catalog says -/

/-- **Look-up is exact.**  In every catalog a type is found under a package and a name iff it is
in the type list and has them, nothing is found iff no type has them, and no two positions of the
type list hold types that share both.  Every type's package is declared; the packages that exist
are those declared, each of them once and with a well-formed name. -/
theorem lookup_agrees_with_lists (c : Catalog) :
    (∀ package name d, c.find? ⟨package, name⟩ = some d ↔
      d ∈ c.types ∧ d.package = package ∧ d.name = name) ∧
    (∀ package name, c.find? ⟨package, name⟩ = none ↔
      ∀ d ∈ c.types, ¬ (d.package = package ∧ d.name = name)) ∧
    (∀ (i j : Nat) (d d' : Descriptor), c.types[i]? = some d → c.types[j]? = some d' →
      d.package = d'.package ∧ d.name = d'.name → i = j) ∧
    (∀ d ∈ c.types, d.package ∈ c.packages ∧ c.packageExists d.package = true) ∧
    (∀ package, c.packageExists package = true ↔ package ∈ c.packages) ∧
    c.packages.Nodup ∧ ∀ package ∈ c.packages, Name.isPackageName package = true := by
  refine ⟨fun package name d => ?_, fun package name => ?_, fun i j d d' hi hj h => ?_,
    fun d hd => ?_, fun package => packageExists_iff, c.packages_nodup, c.packages_wellFormed⟩
  · rw [find?_eq_some_iff, qualifiedName_eq_iff]
  · simp only [find?_eq_none_iff, ne_eq, qualifiedName_eq_iff]
  · exact eq_of_qualifiedName_eq hi hj (qualifiedName_eq_iff.mpr h)
  · exact ⟨c.packages_declared d hd, packageExists_iff.mpr (c.packages_declared d hd)⟩

/-- A type of the package `tree`. -/
def leaf : Descriptor where
  name := "Leaf"
  package := "tree"
  kind := .enumeration
  modifiers := .empty
  name_wellFormed := by decide
  package_wellFormed := by decide

theorem lookup_of_leaf :
    ∃ c : Catalog, c.HasParts [] [] ["tree", "tree.leaf"] [leaf] ∧
      c.find? ⟨"tree", "Leaf"⟩ = some leaf ∧ c.find? ⟨"tree.leaf", "Leaf"⟩ = none ∧
      c.packageExists "tree.leaf" = true := by
  obtain ⟨c, hc⟩ : ∃ c : Catalog, c.HasParts [] [] ["tree", "tree.leaf"] [leaf] :=
    exists_catalog_iff.mpr ⟨by decide, by decide, by simp, by simp [leaf]⟩
  obtain ⟨found, missing, -, -, declared, -⟩ := lookup_agrees_with_lists c
  refine ⟨c, hc, (found _ _ _).mpr ?_, (missing _ _).mpr ?_, (declared _).mpr ?_⟩
  · rw [hc.types]
    exact ⟨List.mem_singleton_self leaf, rfl, rfl⟩
  · rw [hc.types]
    simp [leaf]
  · rw [hc.packages]
    decide

end Catalog
end TypeCatalog
