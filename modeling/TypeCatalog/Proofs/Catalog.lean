import TypeCatalog.Catalog

/-! # Assembling catalogs

A catalog is determined by its documents, modules, packages and types: the two tables are computed
from them.  `assemble` gives back every catalog from its parts (`assemble_eq_ok_iff`), and parts
belong to a catalog iff they are consistent (`exists_catalog_iff`). -/

namespace TypeCatalog.Catalog

/-- These are the parts of the catalog. -/
structure HasParts (c : Catalog) (documents modules : List Json) (packages : List String)
    (types : List Descriptor) : Prop where
  documents : c.documents = documents
  modules : c.modules = modules
  packages : c.packages = packages
  types : c.types = types

theorem hasParts_self (c : Catalog) : c.HasParts c.documents c.modules c.packages c.types :=
  ⟨rfl, rfl, rfl, rfl⟩

theorem ext_parts {c c' : Catalog} (h : c.HasParts c'.documents c'.modules c'.packages c'.types) :
    c = c' := by
  obtain ⟨documents, modules, types, index, names, hi, hn⟩ := c
  obtain ⟨documents', modules', types', index', names', hi', hn'⟩ := c'
  obtain ⟨rfl, rfl, hp, rfl⟩ := h
  have hp : index.packages = index'.packages := hp
  have e : index = index' := by rw [hi, hi', hp]
  subst e hn hn'
  rfl

variable {documents modules : List Json} {packages : List String} {types : List Descriptor}

theorem assemble_eq_ok_iff {c : Catalog} :
    assemble documents modules packages types = .ok c ↔
      c.HasParts documents modules packages types := by
  constructor
  · intro h
    unfold assemble at h
    split at h
    · cases h
    · split at h
      · cases h
      · split at h
        · cases h
        · cases h
          exact ⟨rfl, rfl, rfl, rfl⟩
  · rintro ⟨rfl, rfl, rfl, rfl⟩
    have hp : packagesDefect? c.packages = none :=
      packagesDefect?_eq_none_iff.mpr ⟨c.packages_wellFormed, c.packages_nodup⟩
    have hn : firstRepeat? (c.types.map Descriptor.qualifiedName) = none :=
      firstRepeat?_eq_none_iff.mpr c.names_nodup
    have hd : undeclared? (.build c.packages c.types) 0 c.types = none :=
      undeclared?_eq_none_iff.mpr c.packages_declared
    unfold assemble
    split
    · rename_i h
      rw [hp] at h
      cases h
    · split
      · rename_i h
        rw [hn] at h
        cases h
      · split
        · rename_i h
          rw [hd] at h
          cases h
        · rw [Except.ok.injEq]
          exact ext_parts ⟨rfl, rfl, rfl, rfl⟩

/-- Parts belong to a catalog iff the packages are well-formed names without repetition, no two
types share a qualified name, and every type's package is declared. -/
theorem exists_catalog_iff :
    (∃ c : Catalog, c.HasParts documents modules packages types) ↔
      (∀ p ∈ packages, Name.isPackageName p = true) ∧ packages.Nodup ∧
        (types.map Descriptor.qualifiedName).Nodup ∧ ∀ d ∈ types, d.package ∈ packages := by
  constructor
  · rintro ⟨c, rfl, rfl, rfl, rfl⟩
    exact ⟨c.packages_wellFormed, c.packages_nodup, c.names_nodup, c.packages_declared⟩
  · rintro ⟨hw, hp, hn, hd⟩
    exact ⟨⟨documents, modules, types, .build packages types, nameTableFrom 0 types, rfl, rfl,
      hw, hp, hn, hd⟩, rfl, rfl, rfl, rfl⟩

theorem eq_undeclaredPackage_of_undeclared? {index : PackageIndex} {ds : List Descriptor}
    {pos : Nat} {e : LoadError} (h : undeclared? index pos ds = some e) :
    ∃ package name i, e = .undeclaredPackage package name i := by
  induction ds generalizing pos with
  | nil => cases h
  | cons d ds ih =>
      unfold undeclared? at h
      split at h
      · exact ih h
      · cases h
        exact ⟨_, _, _, rfl⟩

theorem eq_packageDefect_of_packagesDefect? {d : EntryDefect}
    (h : packagesDefect? packages = some d) : ∃ i reason, d = packageDefect i reason := by
  unfold packagesDefect? at h
  split at h
  · cases h
  · cases h
    exact ⟨_, _, rfl⟩
  · cases h
    exact ⟨_, _, rfl⟩
  · split at h <;> cases h <;> exact ⟨_, _, rfl⟩

/-- Assembly fails for a declared package, for two types that share a qualified name, or for an
undeclared package, and in no other way. -/
theorem assemble_error_cases {e : LoadError}
    (h : assemble documents modules packages types = .error e) :
    (∃ i reason, e = .invalid (packageDefect i reason)) ∨
      (∃ package name i j, e = .duplicateType package name i j) ∨
        ∃ package name i, e = .undeclaredPackage package name i := by
  unfold assemble at h
  split at h
  · rename_i d hp
    cases h
    obtain ⟨i, reason, rfl⟩ := eq_packageDefect_of_packagesDefect? hp
    exact .inl ⟨i, reason, rfl⟩
  · split at h
    · cases h
      exact .inr (.inl ⟨_, _, _, _, rfl⟩)
    · split at h
      · rename_i hu
        cases h
        exact .inr (.inr (eq_undeclaredPackage_of_undeclared? hu))
      · cases h

end TypeCatalog.Catalog
