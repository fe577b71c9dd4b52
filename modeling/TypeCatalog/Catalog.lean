import TypeCatalog.Collection.Repeats
import TypeCatalog.Json.Value
import TypeCatalog.PackageIndex

/-!
# Catalogs

A catalog holds the checked content of one snapshot together with its look-up tables. The checks
are part of the type: package names are well formed and declared once, no two types share a
qualified name, and every type's package is declared. `Catalog.assemble` either makes a catalog
or names the first inconsistency.
-/

namespace TypeCatalog

/-- The position of each qualified name in a type list. -/
abbrev NameTable := Std.TreeMap QualifiedName Nat compare

/-- The table of the types that start at position `pos`; the first of equal names counts. -/
def nameTableFrom (pos : Nat) : List Descriptor → NameTable
  | [] => ∅
  | d :: ds => (nameTableFrom (pos + 1) ds).insert d.qualifiedName pos

/-- The checked content of one snapshot. -/
structure Catalog where
  documents : List Json
  modules : List Json
  /-- All types, in the order of the snapshot. -/
  types : List Descriptor
  index : PackageIndex
  names : NameTable
  index_eq : index = .build index.packages types
  names_eq : names = nameTableFrom 0 types
  packages_wellFormed : ∀ p ∈ index.packages, Name.isPackageName p = true
  packages_nodup : index.packages.Nodup
  names_nodup : (types.map Descriptor.qualifiedName).Nodup
  packages_declared : ∀ d ∈ types, d.package ∈ index.packages

namespace Catalog

/-! ### Checks -/

/-- The defect of the declared package at position `i`. -/
def packageDefect (i : Nat) (reason : Reason) : EntryDefect :=
  (EntryDefect.ofReason reason).locatedAt (elementPlace "packages" i)

/-- The first ill-formed name among the packages from position `pos` on. -/
def illFormedPackage? (pos : Nat) : List String → Option (Nat × String)
  | [] => none
  | p :: ps => if Name.isPackageName p then illFormedPackage? (pos + 1) ps else some (pos, p)

/-- The first declared package that is ill formed or was declared before. -/
def packagesDefect? (packages : List String) : Option EntryDefect :=
  match illFormedPackage? 0 packages, firstRepeat? packages with
  | none, none => none
  | some (i, name), none => some (packageDefect i (.badPackageName name))
  | none, some r => some (packageDefect r.again (.repeatedPackage r.value r.first))
  | some (i, name), some r =>
    if i ≤ r.again then some (packageDefect i (.badPackageName name))
    else some (packageDefect r.again (.repeatedPackage r.value r.first))

/-- The first type, from position `pos` on, whose package is not declared. -/
def undeclared? (index : PackageIndex) (pos : Nat) : List Descriptor → Option LoadError
  | [] => none
  | d :: ds =>
    if index.packageExists d.package then undeclared? index (pos + 1) ds
    else some (.undeclaredPackage d.package d.name pos)

theorem illFormedPackage?_eq_none_iff {pos : Nat} {packages : List String} :
    illFormedPackage? pos packages = none ↔ ∀ p ∈ packages, Name.isPackageName p = true := by
  induction packages generalizing pos with
  | nil => simp [illFormedPackage?]
  | cons p ps ih =>
    unfold illFormedPackage?
    split <;> simp_all

theorem packagesDefect?_eq_none_iff {packages : List String} :
    packagesDefect? packages = none ↔
      (∀ p ∈ packages, Name.isPackageName p = true) ∧ packages.Nodup := by
  rw [← @illFormedPackage?_eq_none_iff 0, ← firstRepeat?_eq_none_iff]
  unfold packagesDefect?
  split <;> try split
  all_goals simp_all

theorem undeclared?_eq_none_iff {packages : List String} {all types : List Descriptor}
    {pos : Nat} :
    undeclared? (.build packages all) pos types = none ↔ ∀ d ∈ types, d.package ∈ packages := by
  induction types generalizing pos with
  | nil => simp [undeclared?]
  | cons d ds ih =>
    unfold undeclared?
    split <;> simp_all [PackageIndex.packageExists_build]

/-! ### Assembly -/

/-- The catalog of these parts, or their first inconsistency: in the package list, then a repeated
qualified name, then an undeclared package. -/
def assemble (documents modules : List Json) (packages : List String) (types : List Descriptor) :
    Except LoadError Catalog :=
  match hp : packagesDefect? packages with
  | some defect => .error (.invalid defect)
  | none =>
    match hn : firstRepeat? (types.map Descriptor.qualifiedName) with
    | some r => .error (.duplicateType r.value.package r.value.name r.first r.again)
    | none =>
      match hd : undeclared? (.build packages types) 0 types with
      | some error => .error error
      | none => .ok {
          documents, modules, types
          index := .build packages types
          names := nameTableFrom 0 types
          index_eq := rfl
          names_eq := rfl
          packages_wellFormed := (packagesDefect?_eq_none_iff.1 hp).1
          packages_nodup := (packagesDefect?_eq_none_iff.1 hp).2
          names_nodup := firstRepeat?_eq_none_iff.1 hn
          packages_declared := undeclared?_eq_none_iff.1 hd }

/-! ### Queries -/

/-- The declared packages, in the order of declaration. -/
def packages (c : Catalog) : List String := c.index.packages

/-- How many types there are. -/
def size (c : Catalog) : Nat := c.types.length

/-- Whether there is no type. -/
def isEmpty (c : Catalog) : Bool := c.types.isEmpty

/-- The type with a qualified name. -/
def find? (c : Catalog) (name : QualifiedName) : Option Descriptor :=
  match c.names[name]? with
  | some pos => c.types[pos]?
  | none => none

/-- The types of a kind, in order. -/
def typesOfKind (c : Catalog) (kind : Kind) : List Descriptor :=
  c.types.filter fun d => d.kind = kind

/-- The types of a package, in order. -/
def typesIn (c : Catalog) (package : String) : List Descriptor :=
  (c.index.positionsIn package).filterMap fun pos => c.types[pos]?

/-- Whether a package is declared. -/
def packageExists (c : Catalog) (package : String) : Bool := c.index.packageExists package

end Catalog
end TypeCatalog
