import TypeCatalog.Proofs.Catalog
import TypeCatalog.Proofs.PackageName

/-! # Packages and their parents

A package is a child of another one if it is that package with one more segment (`IsChild`).  The
search for children compares character by character and finds exactly these
(`childSegment?_eq_some_iff`), in any list of packages.  The segment of a child has no dot, so the
parent is what stands in front of the last dot, and there is one at most (`IsChild.unique`).  In a
catalog each package with a dot therefore is a child of one text, the package part of its name when
it is read as a qualified name, and a package without a dot is a child of none
(`subPackages_exact`). -/

namespace TypeCatalog

/-- The child is the parent with one more segment behind a dot. -/
def IsChild (parent child : String) : Prop :=
  ∃ segment, child = parent ++ "." ++ segment ∧ segment ≠ "" ∧ '.' ∉ segment.toList

/-! ### One parent -/

theorem IsChild.splitAtLastDot_eq {parent child : String} (h : IsChild parent child) :
    ∃ segment, Name.splitAtLastDot child.toList = some (parent.toList, segment) := by
  obtain ⟨segment, rfl, -, single⟩ := h
  refine ⟨segment.toList, ?_⟩
  rw [Name.toList_dotted, Name.splitAtLastDot_append single]

theorem IsChild.unique {parent parent' child : String} (h : IsChild parent child)
    (h' : IsChild parent' child) : parent = parent' := by
  obtain ⟨segment, cut⟩ := h.splitAtLastDot_eq
  obtain ⟨segment', cut'⟩ := h'.splitAtLastDot_eq
  have same : (parent.toList, segment) = (parent'.toList, segment') :=
    Option.some.inj (cut.symm.trans cut')
  exact String.toList_inj.mp (Prod.mk.inj same).1

theorem IsChild.dot_mem {parent child : String} (h : IsChild parent child) :
    '.' ∈ child.toList := by
  obtain ⟨segment, rfl, -⟩ := h
  rw [Name.toList_dotted]
  exact List.mem_append_right _ List.mem_cons_self

/-- Read as a qualified name, a text is a child of the package part. -/
theorem isChild_of_parse? {child : String} {q : QualifiedName}
    (h : QualifiedName.parse? child = some q) : IsChild q.package child := by
  obtain ⟨printed, -, filled, single⟩ := QualifiedName.parse?_eq_some_iff.mp h
  exact ⟨q.name, printed.symm, filled, single⟩

namespace PackageIndex

/-! ### The search for children -/

theorem childSegment?_eq_some_iff {parent child segment : List Char} :
    childSegment? parent child = some segment ↔
      child = parent ++ '.' :: segment ∧ segment ≠ [] ∧ '.' ∉ segment := by
  fun_induction childSegment? parent child with
  | case1 rest blocked =>
      -- behind the dot stands nothing, or more than one segment
      refine iff_of_false nofun ?_
      rintro ⟨same, filled, single⟩
      obtain rfl : rest = segment := (List.cons.inj same).2
      rw [Bool.or_eq_true, List.isEmpty_iff, List.contains_iff_mem] at blocked
      exact blocked.elim filled single
  | case2 rest free =>
      rw [Bool.or_eq_true, not_or, List.isEmpty_iff, List.contains_iff_mem] at free
      constructor
      · rintro ⟨⟩
        exact ⟨rfl, free⟩
      · rintro ⟨same, -⟩
        rw [(List.cons.inj same).2]
  | case3 ps c cs ih => rw [ih, List.cons_append, List.cons.injEq, and_iff_right rfl]
  | case4 p ps c cs other =>
      refine iff_of_false nofun ?_
      rintro ⟨same, -⟩
      exact other (List.cons.inj same).1.symm
  | case5 parent child noDot noPair =>
      refine iff_of_false nofun ?_
      rintro ⟨rfl, -⟩
      cases parent with
      | nil => exact noDot segment rfl rfl
      | cons p ps => exact noPair p ps p (ps ++ '.' :: segment) rfl rfl

theorem isSome_childSegment?_iff {parent child : String} :
    (childSegment? parent.toList child.toList).isSome = true ↔ IsChild parent child := by
  rw [Option.isSome_iff_exists]
  constructor
  · rintro ⟨segment, h⟩
    obtain ⟨same, filled, single⟩ := childSegment?_eq_some_iff.mp h
    refine ⟨String.ofList segment, ?_, by simpa using filled, by simpa using single⟩
    rw [← String.toList_inj, same, Name.toList_dotted, String.toList_ofList]
  · rintro ⟨segment, rfl, filled, single⟩
    have filled : segment.toList ≠ [] := by simpa using filled
    exact ⟨segment.toList,
      childSegment?_eq_some_iff.mpr ⟨Name.toList_dotted parent segment, filled, single⟩⟩

instance (parent child : String) : Decidable (IsChild parent child) :=
  decidable_of_iff _ isSome_childSegment?_iff

theorem subPackages_build (packages : List String) (types : List Descriptor) (parent : String) :
    (build packages types).subPackages parent =
      packages.filter fun child => IsChild parent child := by
  refine List.filter_congr fun child _ => ?_
  rw [Bool.eq_iff_iff, decide_eq_true_eq]
  exact isSome_childSegment?_iff

end PackageIndex

namespace Catalog

/-! ### Children in a catalog -/

theorem mem_subPackages_iff {c : Catalog} {parent child : String} :
    child ∈ c.index.subPackages parent ↔ child ∈ c.packages ∧ IsChild parent child := by
  rw [c.index_eq, PackageIndex.subPackages_build, List.mem_filter, decide_eq_true_eq]
  exact Iff.rfl

/-- **Sub-packages are the children.**  In any list of packages those below a text are the ones that
extend it by one segment, in the order of the list and as often as they stand there.  In a catalog
each package with a dot is below exactly one text, its package part when it is read as a qualified
name, and a package without a dot is below none. -/
theorem subPackages_exact :
    (∀ (packages : List String) (types : List Descriptor) (parent : String),
      (PackageIndex.build packages types).subPackages parent =
        packages.filter fun child => IsChild parent child) ∧
    ∀ (c : Catalog), ∀ child ∈ c.packages,
      ('.' ∈ child.toList → ∃ q, QualifiedName.parse? child = some q ∧
        ∀ parent, child ∈ c.index.subPackages parent ↔ parent = q.package) ∧
      ('.' ∉ child.toList → ∀ parent, child ∉ c.index.subPackages parent) := by
  refine ⟨PackageIndex.subPackages_build, fun c child hc => ⟨fun dot => ?_, ?_⟩⟩
  · obtain ⟨q, read, -⟩ := Name.exists_parent_of_isPackageName (c.packages_wellFormed child hc) dot
    refine ⟨q, read, fun parent => ?_⟩
    have own : IsChild q.package child := isChild_of_parse? read
    rw [mem_subPackages_iff, and_iff_right hc]
    constructor
    · intro h
      exact h.unique own
    · rintro rfl
      exact own
  · intro noDot parent h
    exact noDot (mem_subPackages_iff.mp h).2.dot_mem

/-- Packages with a grandchild in front of its parent, and with names that only start alike. -/
def heath : List String := ["heath", "heath.moor.ling", "heathland", "heath.moor"]

theorem subPackages_of_heath :
    ∃ c : Catalog, c.HasParts [] [] heath [] ∧ c.index.subPackages "heath" = ["heath.moor"] ∧
      "heath.moor.ling" ∈ c.packages ∧ '.' ∈ "heath.moor.ling".toList ∧
      (∀ parent, "heath.moor.ling" ∈ c.index.subPackages parent ↔ parent = "heath.moor") ∧
      "heathland" ∈ c.packages ∧ '.' ∉ "heathland".toList ∧
      ∀ parent, "heathland" ∉ c.index.subPackages parent := by
  obtain ⟨c, hc⟩ : ∃ c : Catalog, c.HasParts [] [] heath [] :=
    exists_catalog_iff.mpr ⟨by decide, by decide, by decide, by decide⟩
  have ling : "heath.moor.ling" ∈ c.packages := by
    rw [hc.packages]
    decide
  have land : "heathland" ∈ c.packages := by
    rw [hc.packages]
    decide
  have dot : '.' ∈ "heath.moor.ling".toList := by decide
  have noDot : '.' ∉ "heathland".toList := by decide
  obtain ⟨children, parents⟩ := subPackages_exact
  refine ⟨c, hc, ?_, ling, dot, ?_, land, noDot, (parents c _ land).2 noDot⟩
  · have built : c.index = .build heath [] := by
      rw [c.index_eq, hc.types]
      exact congrArg (PackageIndex.build · []) hc.packages
    rw [built, children]
    decide
  · obtain ⟨q, read, parent⟩ := (parents c _ ling).1 dot
    have package : q.package = "heath.moor" := by
      cases read
      rfl
    rwa [package] at parent

end Catalog
end TypeCatalog
