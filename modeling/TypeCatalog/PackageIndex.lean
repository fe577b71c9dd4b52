import Std.Data.TreeMap
import Std.Data.TreeSet
import TypeCatalog.Descriptor

/-!
# The package index

Where the types of each package stand. The index is built in one pass over the type list; it also
answers for package lists that were never checked, in which names may repeat or be undeclared.
-/

namespace TypeCatalog

/-- The positions of the types of each package, and the declared packages. -/
structure PackageIndex where
  /-- The declared packages, in the order of declaration. -/
  packages : List String
  declared : Std.TreeSet String compare
  /-- The ascending positions of the types of each package that has any. -/
  members : Std.TreeMap String (List Nat) compare

namespace PackageIndex

/-! ### Building -/

/-- The positions of the types of each package, for types that start at position `pos`. -/
def membersFrom (pos : Nat) : List Descriptor → Std.TreeMap String (List Nat) compare
  | [] => ∅
  | d :: ds =>
    let later := membersFrom (pos + 1) ds
    later.insert d.package (pos :: later.getD d.package [])

/-- The index of a package list and a type list. -/
def build (packages : List String) (types : List Descriptor) : PackageIndex :=
  ⟨packages, .ofList packages, membersFrom 0 types⟩

/-! ### Queries -/

/-- The positions of the types of a package, in ascending order. -/
def positionsIn (index : PackageIndex) (package : String) : List Nat :=
  index.members.getD package []

/-- Whether a package is declared. -/
def packageExists (index : PackageIndex) (package : String) : Bool :=
  index.declared.contains package

/-- How many types a package has. -/
def typeCount (index : PackageIndex) (package : String) : Nat :=
  (index.positionsIn package).length

/-- The one segment by which `package` extends `parent`, if it does. -/
def childSegment? : List Char → List Char → Option (List Char)
  | [], '.' :: segment => if segment.isEmpty || segment.contains '.' then none else some segment
  | p :: ps, c :: cs => if p = c then childSegment? ps cs else none
  | _, _ => none

/-- The declared packages exactly one segment below `parent`, in the order of declaration. -/
def subPackages (index : PackageIndex) (parent : String) : List String :=
  index.packages.filter fun package => (childSegment? parent.toList package.toList).isSome

/-! ### Views -/

theorem packageExists_build {packages : List String} {types : List Descriptor}
    {package : String} :
    (build packages types).packageExists package = true ↔ package ∈ packages := by
  simp [packageExists, build, Std.TreeSet.contains_ofList]

end PackageIndex
end TypeCatalog
