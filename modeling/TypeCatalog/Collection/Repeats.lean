import Std.Data.TreeMap

/-!
# Repeated elements

`firstRepeat?` finds the first element of a list that occurred before, together with the position
where it occurred first. There is none iff the list has no duplicates
(`firstRepeat?_eq_none_iff`).
-/

namespace TypeCatalog

/-- An element that occurs again. -/
structure Repeat (α : Type) where
  value : α
  /-- The position where it occurs first. -/
  first : Nat
  /-- The position where it occurs again. -/
  again : Nat

section
variable {α : Type} [Ord α] [Std.TransOrd α] [Std.LawfulEqOrd α]

/-- The first repeat in a list that starts at position `pos`, where `seen` holds the positions of
the elements before it. -/
def firstRepeatFrom? (seen : Std.TreeMap α Nat compare) (pos : Nat) :
    List α → Option (Repeat α)
  | [] => none
  | x :: xs =>
    match seen[x]? with
    | some first => some ⟨x, first, pos⟩
    | none => firstRepeatFrom? (seen.insert x pos) (pos + 1) xs

/-- The first element of a list that occurred before. -/
def firstRepeat? (xs : List α) : Option (Repeat α) := firstRepeatFrom? ∅ 0 xs

theorem firstRepeatFrom?_eq_none_iff {seen : Std.TreeMap α Nat compare} {pos : Nat}
    {xs : List α} :
    firstRepeatFrom? seen pos xs = none ↔ xs.Nodup ∧ ∀ x ∈ xs, seen[x]? = none := by
  induction xs generalizing seen pos with
  | nil => simp [firstRepeatFrom?]
  | cons x xs ih =>
    unfold firstRepeatFrom?
    cases hx : seen[x]? with
    | some first =>
      refine iff_of_false (by simp) fun h => ?_
      have := h.2 x List.mem_cons_self
      simp [hx] at this
    | none =>
      have insert_none (y : α) : (seen.insert x pos)[y]? = none ↔ x ≠ y ∧ seen[y]? = none := by
        simp only [Std.TreeMap.getElem?_insert, Std.LawfulEqCmp.compare_eq_iff_eq]
        split <;> simp_all
      simp only [ih, insert_none, List.nodup_cons, List.forall_mem_cons]
      constructor
      · exact fun h => ⟨⟨fun hmem => (h.2 x hmem).1 rfl, h.1⟩, hx, fun y hy => (h.2 y hy).2⟩
      · exact fun h => ⟨h.1.2, fun y hy => ⟨fun hxy => h.1.1 (hxy ▸ hy), h.2.2 y hy⟩⟩

theorem firstRepeat?_eq_none_iff {xs : List α} : firstRepeat? xs = none ↔ xs.Nodup := by
  simp [firstRepeat?, firstRepeatFrom?_eq_none_iff]

end
end TypeCatalog
