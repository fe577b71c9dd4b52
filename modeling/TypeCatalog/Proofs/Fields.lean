import TypeCatalog.Collection.Fields
import Mathlib.Data.List.Basic

/-! # Look-up in keyed fields

What `get?`, `hasKey` and `keys` say about one another, for any list of keyed values and not only
for those in normal form. -/

namespace TypeCatalog.Fields

variable {α : Type}

/-! ### Keys and look-up -/

theorem get?_cons_self (key : String) (v : α) (rest : Fields α) :
    Fields.get? key ((key, v) :: rest) = some v := if_pos rfl

theorem get?_cons_of_ne {key k : String} (h : k ≠ key) (v : α) (rest : Fields α) :
    Fields.get? key ((k, v) :: rest) = rest.get? key := if_neg h

theorem get?_eq_none_iff {key : String} {fields : Fields α} :
    fields.get? key = none ↔ key ∉ fields.keys := by
  induction fields with
  | nil => simp [get?, keys]
  | cons entry rest ih =>
      obtain ⟨k, v⟩ := entry
      by_cases hk : k = key
      · simp [get?, keys, hk]
      · have hk' : ¬ key = k := fun h => hk h.symm
        simp only [get?, if_neg hk, ih, keys, List.map_cons, List.mem_cons, hk', false_or]

theorem mem_keys_of_get? {key : String} {v : α} {fields : Fields α}
    (h : fields.get? key = some v) : key ∈ fields.keys := by
  by_contra hn
  rw [get?_eq_none_iff.mpr hn] at h
  cases h

theorem mem_keys_iff {key : String} {fields : Fields α} :
    key ∈ fields.keys ↔ ∃ v, fields.get? key = some v := by
  constructor
  · intro h
    cases hv : fields.get? key with
    | none => exact absurd h (get?_eq_none_iff.mp hv)
    | some v => exact ⟨v, rfl⟩
  · rintro ⟨v, hv⟩
    exact mem_keys_of_get? hv

theorem hasKey_iff {key : String} {fields : Fields α} :
    fields.hasKey key = true ↔ key ∈ fields.keys := by
  rw [hasKey, Option.isSome_iff_exists, mem_keys_iff]

theorem mem_of_get? {key : String} {v : α} {fields : Fields α} (h : fields.get? key = some v) :
    (key, v) ∈ fields := by
  induction fields with
  | nil => cases h
  | cons entry rest ih =>
      obtain ⟨k, x⟩ := entry
      rw [get?] at h
      split at h
      · rename_i hk
        cases h
        rw [hk]
        exact List.mem_cons_self ..
      · exact List.mem_cons_of_mem _ (ih h)

/-! ### Fields in normal form -/

theorem Normal.not_lt_of_mem {key k : String} {v : α} {rest : Fields α}
    (h : Normal ((k, v) :: rest)) (hk : key ∈ keys ((k, v) :: rest)) : ¬ key < k := by
  rcases List.mem_cons.mp hk with rfl | hk
  · exact String.lt_irrefl _
  · exact fun lt => String.lt_irrefl _ (String.lt_trans lt ((List.pairwise_cons.mp h).1 _ hk))

theorem Normal.get?_tail {k : String} {v : α} {rest : Fields α} (h : Normal ((k, v) :: rest)) :
    rest.get? k = none :=
  get?_eq_none_iff.mpr fun hk => String.lt_irrefl _ ((List.pairwise_cons.mp h).1 _ hk)

/-- Fields in normal form are known by what stands under their keys. -/
theorem Normal.ext {fields others : Fields α} (h : fields.Normal) (h' : others.Normal)
    (same : ∀ key, fields.get? key = others.get? key) : fields = others := by
  induction fields generalizing others with
  | nil =>
      cases others with
      | nil => rfl
      | cons other rest' => cases (same other.1).trans (get?_cons_self ..)
  | cons field rest ih =>
      obtain ⟨k, v⟩ := field
      cases others with
      | nil => cases (get?_cons_self ..).symm.trans (same k)
      | cons other rest' =>
          obtain ⟨k', v'⟩ := other
          have first : k = k' := String.le_antisymm
            (h.not_lt_of_mem (mem_keys_of_get? ((same k').trans (get?_cons_self ..))))
            (h'.not_lt_of_mem (mem_keys_of_get? ((same k).symm.trans (get?_cons_self ..))))
          subst first
          have value := same k
          rw [get?_cons_self, get?_cons_self, Option.some.injEq] at value
          subst value
          refine congrArg _ (ih (List.pairwise_cons.mp h).2 (List.pairwise_cons.mp h').2 ?_)
          intro key
          by_cases hk : k = key
          · subst hk
            rw [h.get?_tail, h'.get?_tail]
          · have rests := same key
            rwa [get?_cons_of_ne hk, get?_cons_of_ne hk] at rests

/-! ### Insertion -/

theorem mem_insert {key : String} {v : α} {field : String × α} {fields : Fields α}
    (h : field ∈ fields.insert key v) : field = (key, v) ∨ field ∈ fields := by
  induction fields with
  | nil => exact .inl (List.mem_singleton.mp h)
  | cons entry rest ih =>
      obtain ⟨k, x⟩ := entry
      rw [insert] at h
      split at h
      · exact List.mem_cons.mp h
      · split at h
        · exact (List.mem_cons.mp h).imp_right (List.mem_cons_of_mem _)
        · rcases List.mem_cons.mp h with rfl | h
          · exact .inr (List.mem_cons_self ..)
          · exact (ih h).imp_right (List.mem_cons_of_mem _)

/-! ### Insertion at the end -/

theorem insert_of_forall_lt {key : String} {v : α} {fields : Fields α}
    (h : ∀ k ∈ fields.keys, k < key) : fields.insert key v = fields ++ [(key, v)] := by
  induction fields with
  | nil => rfl
  | cons entry rest ih =>
      obtain ⟨k, x⟩ := entry
      have hk : k < key := h k (List.mem_cons_self ..)
      have hlt : ¬ key < k := fun h' => String.lt_irrefl _ (String.lt_trans hk h')
      have hne : key ≠ k := fun h' => String.lt_irrefl _ (h' ▸ hk)
      rw [insert, if_neg hlt, if_neg hne, ih fun x hx => h x (List.mem_cons_of_mem _ hx)]
      rfl

/-- The next field of fields in normal form is put behind those before it. -/
theorem insert_of_normal {done rest : Fields α} {key : String} {v : α}
    (h : Normal (done ++ (key, v) :: rest)) : done.insert key v = done ++ [(key, v)] := by
  refine insert_of_forall_lt fun k hk => ?_
  rw [Normal, keys, List.map_append] at h
  exact (List.pairwise_append.mp h).2.2 k hk key (List.mem_cons_self ..)

/-! ### Fields made from a list of keys -/

theorem keys_map (f : String → α) (ks : List String) :
    keys (ks.map fun k => (k, f k)) = ks := by
  simp [keys, Function.comp_def]

theorem get?_map (f : String → α) (ks : List String) (key : String) :
    get? key (ks.map fun k => (k, f k)) = if key ∈ ks then some (f key) else none := by
  induction ks with
  | nil => simp [get?]
  | cons k ks ih =>
      by_cases hk : k = key
      · simp [get?, hk]
      · have hk' : ¬ key = k := fun h => hk h.symm
        simp only [List.map_cons, get?, if_neg hk, ih, List.mem_cons, hk', false_or]

end TypeCatalog.Fields
