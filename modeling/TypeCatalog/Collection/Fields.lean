/-!
# Keyed fields

Fields are a list of keys with values. Those made by `Fields.ofList` are in *normal form*: their
keys ascend strictly in the order of code points, and of two values given for one key the later
one stands.
-/

namespace TypeCatalog

/-- Values under text keys. -/
abbrev Fields (α : Type) := List (String × α)

namespace Fields

variable {α : Type}

/-- The keys in order. -/
def keys (fields : Fields α) : List String := fields.map Prod.fst

/-- The value under a key. -/
def get? (key : String) : Fields α → Option α
  | [] => none
  | (k, v) :: rest => if k = key then some v else get? key rest

/-- Whether there is a value under a key. -/
def hasKey (key : String) (fields : Fields α) : Bool := (get? key fields).isSome

/-- Puts a value under a key, in its place; an earlier value under that key is replaced. -/
def insert (key : String) (value : α) : Fields α → Fields α
  | [] => [(key, value)]
  | (k, v) :: rest =>
    if key < k then (key, value) :: (k, v) :: rest
    else if key = k then (key, value) :: rest
    else (k, v) :: insert key value rest

/-- The normal form of a list of keys with values. -/
def ofList (entries : List (String × α)) : Fields α :=
  entries.foldl (fun fields entry => fields.insert entry.1 entry.2) []

/-- Keys ascend strictly. -/
def Normal (fields : Fields α) : Prop := fields.keys.Pairwise (· < ·)

/-! ### Insertion and look-up -/

theorem mem_keys_insert {x key : String} {value : α} {fields : Fields α} :
    x ∈ (fields.insert key value).keys ↔ x = key ∨ x ∈ fields.keys := by
  induction fields with
  | nil => simp [insert, keys]
  | cons entry rest ih =>
    unfold insert
    split
    · simp [keys]
    · split
      · simp_all [keys]
      · simp only [keys, List.map_cons, List.mem_cons] at ih ⊢
        rw [ih]
        grind

theorem Normal.insert {key : String} {value : α} {fields : Fields α} (h : fields.Normal) :
    (fields.insert key value).Normal := by
  induction fields with
  | nil => simp [Fields.insert, Normal, keys]
  | cons entry rest ih =>
    obtain ⟨k, v⟩ := entry
    have h' : (∀ x ∈ keys rest, k < x) ∧ Normal rest := List.pairwise_cons.1 h
    unfold Fields.insert
    split
    · rename_i hlt
      refine List.pairwise_cons.2 ⟨fun x hx => ?_, h⟩
      rcases List.mem_cons.1 hx with rfl | hx
      · exact hlt
      · exact String.lt_trans hlt (h'.1 x hx)
    · split
      · rename_i heq
        subst heq
        exact List.pairwise_cons.2 h'
      · rename_i hlt hne
        refine List.pairwise_cons.2 ⟨fun x hx => ?_, ih h'.2⟩
        rcases mem_keys_insert.1 hx with rfl | hx
        · exact Std.lt_of_le_of_ne (String.not_lt.1 hlt) (Ne.symm hne)
        · exact h'.1 x hx

theorem get?_insert {x key : String} {value : α} {fields : Fields α} :
    (fields.insert key value).get? x = if key = x then some value else fields.get? x := by
  induction fields with
  | nil => simp [insert, get?]
  | cons entry rest ih =>
    obtain ⟨k, v⟩ := entry
    unfold insert
    split
    · simp [get?]
    · split
      · rename_i heq
        subst heq
        by_cases hx : key = x <;> simp [get?, hx]
      · simp only [get?, ih]
        split <;> split <;> simp_all

theorem normal_ofList (entries : List (String × α)) : (ofList entries).Normal := by
  unfold ofList
  suffices ∀ fields : Fields α, fields.Normal →
      (entries.foldl (fun fields entry => fields.insert entry.1 entry.2) fields).Normal from
    this [] List.Pairwise.nil
  induction entries with
  | nil => exact fun _ h => h
  | cons entry rest ih => exact fun fields h => ih _ h.insert

end Fields
end TypeCatalog
