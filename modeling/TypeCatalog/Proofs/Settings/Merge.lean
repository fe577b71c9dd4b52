import TypeCatalog.Proofs.Fields
import TypeCatalog.Settings.Tree

/-! # Merged trees of settings

A merged dictionary has the keys of both dictionaries (`mem_keys_mergeFields_iff`).  Under each of
them the later tree is merged into the earlier one, if both have the key
(`get?_mergeFields`).  Trees in normal form, where no dictionary has a key twice, stay so when they
are merged (`Normal.merge`). -/

namespace TypeCatalog.Settings.Tree

variable {τ : Type}

/-! ### Trees in normal form -/

/-- Every dictionary in the tree has its fields in normal form. -/
inductive Normal : Tree τ → Prop
  | scalar (o : τ) (s : Scalar) : Normal (.scalar o s)
  | list (o : τ) {items : List (Tree τ)} (parts : ∀ t ∈ items, Normal t) : Normal (.list o items)
  | dict (o : τ) {fields : Fields (Tree τ)} (ascending : fields.Normal)
      (parts : ∀ field ∈ fields, Normal field.2) : Normal (.dict o fields)

/-- The fields of a dictionary in normal form. -/
structure NormalFields (fields : Fields (Tree τ)) : Prop where
  ascending : fields.Normal
  parts : ∀ field ∈ fields, field.2.Normal

theorem normal_dict_iff {o : τ} {fields : Fields (Tree τ)} :
    (dict o fields).Normal ↔ NormalFields fields := by
  constructor
  · rintro (_ | _ | ⟨_, ascending, parts⟩)
    exact ⟨ascending, parts⟩
  · exact fun h => .dict o h.ascending h.parts

theorem normalFields_nil : NormalFields ([] : Fields (Tree τ)) := ⟨.nil, nofun⟩

theorem NormalFields.insert {fields : Fields (Tree τ)} (h : NormalFields fields) {t : Tree τ}
    (ht : t.Normal) (key : String) : NormalFields (fields.insert key t) := by
  refine ⟨h.ascending.insert, fun field hf => ?_⟩
  rcases Fields.mem_insert hf with rfl | hf
  · exact ht
  · exact h.parts field hf

theorem NormalFields.get? {fields : Fields (Tree τ)} (h : NormalFields fields) {key : String}
    {t : Tree τ} (ht : fields.get? key = some t) : t.Normal :=
  h.parts _ (Fields.mem_of_get? ht)

theorem normalFields_ofList {entries : List (String × Tree τ)}
    (h : ∀ entry ∈ entries, entry.2.Normal) : NormalFields (Fields.ofList entries) := by
  refine ⟨Fields.normal_ofList entries, ?_⟩
  refine List.foldlRecOn entries _
    (motive := fun fields : Fields (Tree τ) => ∀ field ∈ fields, field.2.Normal) nofun ?_
  intro fields hf entry he field hm
  rcases Fields.mem_insert hm with rfl | hm
  · exact h entry he
  · exact hf field hm

theorem Normal.nest {t : Tree τ} (h : t.Normal) (o : τ) (keys : List String) :
    (t.nest o keys).Normal := by
  induction keys with
  | nil => exact h
  | cons key keys ih =>
      exact .dict o (List.pairwise_singleton ..) (List.forall_mem_singleton.mpr ih)

theorem itemsWithOrigin_eq_map (o : τ) (items : List (Tree τ)) :
    itemsWithOrigin o items = items.map (withOrigin o) := by
  induction items with
  | nil => rfl
  | cons t ts ih => rw [itemsWithOrigin, ih, List.map_cons]

theorem fieldsWithOrigin_eq_map (o : τ) (fields : Fields (Tree τ)) :
    fieldsWithOrigin o fields = fields.map fun field => (field.1, field.2.withOrigin o) := by
  induction fields with
  | nil => rfl
  | cons field rest ih => rw [fieldsWithOrigin, ih, List.map_cons]

theorem Normal.withOrigin {t : Tree τ} (h : t.Normal) (o : τ) : (t.withOrigin o).Normal := by
  induction h with
  | scalar _ s => exact .scalar o s
  | list _ _ ih =>
      rw [Tree.withOrigin, itemsWithOrigin_eq_map]
      exact .list o (List.forall_mem_map.mpr ih)
  | @dict _ fields ascending _ ih =>
      rw [Tree.withOrigin, fieldsWithOrigin_eq_map]
      have keys : Fields.keys (fields.map fun field => (field.1, field.2.withOrigin o)) =
          fields.keys := by
        simp [Fields.keys]
      refine .dict o ?_ (List.forall_mem_map.mpr ih)
      rwa [Fields.Normal, keys]

/-! ### Merging -/

theorem mergeEntry_eq (fields : Fields (Tree τ)) (key : String) (upper : Tree τ) :
    mergeEntry fields (key, upper) =
      fields.insert key ((fields.get? key).elim upper (merge · upper)) := by
  rw [mergeEntry]
  cases fields.get? key <;> rfl

theorem mergeFields_cons (fields : Fields (Tree τ)) (entry : String × Tree τ)
    (rest : Fields (Tree τ)) :
    mergeFields fields (entry :: rest) = mergeFields (mergeEntry fields entry) rest := by
  rw [mergeFields]

theorem merge_dict (o o' : τ) (fields entries : Fields (Tree τ)) :
    merge (dict o fields) (dict o' entries) = dict o' (mergeFields fields entries) := by
  rw [merge]

/-- A merged dictionary has the keys of both. -/
theorem mem_keys_mergeFields_iff {key : String} {fields entries : Fields (Tree τ)} :
    key ∈ Fields.keys (mergeFields fields entries) ↔ key ∈ fields.keys ∨ key ∈ entries.keys := by
  induction entries generalizing fields with
  | nil => simp [mergeFields, Fields.keys]
  | cons entry rest ih =>
      obtain ⟨k, upper⟩ := entry
      rw [mergeFields_cons, ih, mergeEntry_eq, Fields.mem_keys_insert]
      simp only [Fields.keys, List.map_cons, List.mem_cons]
      tauto

/-- Under a key of both dictionaries the later tree is merged into the earlier one. -/
theorem get?_mergeFields {entries : Fields (Tree τ)} (h : entries.Normal)
    (fields : Fields (Tree τ)) (key : String) :
    Fields.get? key (mergeFields fields entries) = match entries.get? key with
      | some upper => some ((fields.get? key).elim upper (merge · upper))
      | none => fields.get? key := by
  induction entries generalizing fields with
  | nil => simp [mergeFields, Fields.get?]
  | cons entry rest ih =>
      obtain ⟨k, upper⟩ := entry
      rw [mergeFields_cons, ih (List.pairwise_cons.mp h).2, mergeEntry_eq, Fields.get?_insert,
        Fields.get?]
      by_cases hk : k = key
      · subst hk
        simp only [h.get?_tail, if_true]
      · simp only [if_neg hk]

theorem NormalFields.mergeEntry {fields : Fields (Tree τ)} (h : NormalFields fields)
    {entry : String × Tree τ} (hu : entry.2.Normal)
    (merged : ∀ lower, lower.Normal → (merge lower entry.2).Normal) :
    NormalFields (mergeEntry fields entry) := by
  obtain ⟨key, upper⟩ := entry
  rw [mergeEntry_eq]
  refine h.insert ?_ key
  cases hl : fields.get? key with
  | none => exact hu
  | some lower => exact merged lower (h.get? hl)

theorem NormalFields.mergeFields {fields entries : Fields (Tree τ)} (h : NormalFields fields)
    (parts : ∀ entry ∈ entries, entry.2.Normal)
    (merged : ∀ entry ∈ entries, ∀ lower, lower.Normal → (merge lower entry.2).Normal) :
    NormalFields (mergeFields fields entries) := by
  induction entries generalizing fields with
  | nil => exact h
  | cons entry rest ih =>
      rw [List.forall_mem_cons] at parts merged
      rw [mergeFields_cons]
      exact ih (h.mergeEntry parts.1 merged.1) parts.2 merged.2

/-- Trees in normal form are merged to one in normal form. -/
theorem Normal.merge {lower upper : Tree τ} (hl : lower.Normal) (hu : upper.Normal) :
    (lower.merge upper).Normal := by
  induction hu generalizing lower with
  | scalar o s => cases lower <;> exact .scalar o s
  | list o parts => cases lower <;> exact .list o parts
  | dict o ascending parts ih =>
      cases lower with
      | scalar | list => exact .dict o ascending parts
      | dict =>
          rw [merge_dict, normal_dict_iff]
          exact (normal_dict_iff.mp hl).mergeFields parts fun entry he lower hl => ih entry he hl

end TypeCatalog.Settings.Tree
