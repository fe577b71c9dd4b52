import TypeCatalog.Proofs.Settings.Overrides

/-! # Unknown keys in layers

When layers are merged, an unknown key at the root stays (`hasUnknownTop_merge_iff`), and one among
the settings of a load stays unless the later layer puts something else than fields in the place of
these settings (`hasUnknownSetting_merge_iff`); then, if the earlier layer has nothing but these
settings, nothing is left of it (`merge_eq_of_replaces`).  A layer with an unknown key is refused
(`HasUnknown.exists_fault`). -/

namespace TypeCatalog.Settings

open Settings.Tree

variable {τ α : Type}

/-! ### Refused fields -/

/-- Whatever is set so far, the record does not take the tree under the key. -/
def Record.Refuses (r : Record τ α) (key : String) (t : Tree τ) : Prop :=
  key ∉ r.fields ∨ ∀ a, ∃ fault, r.set a key t = .error fault

theorem Record.Refuses.setFields {r : Record τ α} {key : String} {t : Tree τ}
    (h : r.Refuses key t) {fields : Fields (Tree τ)} (hm : (key, t) ∈ fields) (a : α) :
    ∃ fault, r.setFields a fields = .error fault := by
  induction fields generalizing a with
  | nil => cases hm
  | cons field rest ih =>
      obtain ⟨k, u⟩ := field
      rw [setFields_cons]
      generalize hx : within k _ = x
      cases x with
      | error fault => exact ⟨fault, rfl⟩
      | ok a' =>
          rcases List.mem_cons.mp hm with he | hm
          · cases he
            rcases h with unknown | refused
            · rw [if_neg fun hc => unknown (List.contains_iff_mem.mp hc)] at hx
              cases hx
            · obtain ⟨fault, hf⟩ := refused a
              split at hx
              · rw [hf] at hx
                cases hx
              · cases hx
          · exact ih hm a'

/-! ### Unknown keys -/

namespace Tree

/-- The fields of a dictionary; other trees have none. -/
def fields : Tree τ → Fields (Tree τ)
  | dict _ fields => fields
  | _ => []

/-- The tree is a dictionary. -/
def IsDict (t : Tree τ) : Prop := ∃ o fields, t = dict o fields

/-- At the root there is a key besides that of the settings of a load. -/
def HasUnknownTop (t : Tree τ) : Prop := ∃ key ∈ t.fields.keys, key ≠ "registry"

/-- There is a key of no setting. -/
def NamesNoSetting (t : Tree τ) : Prop := ∃ key ∈ t.fields.keys, ∀ x : Setting, x.key ≠ key

/-- Among the settings of a load there is a key of no setting. -/
def HasUnknownSetting (t : Tree τ) : Prop :=
  ∃ settings, t.fields.get? "registry" = some settings ∧ settings.NamesNoSetting

/-- There is an unknown key at the root or among the settings of a load. -/
def HasUnknown (t : Tree τ) : Prop := t.HasUnknownTop ∨ t.HasUnknownSetting

/-- Something else than fields stands in the place of the settings of a load. -/
def ReplacesSettings (t : Tree τ) : Prop :=
  ∃ settings, t.fields.get? "registry" = some settings ∧ ¬ settings.IsDict

theorem fields_dict (o : τ) (fields : Fields (Tree τ)) : (dict o fields).fields = fields := rfl

theorem isDict_dict (o : τ) (fields : Fields (Tree τ)) : (dict o fields).IsDict := ⟨o, fields, rfl⟩

theorem isDict_of_mem {t : Tree τ} {key : String} (h : key ∈ t.fields.keys) : t.IsDict := by
  cases t with
  | scalar | list => cases h
  | dict => exact isDict_dict ..

theorem merge_of_not_isDict {upper : Tree τ} (h : ¬ upper.IsDict) (lower : Tree τ) :
    lower.merge upper = upper := by
  cases upper with
  | scalar | list => cases lower <;> rfl
  | dict => exact absurd (isDict_dict ..) h

theorem mem_keys_merge_iff {lower upper : Tree τ} {key : String} :
    key ∈ (lower.merge upper).fields.keys ↔
      key ∈ upper.fields.keys ∨ key ∈ lower.fields.keys ∧ upper.IsDict := by
  by_cases h : upper.IsDict
  · obtain ⟨o, entries, rfl⟩ := h
    rw [and_iff_left (isDict_dict ..)]
    cases lower with
    | scalar | list => exact (or_iff_left List.not_mem_nil).symm
    | dict =>
        rw [merge_dict, or_comm]
        exact mem_keys_mergeFields_iff
  · rw [merge_of_not_isDict h, iff_false_intro h, and_false, or_false]

theorem namesNoSetting_merge_iff {lower upper : Tree τ} :
    (lower.merge upper).NamesNoSetting ↔
      upper.NamesNoSetting ∨ lower.NamesNoSetting ∧ upper.IsDict := by
  simp only [NamesNoSetting, mem_keys_merge_iff]
  constructor
  · rintro ⟨key, hk | ⟨hk, dict⟩, unknown⟩
    · exact .inl ⟨key, hk, unknown⟩
    · exact .inr ⟨⟨key, hk, unknown⟩, dict⟩
  · rintro (⟨key, hk, unknown⟩ | ⟨⟨key, hk, unknown⟩, dict⟩)
    · exact ⟨key, .inl hk, unknown⟩
    · exact ⟨key, .inr ⟨hk, dict⟩, unknown⟩

/-! ### Unknown keys in merged layers -/

section
variable {o o' : τ} {fields entries : Fields (Tree τ)}

theorem hasUnknownTop_merge_iff : ((dict o fields).merge (dict o' entries)).HasUnknownTop ↔
    (dict o fields).HasUnknownTop ∨ (dict o' entries).HasUnknownTop := by
  simp only [HasUnknownTop, mem_keys_merge_iff, and_iff_left (isDict_dict o' entries)]
  constructor
  · rintro ⟨key, hk | hk, unknown⟩
    · exact .inr ⟨key, hk, unknown⟩
    · exact .inl ⟨key, hk, unknown⟩
  · rintro (⟨key, hk, unknown⟩ | ⟨key, hk, unknown⟩)
    · exact ⟨key, .inr hk, unknown⟩
    · exact ⟨key, .inl hk, unknown⟩

theorem get?_fields_merge (hn : entries.Normal) (key : String) :
    ((dict o fields).merge (dict o' entries)).fields.get? key = match entries.get? key with
      | some upper => some ((fields.get? key).elim upper (Tree.merge · upper))
      | none => fields.get? key := by
  rw [merge_dict]
  exact get?_mergeFields hn fields key

/-- An unknown key among the settings of a load stays, unless these are replaced. -/
theorem hasUnknownSetting_merge_iff (hn : entries.Normal) :
    ((dict o fields).merge (dict o' entries)).HasUnknownSetting ↔
      (dict o' entries).HasUnknownSetting ∨
        (dict o fields).HasUnknownSetting ∧ ¬ (dict o' entries).ReplacesSettings := by
  simp only [HasUnknownSetting, ReplacesSettings, get?_fields_merge hn, fields_dict]
  cases hu : entries.get? "registry" with
  | none => simp
  | some upper =>
      cases hl : fields.get? "registry" with
      | none => simp
      | some lower => simp [namesNoSetting_merge_iff]

/-- Nothing is left of a layer that has nothing but the settings of a load, if these are
replaced. -/
theorem merge_eq_of_replaces (known : ¬ (dict o fields).HasUnknownTop) (hf : NormalFields fields)
    (he : NormalFields entries) (h : (dict o' entries).ReplacesSettings) :
    (dict o fields).merge (dict o' entries) = dict o' entries := by
  have merged : NormalFields (mergeFields fields entries) :=
    normal_dict_iff.mp (merge_dict o o' fields entries ▸
      (normal_dict_iff.mpr hf).merge (normal_dict_iff.mpr he))
  rw [merge_dict]
  refine congrArg _ (merged.ascending.ext he.ascending fun key => ?_)
  rw [get?_mergeFields he.ascending]
  cases hl : fields.get? key with
  | none => cases entries.get? key <;> rfl
  | some lower =>
      -- the earlier layer has this key, so it is that of the settings
      obtain rfl : key = "registry" :=
        of_not_not fun other => known ⟨key, Fields.mem_keys_of_get? hl, other⟩
      obtain ⟨upper, hu, other⟩ := h
      rw [fields_dict] at hu
      rw [hu]
      exact congrArg some (merge_of_not_isDict other lower)

end
end Tree

/-! ### Refused layers -/

theorem Tree.NamesNoSetting.exists_fault {t : Tree τ} (h : t.NamesNoSetting) :
    ∃ fault, (loadRecord τ).decode false {} t = .error fault := by
  obtain ⟨key, hk, unknown⟩ := h
  obtain ⟨o, fields, rfl⟩ := isDict_of_mem hk
  obtain ⟨u, hu⟩ := Fields.mem_keys_iff.mp hk
  have refuses : (loadRecord τ).Refuses key u := .inl fun hm => by
    obtain ⟨x, hx⟩ := mem_loadRecord_fields_iff.mp hm
    exact unknown x hx
  exact refuses.setFields (Fields.mem_of_get? hu) {}

/-- **A layer with an unknown key is refused.** -/
theorem Tree.HasUnknown.exists_fault {t : Tree τ} (h : t.HasUnknown) :
    ∃ fault, (rootRecord τ).decode false {} t = .error fault := by
  have refused : ∃ key u, (key, u) ∈ t.fields ∧ (rootRecord τ).Refuses key u := by
    rcases h with ⟨key, hk, unknown⟩ | ⟨settings, hs, unknown⟩
    · obtain ⟨u, hu⟩ := Fields.mem_keys_iff.mp hk
      exact ⟨key, u, Fields.mem_of_get? hu, .inl fun hm => unknown (List.mem_singleton.mp hm)⟩
    · exact ⟨"registry", settings, Fields.mem_of_get? hs, .inr fun _ => unknown.exists_fault⟩
  obtain ⟨key, u, hm, refuses⟩ := refused
  cases t with
  | scalar | list => cases hm
  | dict => exact refuses.setFields hm {}

end TypeCatalog.Settings
