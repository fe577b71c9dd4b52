import TypeCatalog.Proofs.Yaml.Content
import TypeCatalog.Settings.Layers

/-! # Layers in normal form

Whatever a settings file and the variables say, each of the two layers is a dictionary in normal
form (`exists_normalFields_fileLayer`, `exists_normalFields_layer`). -/

namespace TypeCatalog.Settings

open Settings.Tree

namespace Environment

variable {τ : Type} (o : τ)

/-! ### Values of variables -/

/-- What is read with some fuel is in normal form: a value, the elements of a list, and the fields
in braces. -/
structure NormalParts (fuel : Nat) : Prop where
  value : ∀ {cs t after}, value? o fuel cs = some (t, after) → t.Normal
  items : ∀ {cs ts after}, items? o fuel cs = some (ts, after) → ∀ t ∈ ts, t.Normal
  entries : ∀ {cs es after}, entries? o fuel cs = some (es, after) → ∀ e ∈ es, e.2.Normal

variable {o} {fuel : Nat}

theorem NormalParts.value_succ (h : NormalParts o fuel) {cs after : List Char} {t : Tree τ}
    (ht : value? o (fuel + 1) cs = some (t, after)) : t.Normal := by
  unfold value? at ht
  obtain ⟨⟨t', after'⟩, hread, he⟩ := Option.map_eq_some_iff.mp ht
  cases he
  split at hread
  · cases hread
    exact .scalar o _
  · obtain ⟨⟨fields, rest⟩, hf, he⟩ := Option.map_eq_some_iff.mp hread
    cases he
    exact normal_dict_iff.mpr (normalFields_ofList (h.entries hf))
  · obtain ⟨⟨ts, rest⟩, hi, he⟩ := Option.map_eq_some_iff.mp hread
    cases he
    exact .list o (h.items hi)
  · obtain ⟨⟨text, rest⟩, -, he⟩ := Option.map_eq_some_iff.mp hread
    cases he
    exact .scalar o _
  · split at hread <;> cases hread
    exact .scalar o _
  · cases hread
    exact .scalar o _

theorem NormalParts.items_succ (h : NormalParts o fuel) {cs after : List Char} {ts : List (Tree τ)}
    (hts : items? o (fuel + 1) cs = some (ts, after)) : ∀ t ∈ ts, t.Normal := by
  unfold items? at hts
  split at hts
  · cases hts
  · cases hts
    exact nofun
  · rename_i hfuel _
    cases hfuel
    split at hts
    · rename_i hv
      obtain ⟨⟨ts', rest⟩, hi, he⟩ := Option.map_eq_some_iff.mp hts
      cases he
      exact List.forall_mem_cons.mpr ⟨h.value hv, h.items hi⟩
    · rename_i hv
      cases hts
      exact List.forall_mem_singleton.mpr (h.value hv)
    · cases hts

theorem NormalParts.entries_succ (h : NormalParts o fuel) {cs after : List Char}
    {es : List (String × Tree τ)} (hes : entries? o (fuel + 1) cs = some (es, after)) :
    ∀ e ∈ es, e.2.Normal := by
  unfold entries? at hes
  split at hes
  · cases hes
  · cases hes
    exact nofun
  · rename_i hfuel _
    cases hfuel
    split at hes
    · cases hes
    split at hes
    · split at hes
      · rename_i hv
        obtain ⟨⟨es', rest⟩, he, heq⟩ := Option.map_eq_some_iff.mp hes
        cases heq
        exact List.forall_mem_cons.mpr ⟨h.value hv, h.entries he⟩
      · rename_i hv
        cases hes
        exact List.forall_mem_singleton.mpr (h.value hv)
      · cases hes
    · cases hes

theorem normalParts (fuel : Nat) : NormalParts o fuel := by
  induction fuel with
  | zero => exact ⟨nofun, nofun, nofun⟩
  | succ fuel ih => exact ⟨ih.value_succ, ih.items_succ, ih.entries_succ⟩

/-- The value of a variable is in normal form. -/
theorem normal_valueOf (o : τ) (text : String) : (valueOf o text).Normal := by
  rw [valueOf]
  split
  · rename_i h
    exact (normalParts _).value h
  · exact .scalar o _

/-! ### The layer of the variables -/

theorem keysOf_ne_nil (text : List Char) : keysOf text ≠ [] := by
  unfold keysOf
  split
  · exact nofun
  · exact nofun
  · split
    · exact nofun
    · split <;> exact nofun

/-- The path of a variable has a first key. -/
theorem exists_cons_of_path? {name : String} {path : List String} (h : path? name = some path) :
    ∃ key keys, path = key :: keys := by
  unfold path? at h
  split at h
  · cases h
  · rename_i rest _
    dsimp only at h
    split at h
    · cases h
    · cases h
      obtain ⟨key, keys, e⟩ := List.exists_cons_of_ne_nil (keysOf_ne_nil (Text.trim rest))
      exact ⟨_, _, congrArg (List.map String.ofList) e⟩

theorem normal_override {o : τ} {t : Tree τ} (h : t.Normal) (entry : String × String) :
    (override o t entry).Normal := by
  rw [override]
  split
  · exact h.merge ((normal_valueOf o _).nest o _)
  · exact h

theorem exists_dict_override (o : τ) (fields : Fields (Tree τ)) (entry : String × String) :
    ∃ fields', override o (.dict o fields) entry = .dict o fields' := by
  rw [override]
  split
  · rename_i path hpath
    obtain ⟨key, keys, rfl⟩ := exists_cons_of_path? hpath
    exact ⟨_, merge_dict ..⟩
  · exact ⟨fields, rfl⟩

/-- The layer of the variables is a dictionary in normal form. -/
theorem exists_normalFields_layer (o : τ) (environment : List (String × String)) :
    ∃ fields, layer o environment = .dict o fields ∧ NormalFields fields := by
  refine List.foldlRecOn environment (override o)
    (motive := fun t => ∃ fields, t = .dict o fields ∧ NormalFields fields)
    ⟨[], rfl, normalFields_nil⟩ fun t ht entry _ => ?_
  obtain ⟨fields, rfl, hf⟩ := ht
  obtain ⟨fields', he⟩ := exists_dict_override o fields entry
  have normal : (override o (.dict o fields) entry).Normal :=
    normal_override (normal_dict_iff.mpr hf) entry
  rw [he] at normal ⊢
  exact ⟨fields', rfl, normal_dict_iff.mp normal⟩

end Environment

/-! ### The layer of the settings file -/

/-- The layer of a settings file is a dictionary in normal form. -/
theorem exists_normalFields_fileLayer {path : String} {content : ByteArray} {t : Tree Origin}
    (h : fileLayer path content = .ok t) :
    ∃ fields, t = .dict (.file path) fields ∧ NormalFields fields := by
  unfold fileLayer at h
  split at h
  · cases h
  · split at h
    · cases h
    · rename_i fields hf
      cases h
      exact ⟨fields, rfl, Yaml.normalFields_of_fields _ _ hf⟩

end TypeCatalog.Settings
