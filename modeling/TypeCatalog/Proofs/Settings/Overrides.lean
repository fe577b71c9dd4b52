import Mathlib.Logic.Function.Basic
import TypeCatalog.Proofs.Outcome
import TypeCatalog.Proofs.Settings.Merge
import TypeCatalog.Settings.Decode

/-! # Layers that override settings

`Says t o` says that a layer sets the settings in `o` and nothing else.  Merging two layers sets
what the later one sets, and else what the earlier one sets (`Says.merge`); decoding a layer gives
what it sets, and else the defaults (`Says.decode`).  A list is a value like any other: it is not
joined with the list that it overrides (`merge_eq_of_decode`). -/

namespace TypeCatalog

namespace Settings

open Settings.Tree

/-! ### Single settings -/

/-- The settings of a load, one by one. -/
inductive Setting where
  | documentAliases
  | rejectUnknownFields
  | provenanceMarkers
  deriving DecidableEq

namespace Setting

/-- The key of a setting. -/
def key : Setting → String
  | documentAliases => "documents_field_aliases"
  | rejectUnknownFields => "reject_unknown_fields"
  | provenanceMarkers => "immutable_provenance_markers"

/-- What a setting is set to. -/
def Value : Setting → Type
  | documentAliases | provenanceMarkers => List String
  | rejectUnknownFields => Bool

variable {τ : Type}

/-- The value for a setting that a tree holds. -/
def decode : (x : Setting) → Tree τ → Except (Fault τ) x.Value
  | documentAliases | provenanceMarkers => decodeTexts
  | rejectUnknownFields => decodeFlag

/-- Changes one setting. -/
def put : (x : Setting) → x.Value → Settings → Settings
  | documentAliases, v, s => { s with documentAliases := v }
  | rejectUnknownFields, v, s => { s with rejectUnknownFields := v }
  | provenanceMarkers, v, s => { s with provenanceMarkers := v }

end Setting

/-- The value of a setting. -/
def value (s : Settings) : (x : Setting) → x.Value
  | .documentAliases => s.documentAliases
  | .rejectUnknownFields => s.rejectUnknownFields
  | .provenanceMarkers => s.provenanceMarkers

variable {τ : Type} {s : Settings} {x y : Setting}

theorem Setting.key_injective (h : x.key = y.key) : x = y := by
  cases x <;> cases y <;> simp_all [key]

theorem mem_loadRecord_fields_iff {key : String} :
    key ∈ (loadRecord τ).fields ↔ ∃ x : Setting, x.key = key := by
  simp only [loadRecord, List.mem_cons, List.not_mem_nil, or_false]
  constructor
  · rintro (rfl | rfl | rfl)
    · exact ⟨.documentAliases, rfl⟩
    · exact ⟨.rejectUnknownFields, rfl⟩
    · exact ⟨.provenanceMarkers, rfl⟩
  · rintro ⟨x, rfl⟩
    cases x <;> decide

@[simp] theorem value_put_self (v : x.Value) : (x.put v s).value x = v := by
  cases x <;> rfl

theorem value_put_of_ne (h : y ≠ x) (v : x.Value) : (x.put v s).value y = s.value y := by
  cases x <;> cases y <;> trivial

theorem loadRecord_set (s : Settings) (x : Setting) (t : Tree τ) :
    (loadRecord τ).set s x.key t = (x.decode t).map fun v => x.put v s := by
  cases x <;> rfl

/-- What a setting is set to takes the place of what it was set to before. -/
theorem merge_eq_of_decode {t : Tree τ} {v : x.Value} (h : x.decode t = .ok v) (lower : Tree τ) :
    lower.merge t = t := by
  cases t with
  | scalar | list => cases lower <;> rfl
  | dict => cases x <;> cases h

/-! ### What layers set -/

/-- New values for some settings. -/
abbrev Overrides := (x : Setting) → Option x.Value

/-- The later values where there are any, else the earlier ones. -/
def Overrides.over (upper lower : Overrides) : Overrides := fun x => (upper x).or (lower x)

/-- A new value for one setting. -/
def Overrides.one (x : Setting) (v : x.Value) : Overrides :=
  Function.update (fun _ => none) x (some v)

theorem Overrides.over_none (o : Overrides) : o.over (fun _ => none) = o :=
  funext fun _ => Option.or_none

theorem Overrides.over_assoc (o₁ o₂ o₃ : Overrides) :
    (o₁.over o₂).over o₃ = o₁.over (o₂.over o₃) :=
  funext fun _ => Option.or_assoc

/-- The fields set the settings that have new values, and nothing else. -/
structure Sets (fields : Fields (Tree τ)) (o : Overrides) : Prop where
  known : ∀ key ∈ fields.keys, ∃ x : Setting, x.key = key
  values : ∀ x : Setting, (fields.get? x.key).map x.decode = (o x).map .ok

/-- The layer sets the settings that have new values, and nothing else. -/
inductive Says : Tree τ → Overrides → Prop
  | nothing (origin : τ) : Says (.dict origin []) fun _ => none
  | settings (origin origin' : τ) {fields : Fields (Tree τ)} {o : Overrides} (h : Sets fields o) :
      Says (.dict origin [("registry", .dict origin' fields)]) o

theorem sets_one {t : Tree τ} {v : x.Value} (h : x.decode t = .ok v) :
    Sets [(x.key, t)] (.one x v) := by
  refine ⟨fun key hk => ⟨x, (List.mem_singleton.mp hk).symm⟩, fun y => ?_⟩
  by_cases hy : y = x
  · subst hy
    rw [Overrides.one, Function.update_self, Fields.get?_cons_self, Option.map_some, h]
    rfl
  · have other : x.key ≠ y.key := fun he => hy (Setting.key_injective he).symm
    rw [Overrides.one, Function.update_of_ne hy, Fields.get?_cons_of_ne other]
    rfl

theorem Sets.cases {fields : Fields (Tree τ)} {o : Overrides} (h : Sets fields o) (x : Setting) :
    (fields.get? x.key = none ∧ o x = none) ∨
      ∃ t v, fields.get? x.key = some t ∧ x.decode t = .ok v ∧ o x = some v := by
  have values := h.values x
  cases ht : fields.get? x.key with
  | none =>
      rw [ht] at values
      exact .inl ⟨rfl, Option.map_eq_none_iff.mp values.symm⟩
  | some t =>
      rw [ht] at values
      obtain ⟨v, hv, he⟩ := Option.map_eq_some_iff.mp values.symm
      exact .inr ⟨t, v, rfl, he.symm, hv⟩

/-! ### Merging -/

theorem Sets.merge {fields entries : Fields (Tree τ)} {lower upper : Overrides}
    (hl : Sets fields lower) (hu : Sets entries upper) (hn : entries.Normal) :
    Sets (mergeFields fields entries) (upper.over lower) := by
  refine ⟨fun key hk => ?_, fun x => ?_⟩
  · exact (mem_keys_mergeFields_iff.mp hk).elim (hl.known key) (hu.known key)
  · rw [get?_mergeFields hn, Overrides.over]
    rcases hu.cases x with ⟨ht, ho⟩ | ⟨t, v, ht, hv, ho⟩
    · rw [ht, ho]
      exact hl.values x
    · have kept : (fields.get? x.key).elim t (Tree.merge · t) = t := by
        cases fields.get? x.key with
        | none => rfl
        | some before => exact merge_eq_of_decode hv before
      simp only [ht, ho, kept, Option.map_some, hv, Option.some_or]

/-- **A merged layer sets each setting as the later layer does, and else as the earlier one.** -/
theorem Says.merge {lower upper : Tree τ} {o o' : Overrides} (hl : Says lower o)
    (hu : Says upper o') (hn : upper.Normal) : Says (lower.merge upper) (o'.over o) := by
  cases hl with
  | nothing origin =>
      rw [Overrides.over_none]
      cases hu with
      | nothing => exact .nothing _
      | settings origin₁ origin₂ h => exact .settings origin₁ origin₂ h
  | settings origin₁ origin₂ hf =>
      cases hu with
      | nothing => exact .settings _ origin₂ hf
      | settings origin₃ origin₄ he =>
          have inner := (normal_dict_iff.mp hn).parts _ (List.mem_singleton_self _)
          exact .settings origin₃ origin₄ (hf.merge he (normal_dict_iff.mp inner).ascending)

/-! ### Decoding -/

theorem setFields_cons {α : Type} (r : Record τ α) (a : α) (key : String) (t : Tree τ)
    (rest : Fields (Tree τ)) :
    r.setFields a ((key, t) :: rest) = within key (if r.fields.contains key then r.set a key t
      else .error ⟨[], t.origin, .unknownField key r.fields⟩) >>= fun a => r.setFields a rest :=
  rfl

theorem Sets.tail {x : Setting} {t : Tree τ} {rest : Fields (Tree τ)} {o : Overrides}
    (h : Sets ((x.key, t) :: rest) o) (hx : x.key ∉ Fields.keys rest) :
    Sets rest (Function.update o x none) := by
  refine ⟨fun key hk => h.known key (List.mem_cons_of_mem _ hk), fun y => ?_⟩
  by_cases hy : y = x
  · subst hy
    rw [Function.update_self, Fields.get?_eq_none_iff.mpr hx]
    rfl
  · have other : x.key ≠ y.key := fun he => hy (Setting.key_injective he).symm
    have values := h.values y
    rw [Fields.get?_cons_of_ne other] at values
    rw [Function.update_of_ne hy, values]

theorem Sets.setFields {fields : Fields (Tree τ)} {o : Overrides} (h : Sets fields o)
    (hn : fields.Normal) (s : Settings) : ∃ s', (loadRecord τ).setFields s fields = .ok s' ∧
      ∀ x, s'.value x = (o x).getD (s.value x) := by
  induction fields generalizing o s with
  | nil =>
      refine ⟨s, rfl, fun x => ?_⟩
      have values : none = (o x).map Except.ok := h.values x
      rw [Option.map_eq_none_iff.mp values.symm, Option.getD_none]
  | cons field rest ih =>
      obtain ⟨key, t⟩ := field
      obtain ⟨later, hr⟩ := List.pairwise_cons.mp hn
      obtain ⟨x, rfl⟩ := h.known key (List.mem_cons_self ..)
      have once : x.key ∉ Fields.keys rest := fun hm => String.lt_irrefl _ (later _ hm)
      rcases h.cases x with ⟨ht, -⟩ | ⟨t', v, ht, hv, ho⟩
      · rw [Fields.get?_cons_self] at ht
        cases ht
      · rw [Fields.get?_cons_self] at ht
        cases ht
        obtain ⟨s', hs, values⟩ := ih (h.tail once) hr (x.put v s)
        refine ⟨s', ?_, fun y => ?_⟩
        · have contains : (loadRecord τ).fields.contains x.key = true :=
            List.contains_iff_mem.mpr (mem_loadRecord_fields_iff.mpr ⟨x, rfl⟩)
          rw [setFields_cons, if_pos contains, loadRecord_set, hv]
          exact hs
        · rw [values]
          by_cases hy : y = x
          · subst hy
            rw [Function.update_self, value_put_self, ho]
            rfl
          · rw [Function.update_of_ne hy, value_put_of_ne hy]

/-- **A layer gives what it sets, and else the defaults.** -/
theorem Says.decode {t : Tree τ} {o : Overrides} (h : Says t o) (hn : t.Normal) :
    ∃ s, (rootRecord τ).decode false {} t = .ok s ∧
      ∀ x, s.value x = (o x).getD (({} : Settings).value x) := by
  cases h with
  | nothing => exact ⟨{}, rfl, fun _ => rfl⟩
  | settings _ _ hf =>
      have inner := (normal_dict_iff.mp hn).parts _ (List.mem_singleton_self _)
      obtain ⟨s, hs, values⟩ := hf.setFields (normal_dict_iff.mp inner).ascending {}
      refine ⟨s, ?_, values⟩
      show within "registry" ((loadRecord τ).setFields {} _) >>= _ = _
      rw [hs]
      rfl

end Settings
end TypeCatalog
