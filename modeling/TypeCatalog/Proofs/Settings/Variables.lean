import Mathlib
import TypeCatalog.Proofs.Settings.Layers
import TypeCatalog.Proofs.Settings.UnknownKeys
import TypeCatalog.Proofs.Text.Blank

/-! # Variables that set settings

A name that spells a setting in any case is the path of that setting (`path?_of_spells`), so that
its variable sets this setting and nothing else.  Several variables are one layer, in which a later
one overrides an earlier one (`VariablesSay.layer`).  A variable with any other path sets an unknown
key, which their layer has unless a later variable takes the place of all settings
(`hasUnknown_layer_iff`). -/

namespace TypeCatalog.Settings.Environment

open Settings.Tree

/-! ### Names in any case -/

/-- In lower case a character is itself, or it is a letter and was one. -/
theorem toLower_cases (c : Char) :
    c.toLower = c ∨ c.isAlpha = true ∧ c.toLower.isAlpha = true := by
  by_cases upper : c.isUpper = true
  · have letter : c.isAlpha = true := by
      rw [Char.isAlpha, upper, Bool.true_or]
    exact .inr ⟨letter, (Char.isAlpha_toLower_eq_isAlpha c).trans letter⟩
  · exact .inl (Char.toLower_eq_of_not_isUpper upper)

theorem eq_of_toLower_eq {c d : Char} (h : c.toLower = d) (hd : d.isAlpha = false) : c = d := by
  rcases toLower_cases c with same | ⟨-, letter⟩
  · exact same.symm.trans h
  · rw [h, hd] at letter
    cases letter

theorem isBlank_of_toLower {c : Char} (h : Text.isBlank c.toLower = false) :
    Text.isBlank c = false := by
  rcases toLower_cases c with same | ⟨letter, -⟩
  · rwa [same] at h
  · exact Text.isBlank_of_isAlpha letter

theorem isBlank_of_map_toLower {text lower : List Char} (h : text.map Char.toLower = lower)
    (none : lower.any Text.isBlank = false) : ∀ c ∈ text, Text.isBlank c = false := by
  intro c hc
  have mem : c.toLower ∈ lower := h ▸ List.mem_map_of_mem hc
  exact isBlank_of_toLower (Bool.eq_false_iff.mpr (List.any_eq_false.mp none _ mem))

theorem keysOf_cons {c : Char} {cs : List Char} (h : ∀ rest, c = '_' → cs = '_' :: rest → False) :
    keysOf (c :: cs) = if c = '.' then [] :: keysOf cs
      else match keysOf cs with
        | [] => [[c.toLower]]
        | key :: keys => (c.toLower :: key) :: keys :=
  keysOf.eq_3 c cs h

theorem keysOf_congr {text text' : List Char}
    (h : text'.map Char.toLower = text.map Char.toLower) : keysOf text' = keysOf text := by
  have same {c d mark : Char} (hc : c.toLower = d.toLower) (hm : mark.isAlpha = false)
      (hd : d.toLower = mark) : c = mark := eq_of_toLower_eq (hc.trans hd) hm
  -- a character that is read alone is read alone in any case
  have alone {c d : Char} {cs ds : List Char} (hd : d.toLower = c.toLower)
      (hds : ds.map Char.toLower = cs.map Char.toLower)
      (single : ∀ rest, c = '_' → cs = '_' :: rest → False) (rest : List Char) (first : d = '_')
      (second : ds = '_' :: rest) : False := by
    subst first second
    obtain ⟨e, es, rfl, he, -⟩ := List.map_eq_cons_iff.mp hds.symm
    exact single es (same hd.symm rfl rfl) (congrArg (· :: es) (same he rfl rfl))
  fun_induction keysOf text generalizing text' with
  | case1 =>
      rw [List.map_eq_nil_iff.mp h]
      rfl
  | case2 rest ih =>
      obtain ⟨c, cs, rfl, hc, hcs⟩ := List.map_eq_cons_iff.mp h
      obtain ⟨d, ds, rfl, hd, hds⟩ := List.map_eq_cons_iff.mp hcs
      obtain rfl : c = '_' := same hc rfl rfl
      obtain rfl : d = '_' := same hd rfl rfl
      rw [keysOf, ih hds]
  | case3 rest single ih =>
      obtain ⟨d, ds, rfl, hd, hds⟩ := List.map_eq_cons_iff.mp h
      obtain rfl : d = '.' := same hd rfl rfl
      rw [keysOf_cons (alone hd hds single), if_pos rfl, ih hds]
  | case4 c rest single hp none ih =>
      obtain ⟨d, ds, rfl, hd, hds⟩ := List.map_eq_cons_iff.mp h
      have point : d ≠ '.' := fun he => hp (same hd.symm rfl (congrArg Char.toLower he))
      rw [keysOf_cons (alone hd hds single), if_neg point, ih hds, none, hd]
  | case5 c rest single hp key keys some ih =>
      obtain ⟨d, ds, rfl, hd, hds⟩ := List.map_eq_cons_iff.mp h
      have point : d ≠ '.' := fun he => hp (same hd.symm rfl (congrArg Char.toLower he))
      rw [keysOf_cons (alone hd hds single), if_neg point, ih hds, some, hd]

theorem behindWord?_of_append {front text rest : List Char}
    (h : text.map Char.toLower = front.map Char.toLower ++ rest) :
    ∃ behind, behindWord? front text = some behind ∧ behind.map Char.toLower = rest := by
  induction front generalizing text with
  | nil => exact ⟨text, by cases text <;> rfl, h⟩
  | cons f fs ih =>
      cases text with
      | nil => cases h
      | cons c cs =>
          obtain ⟨hc, hcs⟩ := List.cons.inj h
          obtain ⟨behind, hb, he⟩ := ih hcs
          exact ⟨behind, by rw [behindWord?, if_pos hc.symm, hb], he⟩

/-- In any case, the name spells the setting. -/
def Spells (name : String) (x : Setting) : Prop :=
  name.toList.map Char.toLower = ("registry_inspect__registry__" ++ x.key).toList

theorem path?_of_spells {name : String} {x : Setting} (h : Spells name x) :
    path? name = some ["registry", x.key] := by
  have parts : name.toList.map Char.toLower =
      namePrefix.map Char.toLower ++ ("registry__" ++ x.key).toList := by
    rw [h]
    cases x <;> rfl
  obtain ⟨rest, hb, hr⟩ := behindWord?_of_append parts
  have whole : ∀ c ∈ name.toList, Text.isBlank c = false :=
    isBlank_of_map_toLower h (by cases x <;> rfl)
  have behind : ∀ c ∈ rest, Text.isBlank c = false :=
    isBlank_of_map_toLower hr (by cases x <;> rfl)
  have keys : keysOf rest = keysOf ("registry__" ++ x.key).toList :=
    keysOf_congr (by rw [hr]; cases x <;> rfl)
  rw [path?, Text.trim_eq_self whole, hb]
  dsimp only
  rw [Text.trim_eq_self behind, keys]
  cases x <;> rfl

/-! ### Several variables -/

section
variable {τ : Type} (o : τ)

/-- What the variables say in their order: each sets one setting, or sets several in braces, or is
none of the variables for settings. -/
inductive VariablesSay : List (String × String) → Overrides → Prop
  | nil : VariablesSay [] fun _ => none
  | other {name text : String} {rest : List (String × String)} {later : Overrides}
      (h : path? name = none) (hr : VariablesSay rest later) :
      VariablesSay ((name, text) :: rest) later
  | single {name text : String} {rest : List (String × String)} {later : Overrides} {x : Setting}
      {v : x.Value} (h : path? name = some ["registry", x.key])
      (hv : x.decode (valueOf o text) = .ok v) (hr : VariablesSay rest later) :
      VariablesSay ((name, text) :: rest) (later.over (.one x v))
  | several {name text : String} {rest : List (String × String)} {later now : Overrides}
      {fields : Fields (Tree τ)} (h : path? name = some ["registry"])
      (hv : valueOf o text = .dict o fields) (hs : Sets fields now) (hr : VariablesSay rest later) :
      VariablesSay ((name, text) :: rest) (later.over now)

variable {o}

theorem VariablesSay.foldl {environment : List (String × String)} {later : Overrides}
    (h : VariablesSay o environment later) {t : Tree τ} {before : Overrides} (hn : t.Normal)
    (ht : Says t before) :
    Says (environment.foldl (override o) t) (later.over before) := by
  induction h generalizing t before with
  | nil => exact ht
  | @other name text rest later hp _ ih =>
      have same : override o t (name, text) = t := by rw [override, hp]
      rw [List.foldl_cons, same]
      exact ih hn ht
  | @single name text rest later x v hp hv _ ih =>
      have now : Says (override o t (name, text)) ((Overrides.one x v).over before) := by
        simp only [override, hp]
        exact ht.merge (.settings o o (sets_one hv)) ((normal_valueOf o text).nest o _)
      rw [List.foldl_cons, Overrides.over_assoc]
      exact ih (normal_override hn _) now
  | @several name text rest later now fields hp hv hs _ ih =>
      have now : Says (override o t (name, text)) (now.over before) := by
        simp only [override, hp]
        refine ht.merge ?_ ((normal_valueOf o text).nest o _)
        rw [hv]
        exact .settings o o hs
      rw [List.foldl_cons, Overrides.over_assoc]
      exact ih (normal_override hn _) now

/-- **Variables that set settings make a layer that sets the same.** -/
theorem VariablesSay.layer {environment : List (String × String)} {later : Overrides}
    (h : VariablesSay o environment later) : Says (layer o environment) later := by
  have all := h.foldl (normal_dict_iff.mpr normalFields_nil) (.nothing o)
  rwa [Overrides.over_none] at all

/-! ### One variable -/

theorem layer_singleton_cases (o : τ) (entry : String × String) :
    (path? entry.1 = none ∧ layer o [entry] = .dict o []) ∨
      ∃ key keys, path? entry.1 = some (key :: keys) ∧
        layer o [entry] = .dict o [(key, (valueOf o entry.2).nest o keys)] := by
  rw [layer, List.foldl_cons, List.foldl_nil, override]
  cases hp : path? entry.1 with
  | none => exact .inl ⟨rfl, rfl⟩
  | some path =>
      obtain ⟨key, keys, rfl⟩ := exists_cons_of_path? hp
      exact .inr ⟨key, keys, rfl, rfl⟩

/-- The variable sets a key besides those of the settings of a load. -/
def SetsUnknownTop (entry : String × String) : Prop :=
  ∃ key keys, path? entry.1 = some (key :: keys) ∧ key ≠ "registry"

/-- The variable sets a key of no setting, by its name or in braces. -/
inductive SetsUnknownSetting (o : τ) (entry : String × String) : Prop
  | name {key : String} {keys : List String} (h : path? entry.1 = some ("registry" :: key :: keys))
      (unknown : ∀ x : Setting, x.key ≠ key)
  | braces (h : path? entry.1 = some ["registry"]) (unknown : (valueOf o entry.2).NamesNoSetting)

/-- The variable takes the place of all settings of a load, and not with fields in braces. -/
def Replaces (o : τ) (entry : String × String) : Prop :=
  path? entry.1 = some ["registry"] ∧ ¬ (valueOf o entry.2).IsDict

variable {entry : String × String}

theorem hasUnknownTop_singleton_iff : (layer o [entry]).HasUnknownTop ↔ SetsUnknownTop entry := by
  rcases layer_singleton_cases o entry with ⟨hp, hl⟩ | ⟨key, keys, hp, hl⟩
  · simp [hl, hp, HasUnknownTop, SetsUnknownTop, Tree.fields, Fields.keys]
  · simp [hl, hp, HasUnknownTop, SetsUnknownTop, Tree.fields, Fields.keys]

theorem get?_singleton_eq_some_iff {t : Tree τ} :
    (layer o [entry]).fields.get? "registry" = some t ↔
      ∃ keys, path? entry.1 = some ("registry" :: keys) ∧ (valueOf o entry.2).nest o keys = t := by
  rcases layer_singleton_cases o entry with ⟨hp, hl⟩ | ⟨key, keys, hp, hl⟩
  · simp [hl, hp, Tree.fields, Fields.get?]
  · by_cases hk : key = "registry"
    · simp [hl, hp, hk, Tree.fields, Fields.get?]
    · simp [hl, hp, hk, Tree.fields, Fields.get?]

theorem hasUnknownSetting_singleton_iff :
    (layer o [entry]).HasUnknownSetting ↔ SetsUnknownSetting o entry := by
  simp only [HasUnknownSetting, get?_singleton_eq_some_iff]
  constructor
  · rintro ⟨_, ⟨keys, hp, rfl⟩, unknown⟩
    cases keys with
    | nil => exact .braces hp unknown
    | cons key keys =>
        obtain ⟨key', hk, unknown⟩ := unknown
        cases List.mem_singleton.mp hk
        exact .name hp unknown
  · rintro (⟨hp, unknown⟩ | ⟨hp, unknown⟩)
    · exact ⟨_, ⟨_, hp, rfl⟩, _, List.mem_singleton_self _, unknown⟩
    · exact ⟨_, ⟨_, hp, rfl⟩, unknown⟩

theorem replacesSettings_singleton_iff :
    (layer o [entry]).ReplacesSettings ↔ Replaces o entry := by
  simp only [ReplacesSettings, get?_singleton_eq_some_iff, Replaces]
  constructor
  · rintro ⟨_, ⟨keys, hp, rfl⟩, other⟩
    cases keys with
    | nil => exact ⟨hp, other⟩
    | cons => exact absurd (isDict_dict ..) other
  · rintro ⟨hp, other⟩
    exact ⟨_, ⟨_, hp, rfl⟩, other⟩

/-! ### Unknown keys of variables -/

theorem layer_append_singleton (o : τ) (front : List (String × String)) (entry : String × String) :
    layer o (front ++ [entry]) = (layer o front).merge (layer o [entry]) := by
  obtain ⟨fields, hf, -⟩ := exists_normalFields_layer o front
  have step : layer o (front ++ [entry]) = override o (layer o front) entry := by
    rw [layer, List.foldl_append]
    rfl
  rcases layer_singleton_cases o entry with ⟨hp, hl⟩ | ⟨key, keys, hp, hl⟩
  · rw [step, hf, hl, override, hp, merge_dict, mergeFields]
  · rw [step, hf, hl, override, hp]
    rfl

theorem hasUnknownTop_layer_iff {environment : List (String × String)} :
    (layer o environment).HasUnknownTop ↔ ∃ entry ∈ environment, SetsUnknownTop entry := by
  induction environment using List.reverseRecOn with
  | nil => exact iff_of_false (fun ⟨_, hk, _⟩ => List.not_mem_nil hk) (by simp)
  | append_singleton front entry ih =>
      obtain ⟨fields, hf, -⟩ := exists_normalFields_layer o front
      obtain ⟨entries, he, -⟩ := exists_normalFields_layer o [entry]
      rw [layer_append_singleton, hf, he, hasUnknownTop_merge_iff, ← hf, ← he, ih,
        hasUnknownTop_singleton_iff]
      simp only [List.mem_append, List.mem_singleton, or_and_right, exists_or, exists_eq_left]

/-- A variable sets a key of no setting, and no later one takes the place of all settings. -/
def LeaveUnknownSetting (o : τ) (environment : List (String × String)) : Prop :=
  ∃ front entry back, environment = front ++ entry :: back ∧ SetsUnknownSetting o entry ∧
    ∀ e ∈ back, ¬ Replaces o e

theorem leaveUnknownSetting_append_singleton_iff {front : List (String × String)} :
    LeaveUnknownSetting o (front ++ [entry]) ↔
      SetsUnknownSetting o entry ∨ LeaveUnknownSetting o front ∧ ¬ Replaces o entry := by
  constructor
  · rintro ⟨front', entry', back, he, hs, kept⟩
    rcases List.eq_nil_or_concat back with rfl | ⟨back, last, rfl⟩
    · cases (List.append_inj_right' he rfl)
      exact .inl hs
    · rw [List.concat_eq_append] at he kept
      rw [← List.cons_append, ← List.append_assoc] at he
      obtain ⟨rfl, hl⟩ := List.append_inj' he rfl
      cases hl
      rw [List.forall_mem_append, List.forall_mem_singleton] at kept
      exact .inr ⟨⟨front', entry', back, rfl, hs, kept.1⟩, kept.2⟩
  · rintro (hs | ⟨⟨front', entry', back, rfl, hs, kept⟩, last⟩)
    · exact ⟨front, entry, [], rfl, hs, nofun⟩
    · refine ⟨front', entry', back ++ [entry], by simp, hs, ?_⟩
      exact List.forall_mem_append.mpr ⟨kept, List.forall_mem_singleton.mpr last⟩

theorem hasUnknownSetting_layer_iff {environment : List (String × String)} :
    (layer o environment).HasUnknownSetting ↔ LeaveUnknownSetting o environment := by
  induction environment using List.reverseRecOn with
  | nil => exact iff_of_false nofun (by simp [LeaveUnknownSetting])
  | append_singleton front entry ih =>
      obtain ⟨fields, hf, -⟩ := exists_normalFields_layer o front
      obtain ⟨entries, he, hn⟩ := exists_normalFields_layer o [entry]
      rw [layer_append_singleton, hf, he, hasUnknownSetting_merge_iff hn.ascending, ← hf, ← he, ih,
        hasUnknownSetting_singleton_iff, replacesSettings_singleton_iff,
        leaveUnknownSetting_append_singleton_iff]

/-- **The unknown keys of variables.**  The layer of the variables has an unknown key iff a variable
sets one at the root, or one sets a key of no setting and no later one takes the place of all
settings. -/
theorem hasUnknown_layer_iff {environment : List (String × String)} :
    (layer o environment).HasUnknown ↔
      (∃ entry ∈ environment, SetsUnknownTop entry) ∨ LeaveUnknownSetting o environment := by
  rw [HasUnknown, hasUnknownTop_layer_iff, hasUnknownSetting_layer_iff]

/-- Variables of settings do nothing if a later one takes the place of all settings. -/
theorem layer_of_replaces {front back : List (String × String)}
    (known : ∀ e ∈ front, ¬ SetsUnknownTop e) (h : Replaces o entry) :
    layer o (front ++ entry :: back) = layer o (entry :: back) := by
  obtain ⟨fields, hf, normal⟩ := exists_normalFields_layer o front
  obtain ⟨entries, he, normal'⟩ := exists_normalFields_layer o [entry]
  have top : ¬ (layer o front).HasUnknownTop := fun ht => by
    obtain ⟨e, hm, hs⟩ := hasUnknownTop_layer_iff.mp ht
    exact known e hm hs
  have same : layer o (front ++ [entry]) = layer o [entry] := by
    rw [layer_append_singleton, hf, he]
    exact merge_eq_of_replaces (hf ▸ top) normal normal'
      (he ▸ replacesSettings_singleton_iff.mpr h)
  have split (env : List (String × String)) :
      layer o (env ++ back) = back.foldl (override o) (layer o env) := List.foldl_append
  rw [List.append_cons, split, same, ← split]
  rfl

end
end TypeCatalog.Settings.Environment
