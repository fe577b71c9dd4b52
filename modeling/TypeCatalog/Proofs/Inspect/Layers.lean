import TypeCatalog.Proofs.Inspect.Agreement
import TypeCatalog.Proofs.Settings.Variables

/-! # The settings of a run

For each setting on its own, a run takes what the variables set, else what the settings file sets,
else the default (`exists_settings_of_layers`).  An unknown key ends the run before the snapshot
file is read (`SetsUnknown.exists_error`), unless what stands above it takes the place of all
settings; then the layer with the key does nothing (`FileLayer.settingsOf_eq_of_replaces`). -/

namespace TypeCatalog.Inspect

open Settings (Origin Overrides Says Setting)
open Settings.Environment (LeaveUnknownSetting Replaces SetsUnknownTop Spells VariablesSay layer
  override path? path?_of_spells valueOf)
open Settings.Tree (NormalFields)

variable {s : Surroundings} {i : Invocation} {file : Settings.Tree Origin}

/-! ### The two layers -/

/-- The layer of the variables. -/
def variableLayer (s : Surroundings) : Settings.Tree Origin :=
  layer .environment s.environment

/-- The layer below the variables: that of the settings file, or an empty one. -/
inductive FileLayer (s : Surroundings) (i : Invocation) : Settings.Tree Origin → Prop
  | absent (hi : i.config = none) : FileLayer s i (.dict .environment [])
  | file {path : String} {content : ByteArray} {t : Settings.Tree Origin}
      (hi : i.config = some path) (hf : (s.files path).isFile = true)
      (hr : s.read path = .ok content) (ht : Settings.fileLayer path content = .ok t) :
      FileLayer s i t

theorem FileLayer.exists_normalFields (h : FileLayer s i file) :
    ∃ o fields, file = .dict o fields ∧ NormalFields fields := by
  cases h with
  | absent => exact ⟨_, [], rfl, Settings.Tree.normalFields_nil⟩
  | file _ _ _ ht =>
      obtain ⟨fields, he, hn⟩ := Settings.exists_normalFields_fileLayer ht
      exact ⟨_, fields, he, hn⟩

theorem exists_normalFields_variableLayer (s : Surroundings) :
    ∃ entries, variableLayer s = .dict Origin.environment entries ∧ NormalFields entries :=
  Settings.Environment.exists_normalFields_layer Origin.environment s.environment

/-- The settings that a merged layer is decoded to. -/
def settingsIn (t : Settings.Tree Origin) : Except RunError Settings :=
  (((Settings.rootRecord Origin).decode false {} t).mapError .fault).mapError .settings

theorem FileLayer.settingsOf_eq (h : FileLayer s i file) :
    settingsOf s i = settingsIn (file.merge (variableLayer s)) := by
  cases h with
  | absent hi =>
      rw [settingsOf, hi]
      rfl
  | file hi hf hr ht =>
      simp only [settingsOf, hi, hf, if_true, hr, Settings.ofLayers, ht]
      rfl

theorem exists_error_of_no_layer (h : ∀ file, ¬ FileLayer s i file) :
    ∃ e, settingsOf s i = .error e := by
  cases hi : i.config with
  | none => exact absurd (.absent hi) (h _)
  | some path =>
      simp only [settingsOf, hi]
      split
      · rename_i hf
        cases hr : s.read path with
        | error e => exact ⟨_, rfl⟩
        | ok content =>
            cases ht : Settings.fileLayer path content with
            | error e =>
                simp only [Settings.ofLayers, ht]
                exact ⟨_, rfl⟩
            | ok t => exact absurd (.file hi hf hr ht) (h t)
      · exact ⟨_, rfl⟩

/-! ### Settings that layers set -/

/-- **Each setting is that of the variables, else that of the file, else the default.** -/
theorem exists_settings_of_layers {lower upper : Overrides} (h : FileLayer s i file)
    (hl : Says file lower) (hu : Says (variableLayer s) upper) :
    ∃ settings, settingsOf s i = .ok settings ∧
      ∀ x, settings.value x = ((upper x).or (lower x)).getD (({} : Settings).value x) := by
  obtain ⟨o, fields, rfl, hn⟩ := h.exists_normalFields
  obtain ⟨entries, he, hn'⟩ := exists_normalFields_variableLayer s
  have later : (variableLayer s).Normal := he ▸ Settings.Tree.normal_dict_iff.mpr hn'
  have merged := hl.merge hu later
  obtain ⟨settings, hs, values⟩ :=
    merged.decode ((Settings.Tree.normal_dict_iff.mpr hn).merge later)
  refine ⟨settings, ?_, values⟩
  rw [h.settingsOf_eq, settingsIn, hs]
  rfl

theorem perform_of_settings {settings : Settings} (h : settingsOf s i = .ok settings) :
    perform s i = (do
      Traced.note (.configured settings)
      execute s (mannerOf s i) settings i.path i.command) := by
  rw [perform, h]
  rfl

/-! ### Unknown keys -/

/-- There is an unknown key, and nothing above it takes the place of all settings: a variable sets
one, or the settings file has one. -/
inductive SetsUnknown (s : Surroundings) (i : Invocation) : Prop
  | variableTop {entry : String × String} (hm : entry ∈ s.environment) (h : SetsUnknownTop entry)
  | variableSetting (h : LeaveUnknownSetting Origin.environment s.environment)
  | fileTop {file : Settings.Tree Origin} (hf : FileLayer s i file) (h : file.HasUnknownTop)
  | fileSetting {file : Settings.Tree Origin} (hf : FileLayer s i file)
      (h : file.HasUnknownSetting) (kept : ¬ (variableLayer s).ReplacesSettings)

theorem FileLayer.hasUnknown_merge_iff (h : FileLayer s i file) :
    (file.merge (variableLayer s)).HasUnknown ↔
      (file.HasUnknownTop ∨ (variableLayer s).HasUnknownTop) ∨
        ((variableLayer s).HasUnknownSetting ∨
          file.HasUnknownSetting ∧ ¬ (variableLayer s).ReplacesSettings) := by
  obtain ⟨o, fields, rfl, -⟩ := h.exists_normalFields
  obtain ⟨entries, he, hn⟩ := exists_normalFields_variableLayer s
  rw [he, Settings.Tree.HasUnknown, Settings.Tree.hasUnknownTop_merge_iff,
    Settings.Tree.hasUnknownSetting_merge_iff hn.ascending]

theorem FileLayer.exists_error (h : FileLayer s i file)
    (unknown : (file.merge (variableLayer s)).HasUnknown) : ∃ e, settingsOf s i = .error e := by
  obtain ⟨fault, hf⟩ := unknown.exists_fault
  refine ⟨.settings (.fault fault), ?_⟩
  rw [h.settingsOf_eq, settingsIn, hf]
  rfl

theorem exists_error_of_variables (h : (variableLayer s).HasUnknown) :
    ∃ e, settingsOf s i = .error e := by
  by_cases hf : ∃ file, FileLayer s i file
  · obtain ⟨file, hf⟩ := hf
    exact hf.exists_error (hf.hasUnknown_merge_iff.mpr (h.imp .inr .inl))
  · exact exists_error_of_no_layer fun file h => hf ⟨file, h⟩

/-- **Unknown keys are refused.** -/
theorem SetsUnknown.exists_error (h : SetsUnknown s i) : ∃ e, settingsOf s i = .error e := by
  cases h with
  | variableTop hm h =>
      exact exists_error_of_variables
        (Settings.Environment.hasUnknown_layer_iff.mpr (.inl ⟨_, hm, h⟩))
  | variableSetting h =>
      exact exists_error_of_variables (Settings.Environment.hasUnknown_layer_iff.mpr (.inr h))
  | fileTop hf h => exact hf.exists_error (hf.hasUnknown_merge_iff.mpr (.inl (.inl h)))
  | fileSetting hf h kept =>
      exact hf.exists_error (hf.hasUnknown_merge_iff.mpr (.inr (.inr ⟨h, kept⟩)))

/-! ### Replaced settings -/

/-- Nothing is left of a settings file with settings only, if the variables replace these. -/
theorem FileLayer.settingsOf_eq_of_replaces (h : FileLayer s i file)
    (known : ¬ file.HasUnknownTop) (replaced : (variableLayer s).ReplacesSettings) :
    settingsOf s i = settingsOf s { i with config := none } := by
  have alone {j : Invocation} {lower : Settings.Tree Origin} (hj : FileLayer s j lower)
      (known : ¬ lower.HasUnknownTop) : settingsOf s j = settingsIn (variableLayer s) := by
    obtain ⟨o, fields, rfl, hn⟩ := hj.exists_normalFields
    obtain ⟨entries, he, hn'⟩ := exists_normalFields_variableLayer s
    rw [hj.settingsOf_eq]
    rw [he] at replaced ⊢
    rw [Settings.Tree.merge_eq_of_replaces known hn hn' replaced]
  have empty : ¬ (Settings.Tree.dict Origin.environment []).HasUnknownTop :=
    fun ⟨_, hk, _⟩ => List.not_mem_nil hk
  rw [alone h known, alone (.absent rfl) empty]

/-- **When an unknown key of the settings file is accepted.**  It has to stand among the settings
of a load, and the variables have to replace these by something that can be read as settings. -/
theorem FileLayer.settingsOf_eq_ok_iff (h : FileLayer s i file) (unknown : file.HasUnknown)
    (settings : Settings) : settingsOf s i = .ok settings ↔
      ¬ file.HasUnknownTop ∧ (variableLayer s).ReplacesSettings ∧
        settingsOf s { i with config := none } = .ok settings := by
  have refused (hu : SetsUnknown s i) : settingsOf s i ≠ .ok settings := fun hs => by
    obtain ⟨e, he⟩ := hu.exists_error
    cases hs.symm.trans he
  constructor
  · intro hs
    have known : ¬ file.HasUnknownTop := fun top => refused (.fileTop h top) hs
    have setting : file.HasUnknownSetting := unknown.resolve_left known
    have replaced : (variableLayer s).ReplacesSettings :=
      of_not_not fun kept => refused (.fileSetting h setting kept) hs
    exact ⟨known, replaced, h.settingsOf_eq_of_replaces known replaced ▸ hs⟩
  · rintro ⟨known, replaced, hs⟩
    exact (h.settingsOf_eq_of_replaces known replaced).trans hs

theorem settingsOf_of_replaces {front back : List (String × String)} {entry : String × String}
    (he : s.environment = front ++ entry :: back) (known : ∀ e ∈ front, ¬ SetsUnknownTop e)
    (h : Replaces Origin.environment entry) :
    settingsOf s i = settingsOf { s with environment := entry :: back } i := by
  have same : layer Origin.environment s.environment =
      layer Origin.environment (entry :: back) :=
    he ▸ Settings.Environment.layer_of_replaces known h
  simp only [settingsOf, Settings.ofLayers, Surroundings.read, same]

/-! ### Runs without settings -/

theorem perform_of_error {e : RunError} (h : settingsOf s i = .error e) :
    perform s i = ⟨[], .error e⟩ := by
  rw [perform, h]
  rfl

theorem settingsOf_congr {files : String → Node}
    (h : ∀ path, i.config = some path → files path = s.files path) :
    settingsOf { s with files := files } i = settingsOf s i := by
  unfold settingsOf
  cases hi : i.config with
  | none => rfl
  | some path =>
      simp only [Surroundings.read, h path hi]

/-- Without settings a run does not depend on any other file. -/
theorem runInvocation_congr {e : RunError} (he : settingsOf s i = .error e)
    {files : String → Node} (h : ∀ path, i.config = some path → files path = s.files path) :
    runInvocation { s with files := files } i = runInvocation s i := by
  have he' : settingsOf { s with files := files } i = .error e := (settingsOf_congr h).trans he
  rw [runInvocation, runInvocation, perform_of_error he, perform_of_error he']

/-! ### All together -/

/-- **Layers override setting by setting, and unknown keys are refused.**  If the settings file (or
no file) and the variables set settings and nothing else, a run uses, for each setting, what the
variables set, else what the file sets, else the default; variables whose names spell settings in
any case make such a layer.  A run with an unknown key, and nothing above it that takes the place of
all settings, exits with 1 and prints nothing, whatever its command, and it is the same whatever
other files hold than the settings file.  With an unknown key in the settings file there are
settings iff this key stands among those of a load, the variables replace these, and there are
settings without the file; they are the same then.  So are those without the variables in front of
one that replaces all settings. -/
theorem settings_in_layers (s : Surroundings) (i : Invocation) :
    (∀ file lower upper, FileLayer s i file → Says file lower → Says (variableLayer s) upper →
      ∃ settings, settingsOf s i = .ok settings ∧
        (∀ x, settings.value x = ((upper x).or (lower x)).getD (({} : Settings).value x)) ∧
        perform s i = do
          Traced.note (.configured settings)
          execute s (mannerOf s i) settings i.path i.command) ∧
    (∀ upper, VariablesSay Origin.environment s.environment upper →
      Says (variableLayer s) upper) ∧
    (∀ name (x : Setting), Spells name x → path? name = some ["registry", x.key]) ∧
    (SetsUnknown s i → ∀ args, Invocation.ofArguments args = .ok i →
      (run s args).exit = 1 ∧ (run s args).stdout = "" ∧ (perform s i).events = [] ∧
      ∀ files : String → Node, (∀ path, i.config = some path → files path = s.files path) →
        run { s with files := files } args = run s args) ∧
    (∀ file, FileLayer s i file → file.HasUnknown → ∀ settings,
      settingsOf s i = .ok settings ↔ ¬ file.HasUnknownTop ∧
        (variableLayer s).ReplacesSettings ∧
        settingsOf s { i with config := none } = .ok settings) ∧
    ∀ front entry back, s.environment = front ++ entry :: back →
      Replaces Origin.environment entry → (∀ e ∈ front, ¬ SetsUnknownTop e) →
      settingsOf s i = settingsOf { s with environment := entry :: back } i := by
  refine ⟨fun file lower upper hf hl hu => ?_, fun _ => VariablesSay.layer,
    fun _ _ => path?_of_spells, fun h args ha => ?_,
    fun file hf unknown settings => hf.settingsOf_eq_ok_iff unknown settings,
    fun front entry back he h known => settingsOf_of_replaces he known h⟩
  · obtain ⟨settings, hs, values⟩ := exists_settings_of_layers hf hl hu
    exact ⟨settings, hs, values, perform_of_settings hs⟩
  · obtain ⟨e, he⟩ := h.exists_error
    have failed := perform_of_error he
    obtain ⟨exit, stdout⟩ := runInvocation_of_error (congrArg Traced.outcome failed)
    simp only [run_of_ofArguments ha]
    exact ⟨exit, stdout, congrArg Traced.events failed,
      fun files hfiles => runInvocation_congr he hfiles⟩

/-- Surroundings with a settings file, a snapshot file and variables. -/
def configured (yaml : String) (environment : List (String × String)) : Surroundings where
  files path := ⟨.ok (if path = "c.yaml" then yaml else leafText).toUTF8, true⟩
  environment := environment
  terminal := false

theorem fileLayer_configured {yaml : String} {fields : List (String × Settings.Tree Origin)}
    (h : (Yaml.Document.ofText yaml).fields (.file "c.yaml") (Origin.ofNumber "c.yaml") =
      .ok fields) (environment : List (String × String)) (command : Command) :
    FileLayer (configured yaml environment) ⟨some "c.yaml", 0, false, "tree.js", command⟩
      (.dict (.file "c.yaml") fields) := by
  refine .file rfl rfl rfl ?_
  have text : String.fromUTF8? yaml.toUTF8 = some yaml := fromUTF8?_eq_some_iff.mpr rfl
  rw [if_pos rfl, Settings.fileLayer, text]
  simp only [h]

/-- A settings file with two settings. -/
def twoSettings : String :=
  "registry:\n  reject_unknown_fields: true\n  immutable_provenance_markers: [Frozen]\n"

/-- What these settings are. -/
def twoOverrides : Overrides
  | .documentAliases => none
  | .rejectUnknownFields => some true
  | .provenanceMarkers => some ["Frozen"]

/-- The fields of a file with these settings. -/
def isTwoSettings : Except Yaml.Fault (List (String × Settings.Tree Origin)) → Bool
  | .ok [("registry", .dict _ [
      ("immutable_provenance_markers", .list _ [.scalar _ (.text "Frozen")]),
      ("reject_unknown_fields", .scalar _ (.bool true))])] => true
  | _ => false

theorem layer_twoSettings : ∃ fields,
    (Yaml.Document.ofText twoSettings).fields (.file "c.yaml") (Origin.ofNumber "c.yaml") =
      .ok fields ∧ Says (.dict (.file "c.yaml") fields) twoOverrides := by
  have shape : isTwoSettings ((Yaml.Document.ofText twoSettings).fields (.file "c.yaml")
      (Origin.ofNumber "c.yaml")) = true := by decide +kernel
  unfold isTwoSettings at shape
  split at shape
  · rename_i h
    refine ⟨_, h, .settings _ _ ⟨fun key hk => ?_, fun x => by cases x <;> rfl⟩⟩
    rcases List.mem_pair.mp hk with rfl | rfl
    · exact ⟨.provenanceMarkers, rfl⟩
    · exact ⟨.rejectUnknownFields, rfl⟩
  · cases shape

/-- A settings file with an unknown key beside the settings of a load. -/
def strictSetting : String := "registry:\n  strict: true\n"

/-- The fields of a file with this key. -/
def isStrictSetting : Except Yaml.Fault (List (String × Settings.Tree Origin)) → Bool
  | .ok [("registry", .dict _ [("strict", .scalar _ (.bool true))])] => true
  | _ => false

theorem fields_strictSetting : ∃ o p,
    (Yaml.Document.ofText strictSetting).fields (.file "c.yaml") (Origin.ofNumber "c.yaml") =
      .ok [("registry", .dict o [("strict", .scalar p (.bool true))])] := by
  have shape : isStrictSetting ((Yaml.Document.ofText strictSetting).fields (.file "c.yaml")
      (Origin.ofNumber "c.yaml")) = true := by decide +kernel
  unfold isStrictSetting at shape
  split at shape
  · rename_i h
    exact ⟨_, _, h⟩
  · cases shape

theorem hasUnknownSetting_strict (o p q : Origin) : Settings.Tree.HasUnknownSetting
    (.dict o [("registry", .dict p [("strict", .scalar q (.bool true))])]) :=
  ⟨_, Fields.get?_cons_self .., "strict", List.mem_singleton_self _, fun x => by cases x <;> decide⟩

/-- A variable with an unknown key. -/
def strictVariable : String × String := ("REGISTRY_INSPECT__REGISTRY__STRICT", "true")

/-- A variable with a list in the place of all settings. -/
def listVariable : String × String := ("REGISTRY_INSPECT__REGISTRY", "[]")

theorem path?_strictVariable : path? strictVariable.1 = some ["registry", "strict"] := by decide

theorem path?_listVariable : path? listVariable.1 = some ["registry"] := by decide

theorem valueOf_listVariable :
    valueOf Origin.environment listVariable.2 = .list .environment [] := rfl

theorem replaces_listVariable : Replaces Origin.environment listVariable :=
  ⟨path?_listVariable, fun ⟨_, _, h⟩ => by rw [valueOf_listVariable] at h; cases h⟩

theorem layer_listVariable : layer Origin.environment [listVariable] =
    .dict .environment [("registry", .list .environment [])] := by
  rw [layer, List.foldl_cons, List.foldl_nil, override, path?_listVariable, valueOf_listVariable]
  rfl

/-- The file sets one setting and the variable another one, in place of that of the file; an
unknown key of the file is refused, and so is one of a variable, unless a list follows it. -/
theorem settings_in_layers_of_file :
    (∃ settings, settingsOf (configured twoSettings
          [("REGISTRY_INSPECT__Registry__IMMUTABLE_PROVENANCE_MARKERS", "[Kept]")])
        ⟨some "c.yaml", 0, false, "tree.js", .check⟩ = .ok settings ∧
      settings.documentAliases = ({} : Settings).documentAliases ∧
      settings.rejectUnknownFields = true ∧ settings.provenanceMarkers = ["Kept"]) ∧
    (run (configured strictSetting []) ["-c", "c.yaml", "check", "tree.js"]).exit = 1 ∧
    (run (configured twoSettings [listVariable, strictVariable]) ["check", "tree.js"]).exit = 1 ∧
    settingsOf (configured twoSettings [strictVariable, listVariable])
      ⟨none, 0, false, "tree.js", .check⟩ = .ok {} := by
  refine ⟨?_, ?_, ?_, ?_⟩
  · obtain ⟨fields, hf, lower⟩ := layer_twoSettings
    obtain ⟨layered, said, path, -⟩ := settings_in_layers (configured twoSettings
      [("REGISTRY_INSPECT__Registry__IMMUTABLE_PROVENANCE_MARKERS", "[Kept]")])
      ⟨some "c.yaml", 0, false, "tree.js", .check⟩
    have name := path "REGISTRY_INSPECT__Registry__IMMUTABLE_PROVENANCE_MARKERS"
      .provenanceMarkers rfl
    have upper := said (.over (fun _ => none) (.one .provenanceMarkers ["Kept"]))
      (.single name rfl .nil)
    obtain ⟨settings, hs, values, -⟩ := layered _ _ _ (fileLayer_configured hf _ _) lower upper
    exact ⟨settings, hs, values .documentAliases, values .rejectUnknownFields,
      values .provenanceMarkers⟩
  · obtain ⟨o, p, hf⟩ := fields_strictSetting
    obtain ⟨-, -, -, refused, -⟩ := settings_in_layers (configured strictSetting [])
      ⟨some "c.yaml", 0, false, "tree.js", .check⟩
    have kept : ¬ (variableLayer (configured strictSetting [])).ReplacesSettings := nofun
    exact (refused (.fileSetting (fileLayer_configured hf _ _) (hasUnknownSetting_strict ..) kept)
      ["-c", "c.yaml", "check", "tree.js"] rfl).1
  · obtain ⟨-, -, -, refused, -⟩ := settings_in_layers
      (configured twoSettings [listVariable, strictVariable]) ⟨none, 0, false, "tree.js", .check⟩
    have unknown : LeaveUnknownSetting Origin.environment [listVariable, strictVariable] :=
      ⟨[listVariable], strictVariable, [], rfl,
        .name path?_strictVariable fun x => by cases x <;> decide, nofun⟩
    exact (refused (.variableSetting unknown) ["check", "tree.js"] rfl).1
  · obtain ⟨-, -, -, -, -, replaced⟩ := settings_in_layers
      (configured twoSettings [strictVariable, listVariable]) ⟨none, 0, false, "tree.js", .check⟩
    have known : ∀ e ∈ [strictVariable], ¬ SetsUnknownTop e := by
      rw [List.forall_mem_singleton]
      rintro ⟨key, keys, hp, unknown⟩
      rw [path?_strictVariable] at hp
      cases hp
      exact unknown rfl
    rw [replaced [strictVariable] listVariable [] rfl replaces_listVariable known,
      (FileLayer.absent rfl).settingsOf_eq, variableLayer, layer_listVariable]
    rfl

set_option maxRecDepth 2000 in
/-- A list in the place of the settings hides an unknown key of the file. -/
theorem unknownSetting_hidden :
    (∃ file, FileLayer (configured strictSetting [listVariable])
        ⟨some "c.yaml", 0, false, "tree.js", .check⟩ file ∧ file.HasUnknownSetting) ∧
      (run (configured strictSetting [listVariable])
        ["-c", "c.yaml", "check", "tree.js"]).exit = 0 := by
  obtain ⟨o, p, hf⟩ := fields_strictSetting
  have file := fileLayer_configured hf [listVariable] .check
  refine ⟨⟨_, file, hasUnknownSetting_strict ..⟩, ?_⟩
  have settings := file.settingsOf_eq
  rw [variableLayer, configured, layer_listVariable] at settings
  obtain ⟨v, hr⟩ : ∃ v, Snapshot.read leafText = .ok v := ⟨_, rfl⟩
  obtain ⟨c, hl⟩ : ∃ c, (Snapshot.load {} v).outcome = .ok c := by
    cases hr
    exact ⟨_, rfl⟩
  have provides : Provides (configured strictSetting [listVariable])
      ⟨some "c.yaml", 0, false, "tree.js", .check⟩ c :=
    ⟨{}, leafText, v, settings.trans rfl, rfl, hr, hl⟩
  have asked : Invocation.ofArguments ["-c", "c.yaml", "check", "tree.js"] =
      .ok ⟨some "c.yaml", 0, false, "tree.js", .check⟩ := rfl
  rw [run_of_ofArguments asked]
  exact exit_of_provides provides nofun

end TypeCatalog.Inspect
