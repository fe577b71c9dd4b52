import TypeCatalog.Proofs.Inspect.Names

/-! # Commands agree on what is usable

A check reads and loads the snapshot file on a path of its own, and reports a failure that ends
any other command.  Still all commands agree: whether a run fails is decided by its settings and
its file alone (`exit_of_provides`, `exit_of_not_usable`), so two commands about one file fail
together, whatever their filters and their manner (`commands_agree`).  Only a question about one
type depends on more, the type. -/

namespace TypeCatalog.Inspect

variable {s : Surroundings} {i : Invocation}

/-! ### Usable files -/

/-- The settings are valid, the file holds a text, the text a value, and under the settings this
value loads to the catalog. -/
def Provides (s : Surroundings) (i : Invocation) (c : Catalog) : Prop :=
  ∃ settings text v, settingsOf s i = .ok settings ∧ s.read i.path = .ok text.toUTF8 ∧
    Snapshot.read text = .ok v ∧ (Snapshot.load settings v).outcome = .ok c

/-- There is a catalog to answer from. -/
def Usable (s : Surroundings) (i : Invocation) : Prop :=
  ∃ c, Provides s i c

theorem provides_iff_finds {c : Catalog} : Provides s i c ↔ Finds s i c := by
  simp only [Provides, Finds, catalogOf_eq_ok_iff]
  constructor
  · rintro ⟨settings, text, v, hs, ht, hv, hc⟩
    exact ⟨settings, hs, text, v, ht, hv, hc⟩
  · rintro ⟨settings, hs, text, v, ht, hv, hc⟩
    exact ⟨settings, text, v, hs, ht, hv, hc⟩

theorem usable_congr {i' : Invocation} (config : i.config = i'.config) (path : i.path = i'.path) :
    Usable s i ↔ Usable s i' := by
  have settings : settingsOf s i = settingsOf s i' := by
    unfold settingsOf
    rw [config]
  simp only [Usable, Provides, settings, path]

/-! ### Unusable files -/

theorem outcome_execute_check_of_error {settings : Settings} {path : String} {e : SnapshotError}
    (h : (catalogOf s settings path).outcome = .error e) (m : Manner) :
    (execute s m settings path .check).outcome = .ok (1, Report.unusable m path e.chain) := by
  simp only [execute, h]

theorem outcome_execute_of_error {settings : Settings} {path : String} {e : SnapshotError}
    (h : (catalogOf s settings path).outcome = .error e) (m : Manner) {command : Command}
    (other : command ≠ .check) :
    (execute s m settings path command).outcome = .error (.snapshot path e) := by
  cases command with
  | check => exact absurd rfl other
  | _ => simp only [execute, h]

theorem exit_of_not_usable (h : ¬ Usable s i) :
    (runInvocation s i).exit = 1 ∧ (i.command ≠ .check → (runInvocation s i).stdout = "") := by
  have performed := outcome_perform s i
  cases hs : settingsOf s i with
  | error e =>
      rw [hs] at performed
      obtain ⟨exit, stdout⟩ := runInvocation_of_error performed
      exact ⟨exit, fun _ => stdout⟩
  | ok settings =>
      replace performed : (perform s i).outcome =
          (execute s (mannerOf s i) settings i.path i.command).outcome := by
        rw [performed, hs]
        rfl
      cases hc : (catalogOf s settings i.path).outcome with
      | ok c => exact absurd ⟨c, provides_iff_finds.mpr ⟨settings, hs, hc⟩⟩ h
      | error e =>
          -- the two paths: a check answers that the file is not usable, the others fail
          by_cases check : i.command = .check
          · rw [check, outcome_execute_check_of_error hc] at performed
            exact ⟨(runInvocation_of_ok performed).1, fun other => absurd check other⟩
          · rw [outcome_execute_of_error hc _ check] at performed
            obtain ⟨exit, stdout⟩ := runInvocation_of_error performed
            exact ⟨exit, fun _ => stdout⟩

/-! ### Answers from a catalog -/

theorem exit_of_provides {c : Catalog} (h : Provides s i c)
    (other : ∀ name, i.command ≠ .describe name) : (runInvocation s i).exit = 0 := by
  have answered : ∃ report, answer (mannerOf s i) i.path c i.command = .ok (0, report) := by
    cases hi : i.command with
    | describe name => exact absurd hi (other name)
    | dump variableName => cases variableName <;> exact ⟨_, rfl⟩
    | _ => exact ⟨_, rfl⟩
  obtain ⟨report, ha⟩ := answered
  exact ((provides_iff_finds.mp h).run_eq ha).1

theorem exit_eq_zero_iff (other : ∀ name, i.command ≠ .describe name) :
    (runInvocation s i).exit = 0 ↔ Usable s i := by
  by_cases h : Usable s i
  · obtain ⟨c, hc⟩ := h
    exact iff_of_true (exit_of_provides hc other) ⟨c, hc⟩
  · rw [(exit_of_not_usable h).1]
    exact iff_of_false Nat.one_ne_zero h

theorem exit_eq_one_iff (other : ∀ name, i.command ≠ .describe name) :
    (runInvocation s i).exit = 1 ↔ ¬ Usable s i := by
  constructor
  · intro h usable
    rw [(exit_eq_zero_iff other).mpr usable] at h
    exact Nat.zero_ne_one h
  · exact fun h => (exit_of_not_usable h).1

theorem exit_describe_of_some {c : Catalog} {d : Descriptor} {name : String}
    (hi : i.command = .describe name) (h : Provides s i c)
    (hd : (QualifiedName.parse? name).bind c.find? = some d) : (runInvocation s i).exit = 0 :=
  ((provides_iff_finds.mp h).run_eq (hi ▸ answer_describe_of_some hd)).1

theorem exit_describe_eq_zero_iff {name : String} (hi : i.command = .describe name) :
    (runInvocation s i).exit = 0 ↔
      ∃ c, Provides s i c ∧ ∃ d, (QualifiedName.parse? name).bind c.find? = some d := by
  constructor
  · intro h
    by_cases usable : Usable s i
    · obtain ⟨c, hc⟩ := usable
      cases hd : (QualifiedName.parse? name).bind c.find? with
      | some d => exact ⟨c, hc, d, hd⟩
      | none =>
          rw [(provides_iff_finds.mp hc).exit_describe_of_none hi hd] at h
          cases h
    · rw [(exit_of_not_usable usable).1] at h
      cases h
  · rintro ⟨c, hc, d, hd⟩
    exact exit_describe_of_some hi hc hd

/-- There is no third way for a question about one type to end. -/
theorem exit_describe_eq_one {name : String} (hi : i.command = .describe name)
    (h : (runInvocation s i).exit ≠ 0) : (runInvocation s i).exit = 1 := by
  by_cases usable : Usable s i
  · obtain ⟨c, hc⟩ := usable
    cases hd : (QualifiedName.parse? name).bind c.find? with
    | some d => exact absurd (exit_describe_of_some hi hc hd) h
    | none => exact (provides_iff_finds.mp hc).exit_describe_of_none hi hd
  · exact (exit_of_not_usable usable).1

/-- **All commands agree on what is usable.**  A run that asks for the whole file exits with 0 iff
the file is usable and else with 1, and then only a check prints a report; so the exits of two such
runs with the same settings file and snapshot file are the same.  A run that asks for one type
exits with 0 iff the file is usable and the type is found, and else with 1. -/
theorem commands_agree (s : Surroundings) :
    (∀ args i, Invocation.ofArguments args = .ok i → (∀ name, i.command ≠ .describe name) →
      ((run s args).exit = 0 ↔ Usable s i) ∧ ((run s args).exit = 1 ↔ ¬ Usable s i) ∧
      (i.command ≠ .check → (run s args).exit = 1 → (run s args).stdout = "") ∧
      ∀ args' i', Invocation.ofArguments args' = .ok i' →
        (∀ name, i'.command ≠ .describe name) → i.config = i'.config → i.path = i'.path →
        (run s args).exit = (run s args').exit) ∧
    ∀ args i name, Invocation.ofArguments args = .ok i → i.command = .describe name →
      ((run s args).exit = 0 ↔
        ∃ c, Provides s i c ∧ ∃ d, (QualifiedName.parse? name).bind c.find? = some d) ∧
      ((run s args).exit ≠ 0 → (run s args).exit = 1) := by
  refine ⟨fun args i ha other => ?_, fun args i name ha hi => ?_⟩
  · rw [run_of_ofArguments ha]
    refine ⟨exit_eq_zero_iff other, exit_eq_one_iff other, fun check exit => ?_,
      fun args' i' ha' other' config path => ?_⟩
    · exact (exit_of_not_usable ((exit_eq_one_iff other).mp exit)).2 check
    · rw [run_of_ofArguments ha']
      by_cases usable : Usable s i
      · rw [(exit_eq_zero_iff other).mpr usable,
          (exit_eq_zero_iff other').mpr ((usable_congr config path).mp usable)]
      · rw [(exit_eq_one_iff other).mpr usable,
          (exit_eq_one_iff other').mpr fun h => usable ((usable_congr config path).mpr h)]
  · rw [run_of_ofArguments ha]
    exact ⟨exit_describe_eq_zero_iff hi, exit_describe_eq_one hi⟩

/-- Surroundings without any file. -/
def noFile : Surroundings where
  files _ := ⟨.error .notFound, false⟩
  environment := []
  terminal := false

set_option maxRecDepth 2000 in
/-- On one file a check, a listing and a question succeed; without a file a listing fails and
prints nothing. -/
theorem commands_agree_on_leaf :
    (run (oneFile leafText) ["check", "tree.js"]).exit = 0 ∧
      (run (oneFile leafText) ["types", "tree.js", "--kind", "Class", "--json"]).exit = 0 ∧
      (run (oneFile leafText) ["show", "tree.js", "tree.Leaf"]).exit = 0 ∧
      (run noFile ["check", "tree.js"]).exit = 1 ∧ (run noFile ["packages", "tree.js"]).exit = 1 ∧
      (run noFile ["packages", "tree.js"]).stdout = "" := by
  obtain ⟨v, hr⟩ : ∃ v, Snapshot.read leafText = .ok v := ⟨_, rfl⟩
  obtain ⟨c, hl, types⟩ : ∃ c, (Snapshot.load {} v).outcome = .ok c ∧
      c.types = [Catalog.leaf] := by
    cases hr
    exact ⟨_, rfl, rfl⟩
  have provides (command : Command) (json : Bool) :
      Provides (oneFile leafText) ⟨none, 0, json, "tree.js", command⟩ c :=
    ⟨{}, leafText, v, settingsOf_eq_default rfl rfl, rfl, hr, hl⟩
  have found : (QualifiedName.parse? "tree.Leaf").bind c.find? = some Catalog.leaf := by
    rw [Catalog.bind_parse?_eq_some_iff, types]
    exact ⟨List.mem_singleton_self _, by decide⟩
  have check : Invocation.ofArguments ["check", "tree.js"] =
      .ok ⟨none, 0, false, "tree.js", .check⟩ := rfl
  have listing : Invocation.ofArguments ["types", "tree.js", "--kind", "Class", "--json"] =
      .ok ⟨none, 0, true, "tree.js", .types none (some .plainClass)⟩ := rfl
  have question : Invocation.ofArguments ["show", "tree.js", "tree.Leaf"] =
      .ok ⟨none, 0, false, "tree.js", .describe "tree.Leaf"⟩ := rfl
  have packages : Invocation.ofArguments ["packages", "tree.js"] =
      .ok ⟨none, 0, false, "tree.js", .packages⟩ := rfl
  have unusable : ¬ Usable noFile ⟨none, 0, false, "tree.js", .packages⟩ := by
    rintro ⟨c, settings, text, v, -, ht, -⟩
    cases ht
  obtain ⟨whole, single⟩ := commands_agree (oneFile leafText)
  obtain ⟨checked, -, -, same⟩ := whole _ _ check nofun
  have exit : (run (oneFile leafText) ["check", "tree.js"]).exit = 0 :=
    checked.mpr ⟨c, provides _ _⟩
  obtain ⟨-, refused, silent, same'⟩ := (commands_agree noFile).1 _ _ packages nofun
  have exit' : (run noFile ["packages", "tree.js"]).exit = 1 := refused.mpr unusable
  exact ⟨exit, (same _ _ listing nofun rfl rfl).symm.trans exit,
    (single _ _ _ question rfl).1.mpr ⟨c, provides _ _, _, found⟩,
    (same' _ _ check nofun rfl rfl).symm.trans exit', exit', silent nofun exit'⟩

end TypeCatalog.Inspect
