import TypeCatalog.Inspect.Run
import TypeCatalog.Proofs.Outcome

/-! # From the files of a run to its answer

A run that finds a catalog answers the command from it and from nothing else
(`Finds.run_eq`); what it finds is the catalog that its file loads to under its settings
(`catalogOf_eq_ok_iff`). -/

namespace TypeCatalog.Inspect

/-! ### The settings -/

theorem settingsOf_eq_default {s : Surroundings} {i : Invocation} (hi : i.config = none)
    (hs : s.environment = []) : settingsOf s i = .ok {} := by
  rw [settingsOf, hi, hs]
  rfl

/-! ### The file -/

theorem fromUTF8?_eq_some_iff {content : ByteArray} {text : String} :
    String.fromUTF8? content = some text ↔ content = text.toUTF8 := by
  rw [String.fromUTF8?]
  constructor
  · intro h
    split at h
    · cases h
      rfl
    · cases h
  · rintro rfl
    have valid : text.toUTF8.IsValidUTF8 := text.isValidUTF8
    rw [dif_pos valid]
    rfl

theorem textOf_eq_ok_iff {s : Surroundings} {path text : String} :
    textOf s path = .ok text ↔ s.read path = .ok text.toUTF8 := by
  unfold textOf
  cases s.read path with
  | error e => exact iff_of_false nofun nofun
  | ok content =>
      dsimp only
      rw [Except.ok.injEq, ← fromUTF8?_eq_some_iff]
      cases String.fromUTF8? content with
      | none => exact iff_of_false nofun nofun
      | some text' => rw [Except.ok.injEq, Option.some.injEq]

/-- The file holds a text, the text a value, and the value loads to the catalog. -/
theorem catalogOf_eq_ok_iff {s : Surroundings} {settings : Settings} {path : String}
    {c : Catalog} :
    (catalogOf s settings path).outcome = .ok c ↔ ∃ text v, s.read path = .ok text.toUTF8 ∧
      Snapshot.read text = .ok v ∧ (Snapshot.load settings v).outcome = .ok c := by
  simp only [catalogOf, Traced.outcome_bind, Traced.outcome_lift, Traced.outcome_note,
    Traced.mapBoth, bind_eq_ok_iff, mapError_eq_ok_iff, textOf_eq_ok_iff]
  constructor
  · rintro ⟨text, ht, -, -, v, hv, hc⟩
    exact ⟨text, v, ht, hv, hc⟩
  · rintro ⟨text, v, ht, hv, hc⟩
    exact ⟨text, ht, (), trivial, v, hv, hc⟩

/-! ### The answer -/

/-- How an invocation reports. -/
def mannerOf (s : Surroundings) (i : Invocation) : Manner :=
  ⟨i.json, wantsColour s.environment s.terminal⟩

theorem outcome_perform (s : Surroundings) (i : Invocation) :
    (perform s i).outcome = settingsOf s i >>= fun settings =>
      (execute s (mannerOf s i) settings i.path i.command).outcome := by
  simp only [perform, Traced.outcome_bind, Traced.outcome_lift, Traced.outcome_note]
  rfl

theorem outcome_execute_of_ok {s : Surroundings} {settings : Settings} {path : String}
    {c : Catalog} (h : (catalogOf s settings path).outcome = .ok c) (m : Manner)
    (command : Command) :
    (execute s m settings path command).outcome = answer m path c command := by
  simp only [execute, h]

/-- The invocation has usable settings, and under these its file loads to the catalog. -/
def Finds (s : Surroundings) (i : Invocation) (c : Catalog) : Prop :=
  ∃ settings, settingsOf s i = .ok settings ∧ (catalogOf s settings i.path).outcome = .ok c

theorem Finds.outcome_perform {s : Surroundings} {i : Invocation} {c : Catalog}
    (h : Finds s i c) : (perform s i).outcome = answer (mannerOf s i) i.path c i.command := by
  obtain ⟨settings, hs, hc⟩ := h
  rw [Inspect.outcome_perform, hs, ← outcome_execute_of_ok hc]
  rfl

theorem runInvocation_of_ok {s : Surroundings} {i : Invocation} {exit : Nat} {report : String}
    (h : (perform s i).outcome = .ok (exit, report)) :
    (runInvocation s i).exit = exit ∧ (runInvocation s i).stdout = report := by
  simp only [runInvocation, h, and_self]

theorem runInvocation_of_error {s : Surroundings} {i : Invocation} {e : RunError}
    (h : (perform s i).outcome = .error e) :
    (runInvocation s i).exit = 1 ∧ (runInvocation s i).stdout = "" := by
  simp only [runInvocation, h, and_self]

theorem Finds.run_eq {s : Surroundings} {i : Invocation} {c : Catalog} {exit : Nat}
    {report : String} (h : Finds s i c)
    (ha : answer (mannerOf s i) i.path c i.command = .ok (exit, report)) :
    (runInvocation s i).exit = exit ∧ (runInvocation s i).stdout = report :=
  runInvocation_of_ok (h.outcome_perform.trans ha)

theorem Finds.run_eq_of_error {s : Surroundings} {i : Invocation} {c : Catalog} {e : RunError}
    (h : Finds s i c) (ha : answer (mannerOf s i) i.path c i.command = .error e) :
    (runInvocation s i).exit = 1 ∧ (runInvocation s i).stdout = "" :=
  runInvocation_of_error (h.outcome_perform.trans ha)

theorem run_of_ofArguments {s : Surroundings} {args : List String} {i : Invocation}
    (h : Invocation.ofArguments args = .ok i) : run s args = runInvocation s i := by
  rw [run, h]

/-- Surroundings with one file, whatever its path, and nothing else. -/
def oneFile (text : String) : Surroundings where
  files _ := ⟨.ok text.toUTF8, true⟩
  environment := []
  terminal := false

end TypeCatalog.Inspect
