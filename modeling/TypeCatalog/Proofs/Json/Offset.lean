import TypeCatalog.Proofs.Json.Run

/-! # Offsets of faults

The offset in a fault is counted from the first character of the text, and nothing else in a run
depends on it (`run_add`).  Blanks in front of a text leave the reader where it is, so that they
only move the offset of the fault (`parseWithin_append_of_blank`).  A character is refused before
the reader has looked behind it, so the reader stops inside the text
(`offset_le_of_parseWithin`). -/

namespace TypeCatalog.Json

/-- The fault that stands further behind by some bytes. -/
def Fault.moved (bytes : Nat) (fault : Fault) : Fault :=
  { fault with offset := bytes + fault.offset }

namespace Reader

variable {limit : Nat}

theorem run_add (s : State) (bytes offset : Nat) (text : List Char) :
    run limit s (bytes + offset) text =
      match run limit s offset text with
      | .ok (t, offset') => .ok (t, bytes + offset')
      | .error fault => .error (fault.moved bytes) := by
  induction text generalizing s offset with
  | nil => rfl
  | cons c cs ih =>
      simp only [run]
      cases step limit s c with
      | ok t =>
          dsimp only
          rw [Nat.add_assoc, ih]
      | error refusal => simp only [Fault.moved, Nat.add_assoc]

theorem Passes.run_append {s t : State} {front : List Char} (h : Passes limit s front t)
    (offset : Nat) (text : List Char) :
    run limit s offset (front ++ text) = run limit t (offset + Text.byteLength front) text := by
  induction h generalizing offset with
  | nil s => rfl
  | cons hs _ ih =>
      rw [List.cons_append, run, hs, Text.byteLength, ← Nat.add_assoc]
      exact ih _

end Reader

open Reader

/-- **Blanks in front of a text move its fault.** -/
theorem parseWithin_append_of_blank {limit : Nat} {gap : List Char}
    (h : ∀ c ∈ gap, Reader.isBlank c = true) (text : List Char) :
    parseWithin limit (gap ++ text) =
      (parseWithin limit text).mapError (Fault.moved (Text.byteLength gap)) := by
  have hp : Passes limit .start gap .start := passes_blanks trivial h
  rw [parseWithin, parseWithin, hp.run_append, Nat.zero_add,
    ← Nat.add_zero (Text.byteLength gap), run_add]
  cases run limit .start 0 text with
  | error fault => rfl
  | ok reached =>
      obtain ⟨t, offset⟩ := reached
      dsimp only
      cases finish t with
      | ok v => rfl
      | error cause => rfl

/-! ### Offsets inside the text -/

theorem StringLiteral.ahead_le_of_step {l : StringLiteral} {c : Char} {r : Refusal}
    (h : l.step c = .error r) : r.ahead ≤ c.utf8Size := by
  have one : 1 ≤ c.utf8Size := c.utf8Size_pos
  unfold step at h
  split at h
  · repeat' split at h
    all_goals cases h
    exact one
  · repeat' split at h
    all_goals cases h
    exact one
  · -- four bytes were taken with this character and fewer before it
    dsimp only at h
    repeat' split at h
    all_goals cases h
    all_goals
      dsimp only
      omega
  · split at h <;> cases h
    exact one
  · split at h <;> cases h
    exact one

namespace Reader

variable {limit : Nat}

theorem ahead_le_of_startValue {stack : List Frame} {c : Char} {r : Refusal}
    (h : startValue limit stack c = .error r) : r.ahead ≤ c.utf8Size := by
  have one : 1 ≤ c.utf8Size := c.utf8Size_pos
  unfold startValue at h
  repeat' split at h
  all_goals cases h
  all_goals exact one

theorem ahead_le_of_stepAfter {place : Place} {stack : List Frame} {c : Char} {r : Refusal}
    (h : stepAfter place stack c = .error r) : r.ahead ≤ c.utf8Size := by
  have one : 1 ≤ c.utf8Size := c.utf8Size_pos
  unfold stepAfter at h
  repeat' split at h
  all_goals cases h
  all_goals exact one

/-- A character is refused before the reader has looked behind it. -/
theorem ahead_le_of_step {s : State} {c : Char} {r : Refusal} (h : step limit s c = .error r) :
    r.ahead ≤ c.utf8Size := by
  have one : 1 ≤ c.utf8Size := c.utf8Size_pos
  obtain ⟨mode, stack⟩ := s
  cases mode with
  | value =>
      simp only [step] at h
      split at h
      · cases h
      · exact ahead_le_of_startValue h
  | listStart =>
      simp only [step] at h
      repeat' split at h
      · cases h
      · cases h
      · exact ahead_le_of_startValue h
  | listItem =>
      simp only [step] at h
      repeat' split at h
      · cases h
      · cases h
        exact one
      · exact ahead_le_of_startValue h
  | objectStart | objectKey | colon =>
      simp only [step] at h
      repeat' split at h
      all_goals cases h
      all_goals exact one
  | key _ l | string l =>
      cases hl : l.step c with
      | error refusal =>
          simp only [step, hl] at h
          cases h
          exact StringLiteral.ahead_le_of_step hl
      | ok outcome =>
          simp only [step, hl] at h
          cases h
  | numeral n =>
      simp only [step] at h
      repeat' split at h
      · cases h
        exact one
      · cases h
      · cases h
        exact Nat.zero_le _
      · exact ahead_le_of_stepAfter h
  | word =>
      simp only [step] at h
      repeat' split at h
      all_goals cases h
      exact one
  | after =>
      simp only [step] at h
      exact ahead_le_of_stepAfter h

theorem offset_le_of_run {s : State} {offset : Nat} {text : List Char} {fault : Fault}
    (h : run limit s offset text = .error fault) :
    fault.offset ≤ offset + Text.byteLength text := by
  induction text generalizing s offset with
  | nil => cases h
  | cons c cs ih =>
      rw [run] at h
      rw [Text.byteLength, ← Nat.add_assoc]
      cases hs : step limit s c with
      | ok t =>
          rw [hs] at h
          exact ih h
      | error r =>
          rw [hs] at h
          cases h
          exact Nat.le_add_right_of_le (Nat.add_le_add_left (ahead_le_of_step hs) offset)

end Reader

/-- **The reader stops inside the text.** -/
theorem offset_le_of_parseWithin {limit : Nat} {text : List Char} {fault : Fault}
    (h : parseWithin limit text = .error fault) : fault.offset ≤ Text.byteLength text := by
  rw [parseWithin] at h
  cases hr : run limit .start 0 text with
  | error fault' =>
      rw [hr] at h
      cases h
      rw [← Nat.zero_add (Text.byteLength text)]
      exact offset_le_of_run hr
  | ok reached =>
      obtain ⟨t, offset⟩ := reached
      obtain ⟨-, whole⟩ := run_eq_ok_iff.mp hr
      rw [hr] at h
      dsimp only at h
      split at h
      · cases h
      · cases h
        exact Nat.le_of_eq (whole.trans (Nat.zero_add _))

end TypeCatalog.Json
