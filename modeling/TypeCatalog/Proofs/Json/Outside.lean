import TypeCatalog.Proofs.Json.Numeral
import TypeCatalog.Proofs.Json.StringLiteral

/-! # The reader outside strings

What the reader does with quotes, commas and other characters while it is not inside a string:
a quote opens one, a comma is taken between the parts of a container only, and an equals sign is
never taken. -/

namespace TypeCatalog.Json.Reader

variable {limit : Nat}

/-! ### Modes outside strings -/

/-- The reader is not inside a string, and if it is inside a word then before letters. -/
def Outside : Mode → Prop
  | .key .. | .string _ => False
  | .word next rest _ => ∀ c ∈ next :: rest, c.isAlpha = true
  | _ => True

/-- The reader is behind a comma. -/
def BehindComma : Mode → Prop
  | .listItem _ | .objectKey _ => True
  | _ => False

/-- In a number, the next character belongs to the number or stands behind a value. -/
theorem step_numeral_cases {n : Numeral} {stack : List Frame} {c : Char} {s : State}
    (h : step limit ⟨.numeral n, stack⟩ c = .ok s) :
    (∃ n', n.step c = .ok (some n') ∧ s = ⟨.numeral n', stack⟩) ∨
      ∃ place stack', stepAfter place stack' c = .ok s := by
  simp only [step] at h
  split at h
  · cases h
  · rename_i n' hn
    cases h
    exact .inl ⟨n', hn, rfl⟩
  · split at h
    · cases h
    · exact .inr ⟨_, _, h⟩

theorem exists_stepAfter_of_numeral {n : Numeral} {stack : List Frame} {c : Char} {s : State}
    (hd : Numeral.digit? c = none) (hm : c ∉ Numeral.marks)
    (h : step limit ⟨.numeral n, stack⟩ c = .ok s) :
    ∃ place stack', stepAfter place stack' c = .ok s := by
  rcases step_numeral_cases h with ⟨n', hn, -⟩ | ha
  · exact absurd hn (Numeral.step_ne_some hd hm)
  · exact ha

theorem step_string_cases {place : StringPlace} {l : StringLiteral} {stack : List Frame}
    {c : Char} {s : State} (h : step limit ⟨place.mode l, stack⟩ c = .ok s) :
    (∃ l', l.step c = .ok (.more l') ∧ s = ⟨place.mode l', stack⟩) ∨
      ∃ text, l.step c = .ok (.closed text) ∧ Outside s.mode := by
  cases hl : l.step c with
  | error r => cases place <;> simp [step, StringPlace.mode, hl, Except.map] at h
  | ok o =>
      cases o with
      | more l' =>
          rw [step_string hl] at h
          cases h
          exact .inl ⟨l', rfl, rfl⟩
      | closed text =>
          refine .inr ⟨text, rfl, ?_⟩
          cases place <;> simp only [step, StringPlace.mode, hl, Except.map] at h <;> cases h <;>
            trivial

theorem step_word {next : Char} {rest : List Char} {v : Json} {stack : List Frame} {c : Char}
    {s : State} (h : Outside (.word next rest v))
    (hs : step limit ⟨.word next rest v, stack⟩ c = .ok s) : c.isAlpha = true ∧ Outside s.mode := by
  by_cases hc : c = next
  · refine ⟨h c (hc ▸ List.mem_cons_self ..), ?_⟩
    simp only [step, if_pos hc] at hs
    cases rest with
    | nil =>
        cases hs
        trivial
    | cons d rest =>
        cases hs
        exact fun x hx => h x (List.mem_cons_of_mem _ hx)
  · simp only [step, if_neg hc] at hs
    cases hs

/-! ### Quotes, commas and equals signs -/

theorem step_quote {s s' : State} (h : Outside s.mode) (hs : step limit s '"' = .ok s') :
    ∃ place stack, s' = ⟨StringPlace.mode place .start, stack⟩ := by
  obtain ⟨mode, stack⟩ := s
  cases mode with
  | value | listStart | listItem =>
      cases hs
      exact ⟨.value, _, rfl⟩
  | objectStart | objectKey =>
      cases hs
      exact ⟨.key _, _, rfl⟩
  | key | string => exact h.elim
  | colon => cases hs
  | word => exact absurd (step_word h hs).1 (by decide)
  | after => exact absurd (follows_of_stepAfter hs) (by decide)
  | numeral n =>
      obtain ⟨place, stack', ha⟩ := exists_stepAfter_of_numeral rfl (by decide) hs
      exact absurd (follows_of_stepAfter ha) (by decide)

theorem step_comma {s s' : State} (h : Outside s.mode) (hs : step limit s ',' = .ok s') :
    BehindComma s'.mode := by
  obtain ⟨mode, stack⟩ := s
  have after : ∀ place stack', stepAfter place stack' ',' = .ok s' → BehindComma s'.mode := by
    intro place stack' ha
    cases place <;> cases ha <;> trivial
  cases mode with
  | value | listStart | listItem | objectStart | objectKey | colon => cases hs
  | key | string => exact h.elim
  | word => exact absurd (step_word h hs).1 (by decide)
  | after place => exact after place stack hs
  | numeral n =>
      obtain ⟨place, stack', ha⟩ := exists_stepAfter_of_numeral rfl (by decide) hs
      exact after place stack' ha

theorem step_equals {s s' : State} (h : Outside s.mode) : step limit s '=' ≠ .ok s' := by
  obtain ⟨mode, stack⟩ := s
  intro hs
  cases mode with
  | value | listStart | listItem | objectStart | objectKey | colon => cases hs
  | key | string => exact h.elim
  | word => exact absurd (step_word h hs).1 (by decide)
  | after => exact absurd (follows_of_stepAfter hs) (by decide)
  | numeral n =>
      obtain ⟨place, stack', ha⟩ := exists_stepAfter_of_numeral rfl (by decide) hs
      exact absurd (follows_of_stepAfter ha) (by decide)

/-! ### Other characters -/

theorem outside_of_startValue {stack : List Frame} {c : Char} {s : State} (hc : c ≠ '"')
    (h : startValue limit stack c = .ok s) : Outside s.mode := by
  unfold startValue at h
  split at h
  · exact absurd rfl hc
  · split at h <;> cases h
    trivial
  · split at h <;> cases h
    trivial
  · cases h
    exact List.all_eq_true.mp rfl
  · cases h
    exact List.all_eq_true.mp rfl
  · cases h
    exact List.all_eq_true.mp rfl
  · split at h <;> cases h
    trivial

theorem outside_of_stepAfter {place : Place} {stack : List Frame} {c : Char} {s : State}
    (h : stepAfter place stack c = .ok s) : Outside s.mode := by
  unfold stepAfter at h
  split at h
  · cases h
    trivial
  · cases place with
    | whole => cases h
    | inList | inObject =>
        dsimp only at h
        split at h
        · cases h
          trivial
        · split at h <;> cases h
          trivial

/-- Only a quote leads into a string. -/
theorem Outside.step {s s' : State} {c : Char} (h : Outside s.mode) (hc : c ≠ '"')
    (hs : step limit s c = .ok s') : Outside s'.mode := by
  obtain ⟨mode, stack⟩ := s
  cases mode with
  | value =>
      simp only [Reader.step] at hs
      split at hs
      · cases hs
        trivial
      · exact outside_of_startValue hc hs
  | listStart | listItem =>
      simp only [Reader.step] at hs
      split at hs
      · cases hs
        trivial
      · split at hs
        · cases hs <;> trivial
        · exact outside_of_startValue hc hs
  | objectStart | objectKey =>
      simp only [Reader.step, if_neg hc] at hs
      split at hs
      · cases hs
        trivial
      · split at hs <;> cases hs <;> trivial
  | colon =>
      simp only [Reader.step] at hs
      split at hs
      · cases hs
        trivial
      · split at hs <;> cases hs
        trivial
  | key | string => exact h.elim
  | word => exact (step_word h hs).2
  | after place => exact outside_of_stepAfter hs
  | numeral n =>
      rcases step_numeral_cases hs with ⟨n', -, rfl⟩ | ⟨place, stack', ha⟩
      · trivial
      · exact outside_of_stepAfter ha

end TypeCatalog.Json.Reader
