import TypeCatalog.Json.Reader
import TypeCatalog.Text.Position

/-! # Runs of the JSON reader

`Passes` says that a text takes the reader from one state to another; a text is read as a value
iff it takes the reader from the start to a state that ends with this value
(`parseWithin_eq_ok_iff`).  A number does not show where it ends, so behind a value the reader may
still be inside a number; `Completes` covers both cases, and in front of a character that may
follow a value they do not differ (`Completes.step_eq`). -/

namespace TypeCatalog.Json.Reader

variable {limit : Nat}

/-! ### Texts between states -/

/-- The text takes the reader from the first state to the second. -/
inductive Passes (limit : Nat) : State → List Char → State → Prop
  | nil (s : State) : Passes limit s [] s
  | cons {s s' t : State} {c : Char} {cs : List Char} :
      step limit s c = .ok s' → Passes limit s' cs t → Passes limit s (c :: cs) t

theorem Passes.append {s t u : State} {a b : List Char} (h₁ : Passes limit s a t)
    (h₂ : Passes limit t b u) : Passes limit s (a ++ b) u := by
  induction h₁ with
  | nil s => exact h₂
  | cons hs _ ih => exact .cons hs (ih h₂)

theorem Passes.single {s t : State} {c : Char} (h : step limit s c = .ok t) :
    Passes limit s [c] t := .cons h (.nil t)

/-- A text in two parts is passed by way of a state between them. -/
theorem Passes.exists_of_append {s u : State} {a b : List Char}
    (h : Passes limit s (a ++ b) u) : ∃ t, Passes limit s a t ∧ Passes limit t b u := by
  induction a generalizing s with
  | nil => exact ⟨s, .nil s, h⟩
  | cons c cs ih =>
      cases h with
      | cons hs hr =>
          obtain ⟨t, h₁, h₂⟩ := ih hr
          exact ⟨t, .cons hs h₁, h₂⟩

theorem run_eq_ok_iff {s t : State} {offset offset' : Nat} {text : List Char} :
    run limit s offset text = .ok (t, offset') ↔
      Passes limit s text t ∧ offset' = offset + Text.byteLength text := by
  induction text generalizing s offset with
  | nil =>
      rw [run, Except.ok.injEq, Prod.mk.injEq]
      constructor
      · rintro ⟨rfl, rfl⟩
        exact ⟨.nil s, rfl⟩
      · rintro ⟨⟨⟩, rfl⟩
        exact ⟨rfl, rfl⟩
  | cons c cs ih =>
      rw [run]
      cases hs : step limit s c with
      | ok s' =>
          simp only [ih, Text.byteLength, Nat.add_assoc]
          refine and_congr_left fun _ => ⟨fun h => .cons hs h, fun h => ?_⟩
          cases h with
          | cons hs' hr =>
              rw [hs] at hs'
              cases hs'
              exact hr
      | error r =>
          refine iff_of_false (by simp) ?_
          rintro ⟨h, -⟩
          cases h with
          | cons hs' hr =>
              rw [hs] at hs'
              cases hs'

theorem Passes.run_eq {s t : State} {text : List Char} (h : Passes limit s text t)
    (offset : Nat) : run limit s offset text = .ok (t, offset + Text.byteLength text) :=
  run_eq_ok_iff.mpr ⟨h, rfl⟩

theorem parseWithin_eq_ok_iff {text : List Char} {v : Json} :
    parseWithin limit text = .ok v ↔
      ∃ s, Passes limit .start text s ∧ finish s = .ok v := by
  unfold parseWithin
  cases hr : run limit .start 0 text with
  | error fault =>
      refine iff_of_false (by simp) ?_
      rintro ⟨s, hp, -⟩
      rw [hp.run_eq] at hr
      cases hr
  | ok p =>
      obtain ⟨s, offset⟩ := p
      have hp := (run_eq_ok_iff.mp hr).1
      constructor
      · intro h
        refine ⟨s, hp, ?_⟩
        dsimp only at h
        split at h
        · rename_i hf
          cases h
          exact hf
        · cases h
      · rintro ⟨s', hp', hf⟩
        have e := hp'.run_eq 0
        rw [hr] at e
        cases e
        dsimp only
        rw [hf]

/-! ### Blanks -/

/-- In these modes blanks do not matter. -/
def SkipsBlanks : Mode → Prop
  | .value | .listStart | .listItem _ | .objectStart | .objectKey _ | .colon .. | .after _ => True
  | .key .. | .string _ | .numeral _ | .word .. => False

theorem step_blank {s : State} {c : Char} (hs : SkipsBlanks s.mode) (hc : isBlank c = true) :
    step limit s c = .ok s := by
  obtain ⟨mode, stack⟩ := s
  cases mode <;> simp_all [SkipsBlanks, step, stepAfter]

theorem passes_blanks {s : State} {text : List Char} (hs : SkipsBlanks s.mode)
    (h : ∀ c ∈ text, isBlank c = true) : Passes limit s text s := by
  induction text with
  | nil => exact .nil s
  | cons c cs ih =>
      rw [List.forall_mem_cons] at h
      exact .cons (step_blank hs h.1) (ih h.2)

/-! ### Behind a value -/

/-- A character that may stand directly behind a value. -/
def Follows (c : Char) : Prop := isBlank c = true ∨ c = ',' ∨ c = ']' ∨ c = '}'

instance : DecidablePred Follows := fun c =>
  inferInstanceAs (Decidable (isBlank c = true ∨ c = ',' ∨ c = ']' ∨ c = '}'))

theorem follows_of_closing {c : Char} (h : c = '}' ∨ c = ']') : Follows c := by
  rcases h with rfl | rfl <;> decide

theorem follows_of_stepAfter {place : Place} {stack : List Frame} {c : Char} {s : State}
    (h : stepAfter place stack c = .ok s) : Follows c := by
  unfold stepAfter at h
  split at h
  · rename_i blank
    exact .inl blank
  cases place with
  | whole => cases h
  | inList =>
      dsimp only at h
      split at h
      · rename_i comma
        exact .inr (.inl comma)
      · split at h
        · rename_i bracket
          exact .inr (.inr (.inl bracket))
        · cases h
  | inObject =>
      dsimp only at h
      split at h
      · rename_i comma
        exact .inr (.inl comma)
      · split at h
        · rename_i brace
          exact .inr (.inr (.inr brace))
        · cases h

/-- The reader has read all of a value that stands on the stack. -/
inductive Completes (v : Json) (stack : List Frame) : State → Prop
  | behind : Completes v stack (behind v stack)
  | numeral {n : Numeral} (ends : ∀ c, Follows c → n.step c = .ok none)
      (finished : n.finish = .ok v) : Completes v stack ⟨.numeral n, stack⟩

theorem Completes.step_eq {v : Json} {stack : List Frame} {s : State} {c : Char}
    (h : Completes v stack s) (hc : Follows c) :
    step limit s c = step limit (Reader.behind v stack) c := by
  cases h with
  | behind => rfl
  | numeral ends finished => simp [step, Reader.behind, ends c hc, finished]

theorem Completes.finish_eq {v : Json} {stack : List Frame} {s : State}
    (h : Completes v stack s) : finish s = finish (Reader.behind v stack) := by
  cases h with
  | behind => rfl
  | numeral ends finished => simp [finish, Reader.behind, finished]

theorem Completes.mode_ne_value {v : Json} {stack : List Frame} {s : State}
    (h : Completes v stack s) : s.mode ≠ .value := by
  cases h with
  | behind => exact nofun
  | numeral => exact nofun

/-! ### Elements of lists -/

theorem step_listItem {done : List Json} {stack : List Frame} {c : Char} {s : State}
    (hb : isBlank c = false) (h : startValue limit (.list done :: stack) c = .ok s) :
    step limit ⟨.listItem done, stack⟩ c = .ok s := by
  have hc : c ≠ ']' := by
    rintro rfl
    cases h
  simp [step, hb, hc, h]

theorem step_listStart {stack : List Frame} {c : Char} {s : State} (hb : isBlank c = false)
    (h : startValue limit (.list [] :: stack) c = .ok s) :
    step limit ⟨.listStart, stack⟩ c = .ok s := by
  have hc : c ≠ ']' := by
    rintro rfl
    cases h
  simp [step, hb, hc, h]

/-- A text with a value is read in a list as it is read anywhere: `mode` is the place in front of
an element, and `done` are the elements before it. -/
theorem passes_element {mode : Mode} {done : List Json} {stack : List Frame} {text : List Char}
    {s : State} (hm : mode = .listItem done ∨ mode = .listStart ∧ done = [])
    (h : Passes limit ⟨.value, .list done :: stack⟩ text s) (hs : s.mode ≠ .value) :
    Passes limit ⟨mode, stack⟩ text s := by
  induction text with
  | nil =>
      cases h
      exact absurd rfl hs
  | cons c cs ih =>
      cases h with
      | @cons _ s' _ _ _ hstep hr =>
          -- blanks in front of the value leave the place in the list as it is
          cases hb : isBlank c with
          | true =>
              have value : SkipsBlanks (.value : Mode) := trivial
              rw [step_blank value hb] at hstep
              cases hstep
              refine .cons (step_blank ?_ hb) (ih hr)
              rcases hm with rfl | ⟨rfl, -⟩ <;> trivial
          | false =>
              have hstep : startValue limit (.list done :: stack) c = .ok s' := by
                simpa [step, hb] using hstep
              rcases hm with rfl | ⟨rfl, rfl⟩
              · exact .cons (step_listItem hb hstep) hr
              · exact .cons (step_listStart hb hstep) hr

end TypeCatalog.Json.Reader
