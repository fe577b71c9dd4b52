import TypeCatalog.Proofs.Json.Outside

/-! # Blanks between the parts of a text

Between the parts of a JSON text the reader passes blanks and stays where it is.  Behind the last
digit of a number it is still inside the number; in front of a blank, a comma or a closing bracket
it might as well be behind it (`Settles`).  So it does not matter how many blanks stand there
(`passes_gap_iff`). -/

namespace TypeCatalog.Json

/-- A number that ends in front of some character ends in front of all that no number has. -/
theorem Numeral.step_eq_none {n : Numeral} {c d : Char} (h : n.step c = .ok none)
    (hd : digit? d = none) (hm : d ∉ marks) : n.step d = .ok none := by
  have whole : n.afterWhole d = none := afterWhole_eq_none hm
  have fraction : n.afterFraction d = none := by
    simp only [marks, List.mem_cons, List.not_mem_nil, or_false, not_or] at hm
    simp [afterFraction, hm.2.1, hm.2.2.1]
  cases hp : n.phase with
  | sign | point | exponentSign =>
      -- the number is not complete here, so it ends in front of no character
      cases hc : digit? c <;> simp only [step, hp, hc] at h <;> cases h
  | mark =>
      cases hc : digit? c <;> simp only [step, hp, hc] at h
      · split at h
        · cases h
        · split at h <;> cases h
      · cases h
  | zero | whole | wholeExcess => simp [step, hp, hd, whole]
  | fraction | fractionExcess => simp [step, hp, hd, fraction]
  | exponent | exponentExcess => simp [step, hp, hd]

namespace Reader

variable {limit : Nat}

/-! ### Settled states -/

/-- The second state passes blanks, and in front of what may follow a value the two are the same:
they are equal, or the first one has just read a value that the second one is behind. -/
inductive Settles : State → State → Prop
  | same {s : State} : SkipsBlanks s.mode → Settles s s
  | completed {s : State} {v : Json} {stack : List Frame} : Completes v stack s →
      Settles s (behind v stack)

theorem Settles.skipsBlanks {s t : State} (h : Settles s t) : SkipsBlanks t.mode := by
  cases h with
  | same h => exact h
  | completed _ => trivial

theorem Settles.step_eq {s t : State} {c : Char} (h : Settles s t) (hc : Follows c) :
    step limit s c = step limit t c := by
  cases h with
  | same _ => rfl
  | completed h => exact h.step_eq hc

theorem Settles.finish_eq {s t : State} (h : Settles s t) : finish s = finish t := by
  cases h with
  | same _ => rfl
  | completed h => exact h.finish_eq

theorem exists_settles {s s' : State} {c : Char} (ho : Outside s.mode) (hc : Follows c)
    (hs : step limit s c = .ok s') : ∃ t, Settles s t := by
  obtain ⟨mode, stack⟩ := s
  cases mode with
  | key | string => exact ho.elim
  | word =>
      have foreign : c.isAlpha = false := by
        rcases hc with h | rfl | rfl | rfl
        · simp only [isBlank, Bool.or_eq_true, beq_iff_eq] at h
          rcases h with ((rfl | rfl) | rfl) | rfl <;> rfl
        all_goals rfl
      rw [(step_word ho hs).1] at foreign
      cases foreign
  | numeral n =>
      obtain ⟨hd, hm⟩ := foreign_of_follows hc
      simp only [step] at hs
      split at hs
      · cases hs
      · rename_i hn
        exact absurd hn (Numeral.step_ne_some hd hm)
      · rename_i hn
        split at hs
        · cases hs
        · rename_i v hv
          refine ⟨_, .completed (.numeral (fun d hd => ?_) hv)⟩
          exact Numeral.step_eq_none hn (foreign_of_follows hd).1 (foreign_of_follows hd).2
  | value | listStart | listItem | objectStart | objectKey | colon | after =>
      exact ⟨_, .same trivial⟩

/-! ### Any number of blanks -/

theorem passes_blanks_append_iff {s t : State} {gap text : List Char} (hs : SkipsBlanks s.mode)
    (hg : ∀ c ∈ gap, isBlank c = true) :
    Passes limit s (gap ++ text) t ↔ Passes limit s text t := by
  induction gap with
  | nil => rfl
  | cons c cs ih =>
      rw [List.forall_mem_cons] at hg
      rw [← ih hg.2, List.cons_append]
      constructor
      · intro hp
        cases hp with
        | cons hstep hr =>
            rw [step_blank hs hg.1] at hstep
            cases hstep
            exact hr
      · exact .cons (step_blank hs hg.1)

theorem Settles.passes_iff {s t u : State} {c : Char} {cs : List Char} (h : Settles s t)
    (hc : Follows c) : Passes limit s (c :: cs) u ↔ Passes limit t (c :: cs) u := by
  constructor
  · intro hp
    cases hp with
    | cons hstep hr => exact .cons ((h.step_eq hc).symm.trans hstep) hr
  · intro hp
    cases hp with
    | cons hstep hr => exact .cons ((h.step_eq hc).trans hstep) hr

theorem Settles.passes_gap_iff {s t u : State} {gap rest : List Char} {c : Char}
    (h : Settles s t) (hg : ∀ b ∈ gap, isBlank b = true) (hc : Follows c) :
    Passes limit s (gap ++ c :: rest) u ↔ Passes limit t (c :: rest) u := by
  rw [← passes_blanks_append_iff h.skipsBlanks hg]
  cases gap with
  | nil => exact h.passes_iff hc
  | cons b bs => exact h.passes_iff (.inl (hg b (List.mem_cons_self ..)))

theorem exists_settles_of_passes {s u : State} {gap rest : List Char} {c : Char}
    (ho : Outside s.mode) (hg : ∀ b ∈ gap, isBlank b = true) (hc : Follows c)
    (hp : Passes limit s (gap ++ c :: rest) u) : ∃ t, Settles s t := by
  cases gap with
  | nil =>
      cases hp with
      | cons hs _ => exact exists_settles ho hc hs
  | cons b bs =>
      cases hp with
      | cons hs _ => exact exists_settles ho (.inl (hg b (List.mem_cons_self ..))) hs

/-- In front of what may follow a value, it does not matter how many blanks there are. -/
theorem passes_gap_iff {s u : State} {gap gap' rest : List Char} {c : Char} (ho : Outside s.mode)
    (hg : ∀ b ∈ gap, isBlank b = true) (hg' : ∀ b ∈ gap', isBlank b = true) (hc : Follows c) :
    Passes limit s (gap ++ c :: rest) u ↔ Passes limit s (gap' ++ c :: rest) u := by
  constructor
  · intro hp
    obtain ⟨t, ht⟩ := exists_settles_of_passes ho hg hc hp
    exact (ht.passes_gap_iff hg' hc).mpr ((ht.passes_gap_iff hg hc).mp hp)
  · intro hp
    obtain ⟨t, ht⟩ := exists_settles_of_passes ho hg' hc hp
    exact (ht.passes_gap_iff hg hc).mpr ((ht.passes_gap_iff hg' hc).mp hp)

theorem finish_eq_of_passes_blanks {s t : State} {gap : List Char} (ho : Outside s.mode)
    (hg : ∀ c ∈ gap, isBlank c = true) (hp : Passes limit s gap t) : finish s = finish t := by
  cases gap with
  | nil =>
      cases hp
      rfl
  | cons b bs =>
      have blank : isBlank b = true := hg b (List.mem_cons_self ..)
      have hp' := hp
      cases hp' with
      | cons hs _ =>
          obtain ⟨s', h⟩ := exists_settles ho (.inl blank) hs
          have hr := (h.passes_iff (.inl blank)).mp hp
          rw [← List.append_nil (b :: bs), passes_blanks_append_iff h.skipsBlanks hg] at hr
          cases hr
          exact h.finish_eq

end Reader
end TypeCatalog.Json
