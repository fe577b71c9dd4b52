import TypeCatalog.Snapshot.Traced

/-! # Results and errors of composed checks

A check that runs after another one succeeds iff both do, and it fails with the error of the
first that fails.  `outcome_bind` carries this over to traced computations: the outcome of a
composition depends on the outcomes of its parts only, never on their events.  The events of a
composition are those of its first part where the rest notes nothing (`events_bind_of_silent`). -/

namespace TypeCatalog

section
variable {ε ε' α β : Type}

theorem bind_eq_ok_iff {x : Except ε α} {f : α → Except ε β} {b : β} :
    x >>= f = .ok b ↔ ∃ a, x = .ok a ∧ f a = .ok b := by
  cases x <;> simp [bind, Except.bind]

theorem bind_eq_error_iff {x : Except ε α} {f : α → Except ε β} {e : ε} :
    x >>= f = .error e ↔ x = .error e ∨ ∃ a, x = .ok a ∧ f a = .error e := by
  cases x <;> simp [bind, Except.bind]

theorem mapError_eq_ok_iff {x : Except ε α} {f : ε → ε'} {a : α} :
    x.mapError f = .ok a ↔ x = .ok a := by
  cases x with
  | ok a' =>
      show Except.ok a' = .ok a ↔ Except.ok a' = .ok a
      rw [Except.ok.injEq, Except.ok.injEq]
  | error e => exact iff_of_false nofun nofun

theorem mapError_eq_error_iff {x : Except ε α} {f : ε → ε'} {e' : ε'} :
    x.mapError f = .error e' ↔ ∃ e, x = .error e ∧ f e = e' := by
  cases x with
  | ok a => exact iff_of_false nofun nofun
  | error e =>
      show Except.error (f e) = .error e' ↔ _
      simp only [Except.error.injEq, exists_eq_left']

end

namespace Traced

variable {ω ε α β : Type}

theorem outcome_bind (x : Traced ω ε α) (f : α → Traced ω ε β) :
    (x >>= f).outcome = x.outcome >>= fun a => (f a).outcome := by
  cases h : x.outcome with
  | ok a =>
      rw [bind_of_ok h]
      rfl
  | error e =>
      rw [bind_of_error h]
      rfl

@[simp] theorem outcome_lift (x : Except ε α) : (lift x : Traced ω ε α).outcome = x := rfl

@[simp] theorem outcome_note (event : ω) : (note event : Traced ω ε Unit).outcome = .ok () := rfl

/-- A part that notes nothing does not show. -/
theorem events_bind_of_silent (x : Traced ω ε α) {f : α → Traced ω ε β}
    (h : ∀ a, (f a).events = []) : (x >>= f).events = x.events := by
  cases hx : x.outcome with
  | ok a => rw [bind_of_ok hx, h a, List.append_nil]
  | error e => rw [bind_of_error hx]

end Traced
end TypeCatalog
