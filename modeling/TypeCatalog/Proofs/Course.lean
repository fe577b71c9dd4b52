import TypeCatalog.Snapshot.Traced

/-! # Two computations that take the same course

`Matches R x y` says that `x` and `y` note the same events and end with the same error or with
results that `R` relates.  Composition keeps this (`Matches.bind`), so two runs of a chain of
checks can be compared check by check; with equality as the relation the two runs are the same
(`Matches.eq`). -/

namespace TypeCatalog.Traced

variable {ω ε α α' β β' : Type}

/-- The same events, and then the same error or related results. -/
inductive Matches (R : α → α' → Prop) : Traced ω ε α → Traced ω ε α' → Prop
  | result (events : List ω) {a : α} {a' : α'} (related : R a a') :
      Matches R ⟨events, .ok a⟩ ⟨events, .ok a'⟩
  | failure (events : List ω) (e : ε) : Matches R ⟨events, .error e⟩ ⟨events, .error e⟩

theorem matches_self (x : Traced ω ε α) : Matches Eq x x := by
  obtain ⟨events, outcome⟩ := x
  cases outcome with
  | ok a => exact .result events rfl
  | error e => exact .failure events e

theorem Matches.eq {x y : Traced ω ε α} (h : Matches Eq x y) : x = y := by
  cases h with
  | result events related => rw [related]
  | failure events e => rfl

/-- What follows is compared under the assumption that the results so far are related. -/
theorem Matches.bind {R : α → α' → Prop} {S : β → β' → Prop} {x : Traced ω ε α}
    {x' : Traced ω ε α'} {f : α → Traced ω ε β} {f' : α' → Traced ω ε β'} (h : Matches R x x')
    (hf : ∀ a a', R a a' → Matches S (f a) (f' a')) : Matches S (x >>= f) (x' >>= f') := by
  cases h with
  | @result events a a' related =>
      rw [bind_of_ok rfl, bind_of_ok rfl]
      generalize hy : f a = y
      generalize hy' : f' a' = y'
      have next : Matches S y y' := hy ▸ hy' ▸ hf a a' related
      cases next with
      | result later related => exact .result (events ++ later) related
      | failure later e => exact .failure (events ++ later) e
  | failure events e =>
      rw [bind_of_error rfl, bind_of_error rfl]
      exact .failure events e

end TypeCatalog.Traced
