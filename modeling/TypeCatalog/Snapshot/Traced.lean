/-!
# Computations that leave a trace

A traced computation notes events on its way and ends in a result or an error; the events noted
before an error are kept.
-/

namespace TypeCatalog

/-- Events in the order in which they were noted, and how the computation ended. -/
structure Traced (ω ε α : Type) where
  events : List ω
  outcome : Except ε α

namespace Traced

variable {ω ε α β : Type}

/-- Ends with a result. -/
protected def pure (a : α) : Traced ω ε α := ⟨[], .ok a⟩

/-- Goes on with the result of a computation, if it has one. -/
protected def bind (x : Traced ω ε α) (f : α → Traced ω ε β) : Traced ω ε β :=
  match x.outcome with
  | .ok a => ⟨x.events ++ (f a).events, (f a).outcome⟩
  | .error e => ⟨x.events, .error e⟩

instance : Monad (Traced ω ε) where
  pure := Traced.pure
  bind := Traced.bind

/-- Notes an event. -/
def note (event : ω) : Traced ω ε Unit := ⟨[event], .ok ()⟩

/-- A computation without events. -/
def lift (outcome : Except ε α) : Traced ω ε α := ⟨[], outcome⟩

/-- The same computation with other events and other errors. -/
def mapBoth {ω' ε' : Type} (event : ω → ω') (error : ε → ε') (x : Traced ω ε α) :
    Traced ω' ε' α :=
  ⟨x.events.map event, x.outcome.mapError error⟩

@[simp] theorem events_pure (a : α) : (pure a : Traced ω ε α).events = [] := rfl

@[simp] theorem outcome_pure (a : α) : (pure a : Traced ω ε α).outcome = .ok a := rfl

theorem bind_of_ok {x : Traced ω ε α} {a : α} (h : x.outcome = .ok a) (f : α → Traced ω ε β) :
    x >>= f = ⟨x.events ++ (f a).events, (f a).outcome⟩ := by
  show x.bind f = _
  simp [Traced.bind, h]

theorem bind_of_error {x : Traced ω ε α} {e : ε} (h : x.outcome = .error e)
    (f : α → Traced ω ε β) : x >>= f = ⟨x.events, .error e⟩ := by
  show x.bind f = _
  simp [Traced.bind, h]

end Traced
end TypeCatalog
