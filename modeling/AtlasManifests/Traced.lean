import AtlasManifests.Error

/-! # Traced computations

A computation that may fail, together with what happened on the way. The trace of two
steps is the trace of the first followed by that of the second; after a failure nothing
happens any more. `events_bind` and `result_bind` say so.
-/
namespace AtlasManifests

/-- What can be computed of a result holds of it. -/
theorem exists_of_any {ε α : Type} {x : Except ε α} {p : α → Bool}
    (h : x.toOption.any p = true) : ∃ a, x = .ok a ∧ p a = true := by
  cases x with
  | error e => cases h
  | ok a => exact ⟨a, rfl, h⟩

/-- What happened, and the result. -/
structure Traced (ε α : Type) where
  events : List ε
  result : Except Error α

namespace Traced

variable {ε δ α β : Type}

/-- A result without anything happening. -/
def pure (a : α) : Traced ε α := ⟨[], .ok a⟩

/-- A failure without anything happening. -/
def fail (e : Error) : Traced ε α := ⟨[], .error e⟩

/-- Something that happens. -/
def emit (event : ε) : Traced ε Unit := ⟨[event], .ok ()⟩

/-- One step after the other, unless the first one fails. -/
def bind (x : Traced ε α) (f : α → Traced ε β) : Traced ε β :=
  match x.result with
  | .error e => ⟨x.events, .error e⟩
  | .ok a => ⟨x.events ++ (f a).events, (f a).result⟩

instance : Monad (Traced ε) where
  pure := Traced.pure
  bind := Traced.bind

/-- A result or a failure without anything happening. -/
def ofExcept (x : Except Error α) : Traced ε α := ⟨[], x⟩

/-- The same with other words for what happens. -/
def mapEvents (f : ε → δ) (x : Traced ε α) : Traced δ α := ⟨x.events.map f, x.result⟩

/-- The same with another error. -/
def mapError (f : Error → Error) (x : Traced ε α) : Traced ε α := ⟨x.events, x.result.mapError f⟩

@[simp] theorem events_pure (a : α) : (Pure.pure a : Traced ε α).events = [] := rfl

@[simp] theorem result_pure (a : α) : (Pure.pure a : Traced ε α).result = .ok a := rfl

/-- The events of two steps, of which the second may not happen. -/
theorem events_bind (x : Traced ε α) (f : α → Traced ε β) :
    (x >>= f).events =
      x.events ++
        match x.result with
        | .ok a => (f a).events
        | .error _ => [] := by
  show (Traced.bind x f).events = _
  unfold Traced.bind
  cases x.result <;> simp

/-- The result of two steps. -/
theorem result_bind (x : Traced ε α) (f : α → Traced ε β) :
    (x >>= f).result = x.result.bind fun a => (f a).result := by
  show (Traced.bind x f).result = _
  unfold Traced.bind
  cases x.result <;> rfl

end Traced

end AtlasManifests
