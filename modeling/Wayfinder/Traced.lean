/-!
# Computations that leave a trace

A computation that emits events and then ends in a value or an error. The events emitted before an
error are kept, so that what was observed does not depend on how the computation ended.
-/

namespace Wayfinder

/-- The events of a computation, oldest first, and how it ended. -/
structure Traced (ω ε α : Type) where
  events : List ω
  result : Except ε α

namespace Traced

variable {ω ε α β : Type}

/-- Emit events. -/
def emit (events : List ω) : Traced ω ε Unit := ⟨events, .ok ()⟩

/-- End in a given way without emitting anything. -/
def ofExcept (result : Except ε α) : Traced ω ε α := ⟨[], result⟩

/-- End in an error. -/
def fail (error : ε) : Traced ω ε α := ⟨[], .error error⟩

/-- Go on with the value of the first computation, if it has one. -/
def andThen (first : Traced ω ε α) (next : α → Traced ω ε β) : Traced ω ε β :=
  match first.result with
  | .error error => ⟨first.events, .error error⟩
  | .ok value => ⟨first.events ++ (next value).events, (next value).result⟩

/-- Rename the error. -/
def mapError {δ : Type} (rename : ε → δ) (computation : Traced ω ε α) : Traced ω δ α :=
  ⟨computation.events, computation.result.mapError rename⟩

instance : Monad (Traced ω ε) where
  pure value := ⟨[], .ok value⟩
  bind := andThen

@[simp] theorem pure_events (value : α) : (pure value : Traced ω ε α).events = [] := rfl

@[simp] theorem pure_result (value : α) : (pure value : Traced ω ε α).result = .ok value := rfl

theorem bind_eq (first : Traced ω ε α) (next : α → Traced ω ε β) :
    first >>= next = first.andThen next := rfl

theorem andThen_of_ok {first : Traced ω ε α} {value : α} (ended : first.result = .ok value)
    (next : α → Traced ω ε β) :
    first.andThen next = ⟨first.events ++ (next value).events, (next value).result⟩ := by
  simp [andThen, ended]

theorem andThen_of_error {first : Traced ω ε α} {error : ε} (ended : first.result = .error error)
    (next : α → Traced ω ε β) : first.andThen next = ⟨first.events, .error error⟩ := by
  simp [andThen, ended]

end Traced

end Wayfinder
