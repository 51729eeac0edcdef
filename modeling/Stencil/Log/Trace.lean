/-
# Traced computations

A traced computation has a result, or a failure, and the events that happened on
the way to it. A failure ends the computation and keeps the events before it.
-/

import Stencil.Failure
import Stencil.Log.Event

namespace Stencil

/-- A result or failure with the events that led to it. -/
structure Traced (α : Type) where
  events : List Event
  result : Except Failure α

namespace Traced

variable {α β : Type}

/-- A result that nothing led to. -/
def done (a : α) : Traced α := ⟨[], .ok a⟩

/-- A failure that nothing led to. -/
def fail (failure : Failure) : Traced α := ⟨[], .error failure⟩

/-- Continues after a result; the events add up. -/
def andThen (x : Traced α) (next : α → Traced β) : Traced β :=
  match x.result with
  | .ok a => ⟨x.events ++ (next a).events, (next a).result⟩
  | .error failure => ⟨x.events, .error failure⟩

instance : Monad Traced where
  pure := done
  bind := andThen

/-- Records an event. -/
def note (e : Event) : Traced Unit := ⟨[e], .ok ()⟩

/-- Records events. -/
def notes (es : List Event) : Traced Unit := ⟨es, .ok ()⟩

/-- A result that leaves no trace. -/
def ofExcept (x : Except Failure α) : Traced α := ⟨[], x⟩

/-- Goes on without a result after a failure that has an event, and records the
event. -/
def attempt (x : Traced α) (toEvent : Failure → Option Event) : Traced (Option α) :=
  match x.result with
  | .ok a => ⟨x.events, .ok (some a)⟩
  | .error failure =>
    match toEvent failure with
    | some e => ⟨x.events ++ [e], .ok none⟩
    | none => ⟨x.events, .error failure⟩

@[simp]
theorem result_pure (a : α) : (pure a : Traced α).result = .ok a := rfl

@[simp]
theorem events_pure (a : α) : (pure a : Traced α).events = [] := rfl

@[simp]
theorem result_ofExcept (x : Except Failure α) : (ofExcept x).result = x := rfl

@[simp]
theorem events_ofExcept (x : Except Failure α) : (ofExcept x).events = [] := rfl

/-- The result of a sequence is the result of its second part after that of its first. -/
theorem result_bind (x : Traced α) (next : α → Traced β) :
    (x >>= next).result = x.result.bind fun a => (next a).result := by
  show (x.andThen next).result = _
  cases h : x.result <;> simp [andThen, h, Except.bind]

end Traced

end Stencil
