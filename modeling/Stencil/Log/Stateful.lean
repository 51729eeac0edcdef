/-
# Traced computations with a state

Such a computation reads and changes a state. When it fails, what it has changed
before stays changed.
-/

import Stencil.Log.Trace

namespace Stencil

/-- A traced computation over a state. -/
def Stateful (σ α : Type) : Type := σ → Traced α × σ

namespace Stateful

variable {σ α β : Type}

/-- Runs a computation from a state. -/
def run (x : Stateful σ α) (s : σ) : Traced α × σ := x s

/-- A result that changes nothing. -/
def done (a : α) : Stateful σ α := fun s => (pure a, s)

/-- Continues after a result, in the state that it left. -/
def andThen (x : Stateful σ α) (next : α → Stateful σ β) : Stateful σ β := fun s =>
  let (first, between) := x s
  match first.result with
  | .error failure => (⟨first.events, .error failure⟩, between)
  | .ok a =>
    let (second, after) := next a between
    (⟨first.events ++ second.events, second.result⟩, after)

instance : Monad (Stateful σ) where
  pure := done
  bind := andThen

/-- A traced computation that does not look at the state. -/
def ofTraced (x : Traced α) : Stateful σ α := fun s => (x, s)

/-- The state. -/
def state : Stateful σ σ := fun s => (pure s, s)

/-- Changes the state. -/
def change (f : σ → σ) : Stateful σ Unit := fun s => (pure (), f s)

/-- Records an event. -/
def note (e : Event) : Stateful σ Unit := ofTraced (Traced.note e)

end Stateful

end Stencil
