/-
# What computations come to

A computation over a list stops at the first failure, so it has a result exactly when
every step has one. A traced computation that goes on from another one is determined
by the first part and by what follows its result.
-/

import Stencil.Log.Trace

namespace Stencil

variable {α β : Type}

/-- A list is gone through in the same way by functions that agree on its members. -/
theorem mapM_except_congr {xs : List α} {step other : α → Except Failure β}
    (same : ∀ x ∈ xs, step x = other x) : xs.mapM step = xs.mapM other := by
  induction xs with
  | nil => rfl
  | cons x xs ih =>
      rw [List.mapM_cons, List.mapM_cons, same x (by simp), ih fun y mem => same y (by simp [mem])]

/-- A computation that does not fail. -/
def HasResult (x : Except Failure α) : Prop := ∃ a, x = .ok a

@[simp]
theorem hasResult_ok (a : α) : HasResult (.ok a : Except Failure α) := ⟨a, rfl⟩

@[simp]
theorem not_hasResult_error (failure : Failure) :
    ¬ HasResult (.error failure : Except Failure α) := by
  rintro ⟨a, ⟨⟩⟩

@[simp]
theorem hasResult_map {f : α → β} {x : Except Failure α} :
    HasResult (x.map f) ↔ HasResult x := by
  cases x <;> simp [Except.map]

theorem hasResult_of_isSome {x : Except Failure α} (h : x.toOption.isSome = true) :
    HasResult x := by
  cases x with
  | error failure => cases h
  | ok a => exact ⟨a, rfl⟩

theorem eq_ok_of_toOption_map {x : Except Failure α} {f : α → β} {b : β}
    (h : x.toOption.map f = some b) : ∃ a, x = .ok a ∧ f a = b := by
  cases x with
  | error failure => cases h
  | ok a => exact ⟨a, rfl, Option.some.inj h⟩

theorem eq_ok_of_toOption_any {x : Except Failure α} {p : α → Bool}
    (h : x.toOption.any p = true) : ∃ a, x = .ok a ∧ p a = true := by
  cases x with
  | error failure => cases h
  | ok a => exact ⟨a, rfl, h⟩

theorem hasResult_bind {x : Except Failure α} {next : α → Except Failure β} :
    HasResult (x.bind next) ↔ ∃ a, x = .ok a ∧ HasResult (next a) := by
  cases x <;> simp [Except.bind]

/-- Going through a list fails exactly when some step fails. -/
theorem hasResult_mapM {xs : List α} {step : α → Except Failure β} :
    HasResult (xs.mapM step) ↔ ∀ x ∈ xs, HasResult (step x) := by
  induction xs with
  | nil => simp [pure, Except.pure]
  | cons x xs ih =>
      rw [List.mapM_cons]
      cases first : step x with
      | error failure => simp [bind, Except.bind, first]
      | ok y =>
          cases others : xs.mapM step with
          | error failure =>
              rw [others] at ih
              simpa [bind, Except.bind, first] using ih
          | ok ys =>
              rw [others] at ih
              simpa [bind, Except.bind, pure, Except.pure, first] using ih

/-- Where each step has one possible result, a list that is gone through without failure
has the list of these results. -/
theorem eq_map_of_mapM_eq_ok {xs : List α} {step : α → Except Failure β} {value : α → β}
    (only : ∀ x y, step x = .ok y → y = value x) {ys : List β} (done : xs.mapM step = .ok ys) :
    ys = xs.map value := by
  induction xs generalizing ys with
  | nil =>
      rw [List.mapM_nil] at done
      cases done
      rfl
  | cons x xs ih =>
      rw [List.mapM_cons] at done
      cases first : step x with
      | error failure => simp [bind, Except.bind, first] at done
      | ok y =>
          cases others : xs.mapM step with
          | error failure => simp [bind, Except.bind, first, others] at done
          | ok rest =>
              obtain rfl : y :: rest = ys := by
                simpa [bind, Except.bind, pure, Except.pure, first, others] using done
              rw [only x y first, ih others, List.map_cons]

/-- A computation that goes on from another one has a result exactly when both have
one. -/
theorem bind_eq_ok {ε : Type} {x : Except ε α} {next : α → Except ε β} {b : β} :
    x.bind next = .ok b ↔ ∃ a, x = .ok a ∧ next a = .ok b := by
  cases x <;> simp [Except.bind]

/-- A sequence fails in one of its parts. -/
theorem bind_eq_error {x : Except Failure α} {next : α → Except Failure β} {failure : Failure} :
    x.bind next = .error failure ↔
      x = .error failure ∨ ∃ a, x = .ok a ∧ next a = .error failure := by
  cases x <;> simp [Except.bind]

theorem map_eq_error {x : Except Failure α} {f : α → β} {failure : Failure} :
    x.map f = .error failure ↔ x = .error failure := by
  cases x <;> simp [Except.map]

theorem map_eq_ok {x : Except Failure α} {f : α → β} {b : β} :
    x.map f = .ok b ↔ ∃ a, x = .ok a ∧ f a = b := by
  cases x <;> simp [Except.map]

namespace Traced

/-- Continuing with what follows can be done in any grouping. -/
instance : LawfulMonad Traced := LawfulMonad.mk' Traced
  (by
    intro α x
    show x.andThen (fun a => done (id a)) = x
    obtain ⟨events, result⟩ := x
    cases result <;> simp [andThen, done])
  (fun a next => by
    show (done a).andThen next = next a
    simp [andThen, done])
  (by
    intro α β γ x next other
    show (x.andThen next).andThen other = x.andThen fun a => (next a).andThen other
    cases first : x.result with
    | error failure => simp [andThen, first]
    | ok a => cases second : (next a).result <;> simp [andThen, first, second])

@[simp]
theorem ofExcept_ok (a : α) : ofExcept (.ok a) = pure a := rfl

@[simp]
theorem result_map (f : α → β) (x : Traced α) : (f <$> x).result = x.result.map f := by
  show (x.andThen fun a => done (f a)).result = _
  cases result : x.result <;> simp [andThen, done, result, Except.map]

@[simp]
theorem events_map (f : α → β) (x : Traced α) : (f <$> x).events = x.events := by
  show (x.andThen fun a => done (f a)).events = _
  cases result : x.result <;> simp [andThen, done, result]

/-- What a sequence comes to is determined by its first part and what follows. -/
theorem bind_congr {x y : Traced α} {next other : α → Traced β} (same : x = y)
    (later : ∀ a, y.result = .ok a → next a = other a) : x >>= next = y >>= other := by
  subst same
  show x.andThen next = x.andThen other
  cases result : x.result with
  | error failure => simp [andThen, result]
  | ok a => simp [andThen, result, later a result]

/-- A sequence whose second part fails or not whatever it is given fails exactly when
one of its parts fails. -/
theorem hasResult_bind_iff {x : Traced α} {next : α → Traced β} {P Q : Prop}
    (first : HasResult x.result ↔ P) (later : ∀ a, HasResult (next a).result ↔ Q) :
    HasResult (x >>= next).result ↔ P ∧ Q := by
  rw [result_bind, hasResult_bind, ← first]
  constructor
  · rintro ⟨a, result, second⟩
    exact ⟨⟨a, result⟩, (later a).mp second⟩
  · rintro ⟨⟨a, result⟩, second⟩
    exact ⟨a, result, (later a).mpr second⟩

/-- A sequence whose second part never fails fails exactly when its first part does. -/
theorem hasResult_bind_of_forall {x : Traced α} {next : α → Traced β}
    (later : ∀ a, HasResult (next a).result) :
    HasResult (x >>= next).result ↔ HasResult x.result := by
  rw [hasResult_bind_iff Iff.rfl fun a => iff_true_intro (later a), and_true]

/-- The result of a sequence comes from a result of its first part. -/
theorem result_bind_eq_ok {x : Traced α} {next : α → Traced β} {b : β} :
    (x >>= next).result = .ok b ↔ ∃ a, x.result = .ok a ∧ (next a).result = .ok b := by
  rw [result_bind, bind_eq_ok]

/-- What goes on after an attempt goes on with a result, or without one after a failure that has
an event, which is recorded; any other failure ends both. -/
theorem attempt_bind_cases (x : Traced α) (toEvent : Failure → Option Event)
    (next : Option α → Traced β) :
    (∃ a, x.result = .ok a ∧
      (x.attempt toEvent >>= next).result = (next (some a)).result ∧
      ∀ event ∈ (next (some a)).events, event ∈ (x.attempt toEvent >>= next).events) ∨
    (∃ failure event, x.result = .error failure ∧ toEvent failure = some event ∧
      (x.attempt toEvent >>= next).result = (next none).result ∧
      event ∈ (x.attempt toEvent >>= next).events) ∨
    ∃ failure, x.result = .error failure ∧ toEvent failure = none ∧
      (x.attempt toEvent >>= next).result = .error failure := by
  show _ ∨ _ ∨ ∃ failure, _ ∧ _ ∧ ((x.attempt toEvent).andThen next).result = _
  cases result : x.result with
  | ok a =>
      refine .inl ⟨a, rfl, ?_⟩
      show ((x.attempt toEvent).andThen next).result = _ ∧
        ∀ event ∈ _, event ∈ ((x.attempt toEvent).andThen next).events
      simp only [attempt, result, andThen, true_and, List.mem_append]
      exact fun event mem => .inr mem
  | error failure =>
      cases has : toEvent failure with
      | some event =>
          refine .inr (.inl ⟨failure, event, rfl, has, ?_⟩)
          show ((x.attempt toEvent).andThen next).result = _ ∧
            event ∈ ((x.attempt toEvent).andThen next).events
          simp [attempt, result, has, andThen]
      | none =>
          refine .inr (.inr ⟨failure, rfl, has, ?_⟩)
          simp [attempt, result, has, andThen]

@[simp]
theorem result_note (event : Event) : (note event).result = .ok () := rfl

@[simp]
theorem result_notes (events : List Event) : (notes events).result = .ok () := rfl

end Traced

end Stencil
