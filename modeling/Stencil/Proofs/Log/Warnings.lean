/-
# What a computation warns of

The warnings of a computation are those of its events that are warnings, in their order. The
parts of a computation warn one after the other, and a failure cuts the warnings short: a
computation that fails has warned of the first ones of those that were due.
-/

import Stencil.Proofs.Log.Trace

namespace Stencil

/-- Whether an event is a warning. -/
def Event.isWarning (event : Event) : Bool := event.level = .warning

namespace Traced

variable {α β : Type}

/-- The warnings among the events of a computation. -/
def warnings (x : Traced α) : List Event := x.events.filter Event.isWarning

/-- The lines at the level of a warning in the log of a computation are the lines of its
warnings. -/
theorem filter_lines_eq (x : Traced α) :
    (x.events.map Event.toRecord).filter (fun line => line.level = .warning) =
      x.warnings.map Event.toRecord := by
  rw [List.filter_map]
  rfl

/-- A computation warns of the events that are due, in their order: of no others in any case,
and of all of them if it has a result. -/
structure Warns (x : Traced α) (due : List Event) : Prop where
  starts : x.warnings <+: due
  complete : ∀ a, x.result = .ok a → x.warnings = due

variable {x : Traced α} {due later : List Event}

theorem Warns.of_eq (same : x.warnings = due) : x.Warns due :=
  ⟨same ▸ List.prefix_rfl, fun _ _ => same⟩

theorem warns_of_events_eq_nil (silent : x.events = []) : x.Warns [] :=
  .of_eq (by simp [warnings, silent])

/-- What has failed without a warning was cut short of whatever was due. -/
theorem warns_fail (failure : Failure) (due : List Event) : (fail failure : Traced α).Warns due :=
  ⟨List.nil_prefix, by rintro a ⟨⟩⟩

/-- A warning that is given in one case only. -/
theorem warns_notes_if (given : Bool) {event : Event} (warning : event.isWarning = true) :
    (notes (if given then [event] else [])).Warns (if given then [event] else []) := by
  cases given with
  | false => exact warns_of_events_eq_nil rfl
  | true => exact .of_eq (by simp [warnings, notes, warning])

theorem warns_note_of_not_isWarning {event : Event} (other : event.isWarning = false) :
    (note event).Warns [] :=
  .of_eq (by simp [warnings, note, other])

/-- A failure is the end of the warnings. -/
theorem warnings_bind_of_error {next : α → Traced β} {failure : Failure}
    (failed : x.result = .error failure) : (x >>= next).warnings = x.warnings := by
  show (x.andThen next).warnings = x.warnings
  simp [warnings, andThen, failed]

theorem warnings_bind_of_ok {next : α → Traced β} {a : α} (done : x.result = .ok a) :
    (x >>= next).warnings = x.warnings ++ (next a).warnings := by
  show (x.andThen next).warnings = x.warnings ++ (next a).warnings
  simp [warnings, andThen, done]

/-- The parts of a sequence warn one after the other. -/
theorem Warns.bind {next : α → Traced β} (first : x.Warns due)
    (second : ∀ a, x.result = .ok a → (next a).Warns later) : (x >>= next).Warns (due ++ later) := by
  cases outcome : x.result with
  | error failure =>
      refine ⟨?_, fun b done => ?_⟩
      · rw [warnings_bind_of_error outcome]
        exact first.starts.trans (List.prefix_append due later)
      · obtain ⟨a, ok, -⟩ := result_bind_eq_ok.mp done
        simp [outcome] at ok
  | ok a =>
      refine ⟨?_, fun b done => ?_⟩
      · rw [warnings_bind_of_ok outcome, first.complete a outcome]
        exact (List.prefix_append_right_inj due).mpr (second a outcome).starts
      · obtain ⟨_, ok, last⟩ := result_bind_eq_ok.mp done
        obtain rfl := Except.ok.inj (outcome.symm.trans ok)
        rw [warnings_bind_of_ok outcome, first.complete a outcome,
          (second a outcome).complete b last]

/-- What goes on from a silent part warns of what follows. -/
theorem Warns.bind_silent {next : α → Traced β} (first : x.Warns [])
    (second : ∀ a, x.result = .ok a → (next a).Warns due) : (x >>= next).Warns due :=
  first.bind second

/-- What goes on silently warns of what went before. -/
theorem Warns.then_silent {next : α → Traced β} (first : x.Warns due)
    (second : ∀ a, x.result = .ok a → (next a).Warns []) : (x >>= next).Warns due := by
  simpa using first.bind second

/-- The first member of a list that is gone through comes before the others. -/
theorem map_filter_cons {γ : Type} (chosen : γ → Bool) (event : γ → Event) (x : γ) (xs : List γ) :
    ((x :: xs).filter chosen).map event =
      (if chosen x then [event x] else []) ++ (xs.filter chosen).map event := by
  by_cases own : chosen x = true
  · simp [own]
  · simp [own]

theorem warns_pure (a : α) : (pure a : Traced α).Warns [] := warns_of_events_eq_nil rfl

/-- A result that leaves no trace adds nothing to what follows it. -/
theorem warns_ofExcept_bind {outcome : Except Failure α} {next : α → Traced β}
    (second : ∀ a, (next a).Warns due) : (ofExcept outcome >>= next).Warns due :=
  (warns_of_events_eq_nil rfl).bind_silent fun a _ => second a

/-- An event that is no warning, and a result after it. -/
theorem warns_note_pure {event : Event} (other : event.isWarning = false) (a : α) :
    (note event >>= fun _ => (pure a : Traced α)).Warns [] :=
  (warns_note_of_not_isWarning other).bind_silent fun _ _ => warns_pure a

end Traced

end Stencil
