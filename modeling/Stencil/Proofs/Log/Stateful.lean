/-
# What computations with a state come to

Apart from its events a computation comes to a result or a failure, and to the state that it
leaves. Both are read off its steps in order; a failure ends the computation in the state that
was reached. Two computations run alike if from related states they come to results that look
the same and leave related states. To run alike is kept by sequences, so it is checked part by
part.
-/

import Stencil.Log.Stateful
import Stencil.Proofs.Log.Trace

namespace Stencil.Stateful

variable {σ α β γ δ : Type}

/-- What a computation comes to from a state: its result or failure, and the state that it
leaves. -/
def outcome (x : Stateful σ α) (s : σ) : Except Failure α × σ := ((x.run s).1.result, (x.run s).2)

@[simp]
theorem outcome_pure (a : α) (s : σ) : outcome (pure a : Stateful σ α) s = (.ok a, s) := rfl

@[simp]
theorem outcome_ofTraced (x : Traced α) (s : σ) : outcome (ofTraced x) s = (x.result, s) := rfl

@[simp]
theorem outcome_state (s : σ) : outcome state s = (.ok s, s) := rfl

@[simp]
theorem outcome_change (f : σ → σ) (s : σ) : outcome (change f) s = (.ok (), f s) := rfl

@[simp]
theorem outcome_note (e : Event) (s : σ) : outcome (note e) s = (.ok (), s) := rfl

/-- A sequence goes on in the state that its first part leaves, unless that one fails. -/
theorem outcome_bind (x : Stateful σ α) (next : α → Stateful σ β) (s : σ) :
    (x >>= next).outcome s =
      match x.outcome s with
      | (.ok a, between) => (next a).outcome between
      | (.error failure, between) => (.error failure, between) := by
  show (andThen x next).outcome s = _
  cases result : (x s).1.result <;> simp [outcome, run, andThen, result]

theorem outcome_map (f : α → β) (x : Stateful σ α) (s : σ) :
    (f <$> x).outcome s = ((x.outcome s).1.map f, (x.outcome s).2) := by
  show (x >>= fun a => pure (f a)).outcome s = _
  rw [outcome_bind]
  split <;> rename_i comes <;> simp [comes, Except.map]

theorem outcome_eq_ok_of_hasResult {x : Stateful σ α} {s : σ} (comes : HasResult (x.outcome s).1) :
    ∃ a t, x.outcome s = (.ok a, t) := by
  obtain ⟨a, result⟩ := comes
  exact ⟨a, (x.outcome s).2, Prod.ext result rfl⟩

/-- What holds of a state holds of the one that a computation leaves, also after a failure. -/
def Keeps (P : σ → Prop) (x : Stateful σ α) : Prop := ∀ s, P s → P (x.outcome s).2

namespace Keeps

variable {P : σ → Prop} {x : Stateful σ α}

theorem pure (a : α) : Keeps P (Pure.pure a : Stateful σ α) := fun _ holds => holds

theorem ofTraced (x : Traced α) : Keeps P (Stateful.ofTraced x) := fun _ holds => holds

theorem state : Keeps P Stateful.state := fun _ holds => holds

theorem change {f : σ → σ} (keeps : ∀ s, P s → P (f s)) : Keeps P (Stateful.change f) := keeps

theorem bind {next : α → Stateful σ β} (first : Keeps P x) (later : ∀ a, Keeps P (next a)) :
    Keeps P (x >>= next) := by
  intro s holds
  have between := first s holds
  rw [outcome_bind]
  rcases comes : x.outcome s with ⟨failure | a, u⟩ <;> rw [comes] at between
  · exact between
  · exact later a u between

theorem map {f : α → β} (keeps : Keeps P x) : Keeps P (f <$> x) := keeps.bind fun _ => pure _

/-- What each of several computations keeps still holds when all have run one after the other,
whichever of them failed. -/
theorem foldl {ρ : Type} {run : ρ → Stateful σ α} {parts : List ρ} {s : σ}
    (keeps : ∀ r ∈ parts, Keeps P (run r)) (holds : P s) :
    P (parts.foldl (fun s r => ((run r).outcome s).2) s) := by
  induction parts generalizing s with
  | nil => exact holds
  | cons r rest ih =>
      rw [List.forall_mem_cons] at keeps
      exact ih keeps.2 (keeps.1 s holds)

end Keeps

/-- From related states two computations come to results that look the same, or fail for the
same cause, and leave related states. -/
def RunAlike (R : σ → σ → Prop) (view : α → γ) (x y : Stateful σ α) : Prop :=
  ∀ s t, R s t →
    (x.outcome s).1.map view = (y.outcome t).1.map view ∧ R (x.outcome s).2 (y.outcome t).2

namespace RunAlike

variable {R : σ → σ → Prop} {view : α → γ} {look : β → δ} {x y : Stateful σ α}

theorem pure {a b : α} (same : view a = view b) :
    RunAlike R view (Pure.pure a) (Pure.pure b) :=
  fun _ _ related => ⟨congrArg Except.ok same, related⟩

theorem ofTraced {first second : Traced α}
    (same : first.result.map view = second.result.map view) :
    RunAlike R view (Stateful.ofTraced first) (Stateful.ofTraced second) :=
  fun _ _ related => ⟨same, related⟩

theorem state {view : σ → γ} (same : ∀ s t, R s t → view s = view t) :
    RunAlike R view Stateful.state Stateful.state :=
  fun s t related => ⟨congrArg Except.ok (same s t related), related⟩

theorem change {f g : σ → σ} (keeps : ∀ s t, R s t → R (f s) (g t)) :
    RunAlike R id (Stateful.change f) (Stateful.change g) :=
  fun s t related => ⟨rfl, keeps s t related⟩

/-- Sequences run alike if their first parts do, and what follows does for results that look
the same. -/
theorem bind {next other : α → Stateful σ β} (first : RunAlike R view x y)
    (later : ∀ a b, view a = view b → RunAlike R look (next a) (other b)) :
    RunAlike R look (x >>= next) (y >>= other) := by
  intro s t related
  obtain ⟨same, between⟩ := first s t related
  rw [outcome_bind, outcome_bind]
  rcases hx : x.outcome s with ⟨failure | a, u⟩ <;> rcases hy : y.outcome t with ⟨failure' | b, v⟩
    <;> rw [hx, hy] at same between
  · cases same
    exact ⟨rfl, between⟩
  · cases same
  · cases same
  · exact later a b (Except.ok.inj same) u v between

theorem map {f g : α → β} (alike : RunAlike R view x y)
    (same : ∀ a b, view a = view b → look (f a) = look (g b)) :
    RunAlike R look (f <$> x) (g <$> y) :=
  alike.bind fun a b seen => pure (same a b seen)

/-- A part that does not look at the state has the same result in both computations. -/
theorem bind_ofTraced {first : Traced α} {next other : α → Stateful σ β}
    (later : ∀ a, RunAlike R look (next a) (other a)) :
    RunAlike R look (Stateful.ofTraced first >>= next) (Stateful.ofTraced first >>= other) := by
  refine (ofTraced rfl : RunAlike R id _ _).bind ?_
  rintro a _ rfl
  exact later a

theorem map_ofTraced {f : α → β} {first : Traced α} :
    RunAlike R look (f <$> Stateful.ofTraced first) (f <$> Stateful.ofTraced first) :=
  bind_ofTraced fun _ => pure rfl

end RunAlike

end Stencil.Stateful
