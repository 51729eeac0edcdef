/-
# The order of numbers

Numbers are compared as what they are on the extended line of the reals: an integer of any size
is itself, a finite binary number is the quotient that its units make, and neither is rounded.
An undefined number is nowhere on the line, so that nothing lies below or above it.
-/

import Mathlib.Data.EReal.Basic
import Stencil.Proofs.Number.Rounding

namespace Stencil

namespace Binary64

theorem unitsInOne_pos : 0 < unitsInOne := by
  obtain ⟨u, -, units⟩ := unitsInOne_eq
  rw [units]
  exact Nat.two_pow_pos u

/-- The place of a number of units on the extended line. -/
noncomputable def place (units : Int) : EReal := (units / unitsInOne : ℝ)

/-- What a binary number is on the extended line, unless it is undefined. -/
noncomputable def extended? : Binary64 → Option EReal
  | .nan => none
  | .infinite negative => some (if negative then ⊥ else ⊤)
  | .finite negative rank => some (place (if negative then -units rank.val else units rank.val))

theorem place_lt_place {a b : Int} : place a < place b ↔ a < b := by
  have one : (0 : ℝ) < unitsInOne := Nat.cast_pos.mpr unitsInOne_pos
  rw [place, place, EReal.coe_lt_coe_iff, div_lt_div_iff_of_pos_right one, Int.cast_lt]

/-- The units of a whole number have the place of the number. -/
theorem place_mul_unitsInOne (i : Int) : place (i * unitsInOne) = (i : ℝ) := by
  have one : (unitsInOne : ℝ) ≠ 0 := Nat.cast_ne_zero.mpr unitsInOne_pos.ne'
  rw [place, Int.cast_mul, Int.cast_natCast, mul_div_cancel_right₀ _ one]

theorem bot_lt_place (units : Int) : ⊥ < place units := EReal.bot_lt_coe _

theorem place_lt_top (units : Int) : place units < ⊤ := EReal.coe_lt_top _

end Binary64

namespace Number

/-- What a number is on the extended line, unless it is undefined. -/
noncomputable def extended? : Number → Option EReal
  | .int i => some (i : ℝ)
  | .float x => x.extended?

/-- A number lies below another one if both are on the extended line and it does so there. -/
def IsBelow (a b : Number) : Prop := ∃ x ∈ a.extended?, ∃ y ∈ b.extended?, x < y

/-- A number lies at or below another one if both are on the extended line and it does so
there. -/
def IsAtMost (a b : Number) : Prop := ∃ x ∈ a.extended?, ∃ y ∈ b.extended?, x ≤ y

/-- Only an undefined number is nowhere on the extended line. -/
theorem extended?_eq_none_iff {a : Number} : a.extended? = none ↔ a = .float .nan := by
  cases a with
  | int i => simp [extended?]
  | float x => cases x <;> simp [extended?, Binary64.extended?]

/-- Two numbers lie in order unless they lie strictly in the other order, or one of them is
undefined and lies nowhere. -/
theorem isAtMost_iff {a b : Number} :
    a.IsAtMost b ↔ ¬ b.IsBelow a ∧ a ≠ .float .nan ∧ b ≠ .float .nan := by
  rw [ne_eq, ne_eq, ← extended?_eq_none_iff, ← extended?_eq_none_iff, IsAtMost, IsBelow]
  cases a.extended? with
  | none => simp
  | some x => cases b.extended? <;> simp

/-- What lies strictly below is not undefined. -/
theorem IsBelow.ne_nan {a b : Number} (below : a.IsBelow b) : a ≠ .float .nan ∧ b ≠ .float .nan := by
  obtain ⟨x, first, y, second, -⟩ := below
  constructor
  · rintro rfl
    cases first
  · rintro rfl
    cases second

end Number

namespace Point

/-- A point as a place on the extended line. -/
noncomputable def extended : Point → EReal
  | .below => ⊥
  | .at units => Binary64.place units
  | .above => ⊤

theorem lt_iff {p q : Point} : p.lt q = true ↔ p.extended < q.extended := by
  cases p with
  | below => cases q <;> simp [lt, extended, Binary64.bot_lt_place]
  | above => cases q <;> simp [lt, extended]
  | «at» a =>
      cases q with
      | below => simp [lt, extended]
      | above => simp [lt, extended, Binary64.place_lt_top]
      | «at» b => simp [lt, extended, Binary64.place_lt_place]

end Point

theorem Binary64.extended?_eq (x : Binary64) : x.extended? = x.point?.map Point.extended := by
  cases x with
  | nan => rfl
  | infinite negative => cases negative <;> rfl
  | finite negative rank => cases negative <;> rfl

theorem Number.extended?_eq (a : Number) : a.extended? = a.point?.map Point.extended := by
  cases a with
  | float x => exact x.extended?_eq
  | int i => exact congrArg some (Binary64.place_mul_unitsInOne i).symm

/-- Numbers are compared without rounding. -/
theorem Number.lt_iff {a b : Number} : a.lt b = true ↔ a.IsBelow b := by
  rw [IsBelow, extended?_eq, extended?_eq, lt]
  cases a.point? with
  | none => simp
  | some p =>
      cases b.point? with
      | none => simp
      | some q => simp [Point.lt_iff]

theorem Number.le_iff {a b : Number} : a.le b = true ↔ a.IsAtMost b := by
  rw [IsAtMost, extended?_eq, extended?_eq, le]
  cases a.point? with
  | none => simp
  | some p =>
      cases b.point? with
      | none => simp
      | some q => simp [← Point.lt_iff, ← not_lt]

end Stencil
