/-
# Shortest decimals read back

A candidate on a decimal grid is only taken if it reads back as the number that it is
for, the zeros at its end may go, and the exact decimal at the end of the search reads
back by itself. So the shortest decimal of a magnitude reads back as that magnitude,
with either sign.
-/

import Stencil.Proofs.Number.Rounding

namespace Stencil.Decimal

open Binary64

/-- A decimal without the zeros at its end reads as the same number. -/
theorem ofDecimal_stripZeros (negative : Bool) (fuel : Nat) (d : Decimal) :
    ofDecimal negative (stripZeros fuel d).digits (stripZeros fuel d).exponent =
      ofDecimal negative d.digits d.exponent := by
  induction fuel generalizing d with
  | zero => rfl
  | succ fuel ih =>
      rw [stripZeros]
      split
      · rename_i zero
        have tens : d.digits / 10 * 10 = d.digits := by omega
        rw [ih, ← ofDecimal_mul_ten, tens]
      · rfl

/-- A decimal on a grid is only found if it reads back. -/
theorem ofDecimal_of_onGrid? {rank num den : Nat} {exponent : Int} {d : Decimal}
    (found : onGrid? rank num den exponent = some d) :
    ofDecimal false d.digits d.exponent = ofRank false rank := by
  revert found
  simp only [onGrid?, decide_eq_true_eq]
  split
  · rename_i reads
    rintro ⟨⟩
    exact reads
  split
  · rename_i reads
    rintro ⟨⟩
    exact reads
  split
  · rename_i reads
    rintro ⟨⟩
    exact reads
  · rintro ⟨⟩

/-- The exact decimal of a magnitude reads back: a unit is a power of one half, which is
a power of five over a power of ten. -/
theorem ofDecimal_exact (rank : Nat) :
    ofDecimal false (units rank * Nat.pow 5 1074) (-1074) = ofRank false rank := by
  have general (u : Nat) (scale : unitsInOne = 2 ^ u) :
      ofDecimal false (units rank * Nat.pow 5 u) (-u) = ofRank false rank := by
    have whole : (-(u : Int)).toNat = 0 := by omega
    have fraction : (- -(u : Int)).toNat = u := by omega
    rw [ofDecimal_eq, whole, fraction, scale, Nat.pow_eq]
    apply congrArg (ofRank false)
    have ratio : units rank * 5 ^ u * 10 ^ 0 * 2 ^ u * 1 = units rank * 10 ^ u := by
      rw [show 10 = 5 * 2 from rfl, mul_pow 5 2 u]
      ring
    rw [nearestRank_congr (by positivity) one_pos ratio, nearestRank_units]
  obtain ⟨u, eq, scale⟩ := unitsInOne_eq
  have counted : (-1074 : Int) = -(u : Int) := by omega
  rw [← eq, counted]
  exact general u scale

/-- The shortest decimal of a magnitude reads back as it. -/
theorem ofDecimal_false_shortest (rank : Nat) :
    ofDecimal false (shortest rank).digits (shortest rank).exponent = ofRank false rank := by
  simp only [shortest]
  generalize hit : (List.range 17).findSome? _ = found
  cases found with
  | none => exact ofDecimal_exact rank
  | some d =>
      obtain ⟨n, -, taken⟩ := List.exists_of_findSome?_eq_some hit
      obtain ⟨candidate, grid, rfl⟩ := Option.map_eq_some_iff.mp taken
      rw [Option.getD_some, ofDecimal_stripZeros]
      exact ofDecimal_of_onGrid? grid

variable {rank : Fin finiteRanks}

/-- The shortest decimal of a magnitude reads back with either sign. -/
theorem ofDecimal_shortest (negative : Bool) (rank : Fin finiteRanks) :
    ofDecimal negative (shortest rank.val).digits (shortest rank.val).exponent =
      .finite negative rank := by
  have positive := ofDecimal_false_shortest rank.val
  rw [ofDecimal_eq] at positive
  rw [ofDecimal_eq, ofRank_inj rank.isLt positive, ofRank, dif_pos rank.isLt]

/-- Only zero has no digits. -/
theorem digits_shortest_ne_zero (positive : rank.val ≠ 0) : (shortest rank.val).digits ≠ 0 := by
  intro digitsZero
  have reads := ofDecimal_false_shortest rank.val
  rw [digitsZero, ofDecimal, if_pos rfl] at reads
  exact positive (ofRank_inj rank.isLt reads).symm

end Stencil.Decimal
