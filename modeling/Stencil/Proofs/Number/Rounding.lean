/-
# Reading decimals as binary numbers

The binary number nearest to a ratio depends on the ratio only, not on the numbers
that it is written with. The shortcuts for very large and very small decimals give the
same answers as rounding does, so a decimal may be written with a zero more or less at
the end of its digits, and every magnitude is read back from the decimal that it is.
-/

import Mathlib.Tactic.Linarith
import Mathlib.Tactic.Ring
import Stencil.Number.Digits

namespace Stencil.Binary64

variable {num den k : Nat}

theorem octave_pos : 0 < octave := by decide

theorem octave_eq : octave = 2 ^ 52 := rfl

/-- The exponent stays unevaluated for whoever takes it from here. -/
theorem unitsInOne_eq : ∃ u, u = 1074 ∧ unitsInOne = 2 ^ u := by
  unfold unitsInOne
  generalize 1074 = u
  exact ⟨u, rfl, rfl⟩

/-- Rounding a quotient depends on the ratio only. -/
theorem roundHalfEven_mul_right (num den : Nat) (pos : 0 < k) :
    roundHalfEven (num * k) (den * k) = roundHalfEven num den := by
  have half : 2 * (num * k % (den * k)) = 2 * (num % den) * k := by
    rw [Nat.mul_mod_mul_right, Nat.mul_assoc]
  simp only [roundHalfEven, Nat.mul_div_mul_right _ _ pos, half, Nat.mul_lt_mul_right pos]

theorem roundHalfEven_one (num : Nat) : roundHalfEven num 1 = num := by
  simp [roundHalfEven, Nat.mod_one]

/-- A whole multiple of the denominator is rounded to itself. -/
theorem roundHalfEven_mul_self (num : Nat) (pos : 0 < k) : roundHalfEven (num * k) k = num := by
  have scaled := roundHalfEven_mul_right num 1 pos
  rwa [one_mul, roundHalfEven_one] at scaled

theorem nearestRank_mul_right (num den : Nat) (pos : 0 < k) :
    nearestRank (num * k) (den * k) = nearestRank num den := by
  simp only [nearestRank, Nat.mul_div_mul_right _ _ pos, Nat.shiftLeft_eq]
  rw [Nat.mul_right_comm, roundHalfEven_mul_right num _ pos]

/-- Equal ratios have the same nearest rank. -/
theorem nearestRank_congr {num' den' : Nat} (pos : 0 < den) (pos' : 0 < den')
    (same : num * den' = num' * den) : nearestRank num den = nearestRank num' den' := by
  rw [← nearestRank_mul_right num den pos', ← nearestRank_mul_right num' den' pos, same,
    Nat.mul_comm den den']

/-- A number with 53 binary digits in front of some zeros has its shift in those zeros. -/
theorem log2_mul_two_pow {n : Nat} (least : octave ≤ n) (most : n < 2 * octave) (shift : Nat) :
    (n * 2 ^ shift).log2 + 1 - 53 = shift := by
  have positive : n * 2 ^ shift ≠ 0 := by
    have := octave_pos
    exact Nat.mul_ne_zero (by omega) (Nat.two_pow_pos shift).ne'
  have log : (n * 2 ^ shift).log2 = 52 + shift := by
    rw [Nat.log2_eq_iff positive]
    constructor
    · rw [pow_add, ← octave_eq]
      exact Nat.mul_le_mul_right _ least
    · have : 2 ^ (52 + shift + 1) = 2 * octave * 2 ^ shift := by
        rw [octave_eq]
        ring
      rw [this]
      exact Nat.mul_lt_mul_of_pos_right most (Nat.two_pow_pos shift)
  omega

/-- A rank is the one nearest to its own magnitude. -/
theorem nearestRank_units (rank : Nat) : nearestRank (units rank) 1 = rank := by
  by_cases low : rank < octave
  · have shift : rank.log2 + 1 - 53 = 0 := by
      by_cases zero : rank = 0
      · simp [zero]
      · have := (Nat.log2_lt zero).mpr (octave_eq ▸ low)
        omega
    simp [nearestRank, units, low, shift, roundHalfEven_one]
  · have whole : rank / octave ≠ 0 := by
      have := Nat.div_pos (Nat.le_of_not_lt low) octave_pos
      omega
    have part := Nat.mod_lt rank octave_pos
    have shift := log2_mul_two_pow (Nat.le_add_right octave (rank % octave)) (by omega)
      (rank / octave - 1)
    simp only [nearestRank, units, low, if_false, Nat.div_one, Nat.shiftLeft_eq, shift, one_mul]
    rw [roundHalfEven_mul_self _ (Nat.two_pow_pos _)]
    have split := Nat.div_add_mod rank octave
    have last : (rank / octave - 1) * octave + octave = octave * (rank / octave) := by
      obtain ⟨n, eq⟩ := Nat.exists_eq_succ_of_ne_zero whole
      rw [eq, Nat.succ_sub_one, Nat.mul_succ, Nat.mul_comm]
    omega

/-- The number of a rank, and nothing else, has that rank. -/
theorem ofRank_inj {negative : Bool} {rank other : Nat} (finite : other < finiteRanks)
    (same : ofRank negative rank = ofRank negative other) : rank = other := by
  by_cases low : rank < finiteRanks
  · simpa [ofRank, low, finite] using same
  · simp [ofRank, low, finite] at same

/-- Nothing is nearer to zero than zero itself if the number is less than half a unit. -/
theorem nearestRank_eq_zero (small : 2 * num < den) : nearestRank num den = 0 := by
  have quotient : num / den = 0 := Nat.div_eq_of_lt (by omega)
  have remainder : num % den = num := Nat.mod_eq_of_lt (by omega)
  simp [nearestRank, quotient, roundHalfEven, remainder, small]

/-- A number with more than 2100 binary digits in front of its point is past all ranks. -/
theorem finiteRanks_le_nearestRank (large : 2100 ≤ num.log2) :
    finiteRanks ≤ nearestRank num 1 := by
  have shift : 2047 ≤ num.log2 + 1 - 53 := by omega
  calc finiteRanks = 2047 * octave := rfl
    _ ≤ (num.log2 + 1 - 53) * octave := Nat.mul_le_mul_right _ shift
    _ ≤ nearestRank num 1 := by
        simp only [nearestRank, Nat.div_one]
        omega

theorem ofRank_eq_infinite {negative : Bool} {rank : Nat} (large : finiteRanks ≤ rank) :
    ofRank negative rank = .infinite negative := by
  rw [ofRank, dif_neg (by omega)]

/-- A power of ten is at least the third power of that power of two. -/
theorem two_pow_le_ten_pow (n : Nat) : 2 ^ (3 * n) ≤ 10 ^ n := by
  rw [pow_mul]
  exact Nat.pow_le_pow_left (by norm_num) n

/-- A positive decimal with more than 400 zeros at its end is past all ranks. -/
theorem finiteRanks_le_nearestRank_ten_pow {digits exponent : Nat} (positive : digits ≠ 0)
    (large : 400 < exponent) :
    finiteRanks ≤ nearestRank (digits * 10 ^ exponent * unitsInOne) 1 := by
  obtain ⟨u, eq, units⟩ := unitsInOne_eq
  apply finiteRanks_le_nearestRank
  have bound : 2 ^ (3 * exponent + u) ≤ digits * 10 ^ exponent * unitsInOne := by
    rw [pow_add, units]
    apply Nat.mul_le_mul_right
    calc 2 ^ (3 * exponent) ≤ 10 ^ exponent := two_pow_le_ten_pow exponent
      _ ≤ digits * 10 ^ exponent := Nat.le_mul_of_pos_left _ (Nat.pos_of_ne_zero positive)
  have nonzero : digits * 10 ^ exponent * unitsInOne ≠ 0 := by
    have := Nat.two_pow_pos (3 * exponent + u)
    omega
  have := (Nat.le_log2 nonzero).mpr bound
  omega

/-- A decimal whose last digit stands 400 places behind its first binary digit is nearest
to zero. -/
theorem nearestRank_eq_zero_of_ten_pow {digits exponent : Nat}
    (small : 400 + digits.log2 < exponent) :
    nearestRank (digits * unitsInOne) (10 ^ exponent) = 0 := by
  obtain ⟨u, eq, units⟩ := unitsInOne_eq
  apply nearestRank_eq_zero
  calc 2 * (digits * unitsInOne) = digits * 2 ^ (u + 1) := by rw [units]; ring
    _ < 2 ^ (digits.log2 + 1) * 2 ^ (u + 1) :=
        Nat.mul_lt_mul_of_pos_right Nat.lt_log2_self (Nat.two_pow_pos _)
    _ = 2 ^ (digits.log2 + 1 + (u + 1)) := (pow_add ..).symm
    _ ≤ 2 ^ (3 * exponent) := Nat.pow_le_pow_right (by norm_num) (by omega)
    _ ≤ 10 ^ exponent := two_pow_le_ten_pow exponent

/-- A decimal is read as the number nearest to it. The shortcuts make no difference. -/
theorem ofDecimal_eq (negative : Bool) (digits : Nat) (exponent : Int) :
    ofDecimal negative digits exponent =
      ofRank negative
        (nearestRank (digits * 10 ^ exponent.toNat * unitsInOne) (10 ^ (-exponent).toNat)) := by
  by_cases zero : digits = 0
  · have rank : nearestRank 0 (10 ^ (-exponent).toNat) = 0 :=
      nearestRank_eq_zero (by positivity)
    simp only [ofDecimal, zero, if_true, zero_mul, rank]
  by_cases huge : 400 < exponent
  · have past := @finiteRanks_le_nearestRank_ten_pow digits exponent.toNat zero (by omega)
    have whole : (-exponent).toNat = 0 := by omega
    simp only [ofDecimal, zero, huge, if_true, if_false, whole, pow_zero]
    exact (ofRank_eq_infinite past).symm
  by_cases tiny : exponent + digits.log2 < -400
  · have rank := @nearestRank_eq_zero_of_ten_pow digits (-exponent).toNat (by omega)
    have fraction : exponent.toNat = 0 := by omega
    simp only [ofDecimal, zero, huge, tiny, if_true, if_false, fraction, pow_zero, mul_one, rank]
  by_cases whole : 0 ≤ exponent
  · have integral : (-exponent).toNat = 0 := by omega
    simp only [ofDecimal, zero, huge, tiny, whole, if_true, if_false, ofRatio, integral, pow_zero,
      Nat.pow_eq]
  · have fraction : exponent.toNat = 0 := by omega
    simp only [ofDecimal, zero, huge, tiny, whole, if_false, ofRatio, fraction, pow_zero, mul_one,
      Nat.pow_eq]

/-- A zero at the end of the digits counts as one power of ten. -/
theorem ofDecimal_mul_ten (negative : Bool) (digits : Nat) (exponent : Int) :
    ofDecimal negative (digits * 10) exponent = ofDecimal negative digits (exponent + 1) := by
  rw [ofDecimal_eq, ofDecimal_eq]
  generalize unitsInOne = units
  apply congrArg (ofRank negative)
  apply nearestRank_congr (by positivity) (by positivity)
  have ten : 10 * 10 ^ exponent.toNat * 10 ^ (-(exponent + 1)).toNat =
      10 ^ (exponent + 1).toNat * 10 ^ (-exponent).toNat := by
    rw [← pow_succ', ← pow_add, ← pow_add]
    congr 1
    omega
  calc digits * 10 * 10 ^ exponent.toNat * units * 10 ^ (-(exponent + 1)).toNat
      = digits * units * (10 * 10 ^ exponent.toNat * 10 ^ (-(exponent + 1)).toNat) := by ring
    _ = digits * units * (10 ^ (exponent + 1).toNat * 10 ^ (-exponent).toNat) := by rw [ten]
    _ = digits * 10 ^ (exponent + 1).toNat * units * 10 ^ (-exponent).toNat := by ring

/-- Zeros at the end of the digits count as powers of ten. -/
theorem ofDecimal_mul_ten_pow (negative : Bool) (digits zeros : Nat) (exponent : Int) :
    ofDecimal negative (digits * 10 ^ zeros) exponent =
      ofDecimal negative digits (exponent + zeros) := by
  induction zeros generalizing exponent with
  | zero => simp
  | succ zeros ih =>
      rw [pow_succ, ← mul_assoc, ofDecimal_mul_ten, ih]
      congr 1
      push_cast
      ring

end Stencil.Binary64
