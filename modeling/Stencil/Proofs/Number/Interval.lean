/-
# The decimals that read as a number

The values that are read as one number lie together: what lies between two of them is read as this
number as well. The number itself is among them, and whatever is very close to it. The exponent of
the leading digit of a decimal says between which powers of ten its value lies.
-/

import Mathlib.Algebra.Order.Field.Power
import Stencil.Proofs.Number.Nearest
import Stencil.Proofs.Number.Order

namespace Stencil

namespace Binary64

variable {num den rank : Nat} {p q : ℚ}

/-- What the magnitude of a rank is. -/
def rankValue (rank : Nat) : ℚ := units rank / unitsInOne

/-- The rank nearest to a magnitude. -/
def nearestTo (q : ℚ) : Nat := nearestRank (q.num.toNat * unitsInOne) q.den

theorem nearestTo_div (num : Nat) (pos : 0 < den) :
    nearestTo ((num : ℚ) / den) = nearestRank (num * unitsInOne) den := by
  have nonzero : (den : ℚ) ≠ 0 := by positivity
  have least : 0 ≤ ((num : ℚ) / den).num := Rat.num_nonneg.mpr (by positivity)
  apply nearestRank_congr (Rat.den_pos _) pos
  have same : (((num : ℚ) / den).num.toNat : ℚ) * den = num * ((num : ℚ) / den).den := by
    have ratio := Rat.num_div_den ((num : ℚ) / den)
    rw [div_eq_div_iff (by positivity) nonzero] at ratio
    rw [← ratio]
    exact_mod_cast congrArg (fun n : Int => (n : ℚ) * den) (Int.toNat_of_nonneg least)
  have same : ((num : ℚ) / den).num.toNat * den = num * ((num : ℚ) / den).den := by
    exact_mod_cast same
  calc ((num : ℚ) / den).num.toNat * unitsInOne * den
      = ((num : ℚ) / den).num.toNat * den * unitsInOne := by ring
    _ = num * ((num : ℚ) / den).den * unitsInOne := by rw [same]
    _ = num * unitsInOne * ((num : ℚ) / den).den := by ring

theorem nearestTo_natCast (n : Nat) : nearestTo n = nearestRank (n * unitsInOne) 1 := by
  have whole := nearestTo_div n one_pos
  rwa [Nat.cast_one, div_one] at whole

/-- Every magnitude is a ratio of natural numbers. -/
theorem eq_toNat_div_den (least : 0 ≤ q) : q = (q.num.toNat : ℚ) / q.den := by
  have numerator : ((q.num.toNat : Int) : ℚ) = q.num :=
    congrArg _ (Int.toNat_of_nonneg (Rat.num_nonneg.mpr least))
  rw [Int.cast_natCast] at numerator
  rw [numerator, Rat.num_div_den]

/-- A larger magnitude has no smaller rank. -/
theorem nearestTo_mono (least : 0 ≤ p) (le : p ≤ q) : nearestTo p ≤ nearestTo q := by
  apply nearestRank_mono p.den_pos q.den_pos
  have cross : (p.num.toNat : ℚ) * q.den ≤ q.num.toNat * p.den := by
    rw [← div_le_div_iff₀ (by exact_mod_cast p.den_pos) (by exact_mod_cast q.den_pos),
      ← eq_toNat_div_den least, ← eq_toNat_div_den (least.trans le)]
    exact le
  have cross : p.num.toNat * q.den ≤ q.num.toNat * p.den := by exact_mod_cast cross
  calc p.num.toNat * unitsInOne * q.den = p.num.toNat * q.den * unitsInOne := by ring
    _ ≤ q.num.toNat * p.den * unitsInOne := Nat.mul_le_mul_right _ cross
    _ = q.num.toNat * unitsInOne * p.den := by ring

/-- What lies between two values that read as one number reads as this number. -/
theorem nearestTo_eq_of_between {r : ℚ} (first : nearestTo p = rank) (last : nearestTo r = rank)
    (least : 0 ≤ p) (above : p ≤ q) (below : q ≤ r) : nearestTo q = rank :=
  le_antisymm ((nearestTo_mono (least.trans above) below).trans last.le)
    (first.ge.trans (nearestTo_mono least above))

/-- A rank is nearest to its own magnitude. -/
@[simp]
theorem nearestTo_rankValue (rank : Nat) : nearestTo (rankValue rank) = rank := by
  rw [rankValue, nearestTo_div _ unitsInOne_pos, nearestRank_units_mul _ unitsInOne_pos]

theorem rankValue_nonneg (rank : Nat) : 0 ≤ rankValue rank := by
  rw [rankValue]
  positivity

theorem rankValue_inj {other : Nat} (same : rankValue rank = rankValue other) : rank = other := by
  rw [← nearestTo_rankValue rank, same, nearestTo_rankValue]

@[simp]
theorem rankValue_zero : rankValue 0 = 0 := by
  have unitsZero : units 0 = 0 := if_pos octave_pos
  rw [rankValue, unitsZero, Nat.cast_zero, zero_div]

theorem rankValue_pos (positive : rank ≠ 0) : 0 < rankValue rank := by
  refine (rankValue_nonneg rank).lt_of_ne fun zero => positive ?_
  rw [← rankValue_zero] at zero
  exact (rankValue_inj zero).symm

theorem rankValue_mono {other : Nat} (le : rank ≤ other) : rankValue rank ≤ rankValue other := by
  by_contra less
  have ranks := nearestTo_mono (rankValue_nonneg other) (not_le.mp less).le
  rw [nearestTo_rankValue, nearestTo_rankValue] at ranks
  rw [le_antisymm le ranks] at less
  exact less le_rfl

/-- A number is whole unless it has binary digits behind its point, which only small numbers
have. -/
theorem exists_rankValue_eq_or_lt (rank : Nat) :
    (∃ n : Nat, rankValue rank = n) ∨ rankValue rank < octave := by
  obtain ⟨u, -, scale⟩ := unitsInOne_eq
  obtain ⟨shift, digits, rfl, most, least⟩ := exists_octave rank
  rw [rankValue, units_add most.le least, scale]
  have one : (0 : ℚ) < (2 ^ u : Nat) := by positivity
  rcases le_or_gt u shift with coarse | fine
  · refine .inl ⟨digits * 2 ^ (shift - u), ?_⟩
    rw [div_eq_iff one.ne', ← Nat.sub_add_cancel coarse, Nat.add_sub_cancel, pow_add]
    push_cast
    ring
  · right
    rw [div_lt_iff₀ one]
    have less : digits * 2 ^ shift < octave * 2 ^ u := by
      calc digits * 2 ^ shift < 2 * octave * 2 ^ shift :=
            Nat.mul_lt_mul_of_pos_right most (Nat.two_pow_pos shift)
        _ = octave * 2 ^ (shift + 1) := by ring
        _ ≤ octave * 2 ^ u := Nat.mul_le_mul_left _ (Nat.pow_le_pow_right two_pos fine)
    exact_mod_cast less

/-- What is very close to a number has the rank of this number. -/
theorem nearestTo_of_close (close : |q - rankValue rank| * 2 ^ 54 < rankValue rank) :
    nearestTo q = rank := by
  have one : (0 : ℚ) < unitsInOne := by exact_mod_cast unitsInOne_pos
  have least : 0 ≤ q := by
    have lower := (abs_sub_le_iff.mp le_rfl : _ ∧ rankValue rank - q ≤ |q - rankValue rank|).2
    have := abs_nonneg (q - rankValue rank)
    linarith
  apply nearestRank_of_close q.den_pos
  have ratio : ((q.num.toNat * unitsInOne : Nat) : ℚ) / q.den = q * unitsInOne := by
    rw [Nat.cast_mul, mul_div_right_comm, ← eq_toNat_div_den least]
  have scale : (units rank : ℚ) = rankValue rank * unitsInOne := by
    rw [rankValue, div_mul_cancel₀ _ one.ne']
  rw [ratio, scale, ← sub_mul, abs_mul, abs_of_pos one, mul_right_comm]
  exact mul_lt_mul_of_pos_right close one

/-- The number nearest to a whole one is whole. -/
theorem exists_rankValue_nearestTo_natCast (n : Nat) :
    ∃ m : Nat, rankValue (nearestTo n) = m := by
  have one : (unitsInOne : ℚ) ≠ 0 := by exact_mod_cast unitsInOne_pos.ne'
  obtain ⟨m, multiple⟩ := unitsInOne_dvd_units_nearestRank n
  refine ⟨m, ?_⟩
  rw [rankValue, nearestTo_natCast, multiple, Nat.cast_mul, mul_div_cancel_left₀ _ one]

/-- A whole number is rounded by no more than the number over `2 ^ 53`. -/
theorem abs_sub_rankValue_nearestTo_natCast_le (n : Nat) :
    |(n : ℚ) - rankValue (nearestTo n)| * 2 ^ 53 ≤ n := by
  have one : (0 : ℚ) < unitsInOne := by exact_mod_cast unitsInOne_pos
  have near := abs_sub_units_nearestRank_le (n * unitsInOne)
  rw [← nearestTo_natCast] at near
  have scale : (units (nearestTo n) : ℚ) = rankValue (nearestTo n) * unitsInOne := by
    rw [rankValue, div_mul_cancel₀ _ one.ne']
  rw [scale, Nat.cast_mul, ← sub_mul, abs_mul, abs_of_pos one, mul_right_comm] at near
  exact le_of_mul_le_mul_right near one

/-- A whole number of at most 53 binary digits is a number of its own, and so is the next one. -/
theorem rankValue_nearestTo_natCast {n : Nat} (small : n ≤ 2 * octave) :
    rankValue (nearestTo n) = n := by
  have one : (unitsInOne : ℚ) ≠ 0 := by exact_mod_cast unitsInOne_pos.ne'
  rw [rankValue, nearestTo_natCast, units_nearestRank_of_le small, Nat.cast_mul,
    mul_div_cancel_right₀ _ one]

/-- No other whole number is read as a whole number of at most 53 binary digits. -/
theorem eq_of_nearestTo_natCast {n m : Nat} (whole : rankValue rank = n) (small : n < 2 * octave)
    (reads : nearestTo m = rank) : m = n := by
  have own {k : Nat} (few : k ≤ 2 * octave) (reads : nearestTo k = rank) : k = n := by
    have value := rankValue_nearestTo_natCast few
    rw [reads, whole] at value
    exact_mod_cast value.symm
  rcases le_or_gt m (2 * octave) with few | many
  · exact own few reads
  · have between : nearestTo (2 * octave : Nat) = rank := by
      refine nearestTo_eq_of_between (nearestTo_rankValue rank) reads (rankValue_nonneg rank) ?_ ?_
      · rw [whole]
        exact_mod_cast small.le
      · exact_mod_cast many.le
    have next := own le_rfl between
    omega

end Binary64

namespace Decimal

open Binary64

variable {d o : Decimal} {rank : Nat} {leading : Int}

/-- What a decimal is. -/
def value (d : Decimal) : ℚ := d.digits * 10 ^ d.exponent

/-- How many digits a decimal is written with. -/
def length (d : Decimal) : Nat := d.digitChars.length

/-- A decimal reads as the number of a rank. -/
def ReadsAs (d : Decimal) (rank : Nat) : Prop :=
  ofDecimal false d.digits d.exponent = ofRank false rank

theorem value_nonneg (d : Decimal) : 0 ≤ d.value := by
  rw [value]
  positivity

/-- A decimal is read as the number nearest to it. -/
theorem ofDecimal_eq_ofRank (negative : Bool) (d : Decimal) :
    ofDecimal negative d.digits d.exponent = ofRank negative (nearestTo d.value) := by
  have power : (10 : ℚ) ^ d.exponent = 10 ^ d.exponent.toNat / 10 ^ (-d.exponent).toNat := by
    rw [← zpow_natCast, ← zpow_natCast, ← zpow_sub₀ (by norm_num)]
    congr 1
    omega
  have ratio : d.value = ((d.digits * 10 ^ d.exponent.toNat : Nat) : ℚ) /
      ((10 ^ (-d.exponent).toNat : Nat) : ℚ) := by
    rw [value, power]
    push_cast
    ring
  rw [ratio, nearestTo_div _ (by positivity), ofDecimal_eq]

theorem readsAs_iff (finite : rank < finiteRanks) : d.ReadsAs rank ↔ nearestTo d.value = rank := by
  rw [ReadsAs, ofDecimal_eq_ofRank]
  exact ⟨ofRank_inj finite, congrArg (ofRank false)⟩

/-! ## The leading digit -/

theorem length_pos (d : Decimal) : 0 < d.length := List.length_pos_of_ne_nil Nat.toDigits_ne_nil

theorem digits_lt (d : Decimal) : d.digits < 10 ^ d.length :=
  (Nat.length_toDigits_le_iff (by decide) d.length_pos).mp le_rfl

theorem le_digits (digitsNonzero : d.digits ≠ 0) : 10 ^ (d.length - 1) ≤ d.digits := by
  by_contra less
  by_cases one : d.length = 1
  · simp [one] at less
    exact digitsNonzero less
  · have pos := d.length_pos
    have shorter := (Nat.length_toDigits_le_iff (b := 10) (by decide)
      (show 0 < d.length - 1 by omega)).mpr (not_le.mp less)
    rw [length, digitChars] at *
    omega

/-- The value of a decimal lies between the powers of ten of its leading digit and of the next
one. -/
theorem value_bounds (digitsNonzero : d.digits ≠ 0) :
    (10 : ℚ) ^ d.leadingExponent ≤ d.value ∧ d.value < 10 ^ (d.leadingExponent + 1) := by
  have pos := d.length_pos
  have scale : (0 : ℚ) < 10 ^ d.exponent := by positivity
  have lower : ((10 ^ (d.length - 1) : Nat) : ℚ) ≤ d.digits := by
    exact_mod_cast le_digits digitsNonzero
  have upper : (d.digits : ℚ) < (10 ^ d.length : Nat) := by exact_mod_cast d.digits_lt
  have first : d.leadingExponent = (d.length - 1 : Nat) + d.exponent := by
    rw [leadingExponent, length] at *
    omega
  have next : d.leadingExponent + 1 = d.length + d.exponent := by
    rw [leadingExponent, length]
    omega
  rw [next, first, zpow_add₀ (by norm_num), zpow_add₀ (by norm_num), zpow_natCast, zpow_natCast,
    value]
  push_cast at lower upper
  exact ⟨by gcongr, by gcongr⟩

/-- Between two powers of ten there is only one place for the leading digit. -/
theorem leadingExponent_eq (digitsNonzero : d.digits ≠ 0) (lower : (10 : ℚ) ^ leading ≤ d.value)
    (upper : d.value < 10 ^ (leading + 1)) : d.leadingExponent = leading := by
  obtain ⟨least, most⟩ := value_bounds digitsNonzero
  have below := (zpow_lt_zpow_iff_right₀ (by norm_num : (1 : ℚ) < 10)).mp (least.trans_lt upper)
  have above := (zpow_lt_zpow_iff_right₀ (by norm_num : (1 : ℚ) < 10)).mp (lower.trans_lt most)
  omega

end Decimal

end Stencil
