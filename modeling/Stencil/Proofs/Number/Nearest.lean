/-
# The nearest number

A quotient is rounded to a whole number at most one half away, and a tie goes to an even one. The
rank nearest to a ratio is found by such a rounding at the spacing of the octave that the ratio lies
in. So a larger ratio has no smaller rank, a ratio that is very close to a number has the rank of
this number, and the number nearest to a whole one is whole.
-/

import Mathlib.Algebra.Order.AbsoluteValue.Basic
import Mathlib.Algebra.Order.Field.Basic
import Mathlib.Data.Rat.Cast.Order
import Mathlib.Tactic.FieldSimp
import Mathlib.Tactic.Positivity
import Stencil.Proofs.Number.Rounding

namespace Stencil.Binary64

variable {num den shift : Nat}

/-! ## Rounding a quotient -/

/-- What a quotient is, by its whole part and its remainder. -/
theorem div_eq_whole_add (num : Nat) (pos : 0 < den) :
    (num : ℚ) / den = (num / den : Nat) + (num % den : Nat) / (den : ℚ) := by
  have nonzero : (den : ℚ) ≠ 0 := by positivity
  have split : ((den * (num / den) + num % den : Nat) : ℚ) = num := by rw [Nat.div_add_mod]
  push_cast at split
  field_simp
  linarith

/-- A rounded quotient is at most one half away, and at a distance of one half it is even. -/
theorem roundHalfEven_spec (num : Nat) (pos : 0 < den) :
    |(num : ℚ) / den - roundHalfEven num den| ≤ 1 / 2 ∧
      (|(num : ℚ) / den - roundHalfEven num den| = 1 / 2 → 2 ∣ roundHalfEven num den) := by
  have positive : (0 : ℚ) < den := by positivity
  have part : ((num % den : Nat) : ℚ) < den := by exact_mod_cast Nat.mod_lt num pos
  have least : (0 : ℚ) ≤ (num % den : Nat) / (den : ℚ) := by positivity
  have most : ((num % den : Nat) : ℚ) / den < 1 := (div_lt_one positive).mpr part
  rw [div_eq_whole_add num pos]
  simp only [roundHalfEven]
  split
  · rename_i below
    have below : ((num % den : Nat) : ℚ) / den < 1 / 2 := by
      rw [div_lt_div_iff₀ positive two_pos]
      exact_mod_cast (by omega : num % den * 2 < 1 * den)
    rw [add_sub_cancel_left, abs_of_nonneg least]
    exact ⟨below.le, fun tie => absurd tie below.ne⟩
  split
  · rename_i above
    have above : (1 : ℚ) / 2 < (num % den : Nat) / (den : ℚ) := by
      rw [div_lt_div_iff₀ two_pos positive]
      exact_mod_cast (by omega : 1 * den < num % den * 2)
    rw [Nat.cast_add, Nat.cast_one, add_sub_add_left_eq_sub, abs_of_neg (by linarith)]
    exact ⟨by linarith, fun tie => absurd tie (by linarith)⟩
  · have half : ((num % den : Nat) : ℚ) / den = 1 / 2 := by
      rw [div_eq_div_iff positive.ne' two_ne_zero]
      exact_mod_cast (by omega : num % den * 2 = 1 * den)
    rw [half, Nat.cast_add, add_sub_add_left_eq_sub]
    constructor
    · rcases Nat.mod_two_eq_zero_or_one (num / den) with even | odd
      · rw [even]
        norm_num
      · rw [odd]
        norm_num
    · intro tie
      omega

theorem abs_sub_roundHalfEven_le (num : Nat) (pos : 0 < den) :
    |(num : ℚ) / den - roundHalfEven num den| ≤ 1 / 2 :=
  (roundHalfEven_spec num pos).1

/-- A whole number less than one half away is the rounded quotient. -/
theorem roundHalfEven_eq (pos : 0 < den) {m : Nat} (close : |(num : ℚ) / den - m| < 1 / 2) :
    roundHalfEven num den = m := by
  have near := abs_sub_roundHalfEven_le num pos
  rw [abs_le] at near
  rw [abs_lt] at close
  have below : (roundHalfEven num den : ℚ) < m + 1 := by linarith
  have above : (m : ℚ) < roundHalfEven num den + 1 := by linarith
  have below : roundHalfEven num den < m + 1 := by exact_mod_cast below
  have above : m < roundHalfEven num den + 1 := by exact_mod_cast above
  omega

/-- Larger quotients are not rounded to smaller numbers. -/
theorem roundHalfEven_mono {other : Nat} (le : num ≤ other) (den : Nat) :
    roundHalfEven num den ≤ roundHalfEven other den := by
  have wholes : num / den ≤ other / den := Nat.div_le_div_right le
  have next (n : Nat) : n / den ≤ roundHalfEven n den ∧ roundHalfEven n den ≤ n / den + 1 := by
    simp only [roundHalfEven]
    split
    · omega
    split <;> omega
  by_cases same : num / den = other / den
  · have first := Nat.div_add_mod num den
    have second := Nat.div_add_mod other den
    rw [same] at first
    simp only [roundHalfEven, same]
    split
    · split
      · omega
      split <;> omega
    split
    · split
      · omega
      split <;> omega
    · split
      · omega
      split <;> omega
  · have first := next num
    have second := next other
    omega

theorem roundHalfEven_le (pos : 0 < den) {m : Nat} (le : num ≤ m * den) :
    roundHalfEven num den ≤ m := by
  have mono := roundHalfEven_mono le den
  rwa [roundHalfEven_mul_self m pos] at mono

theorem le_roundHalfEven (pos : 0 < den) {m : Nat} (le : m * den ≤ num) :
    m ≤ roundHalfEven num den := by
  have mono := roundHalfEven_mono le den
  rwa [roundHalfEven_mul_self m pos] at mono

/-! ## The octave of a ratio -/

/-- The spacing at which a ratio is rounded: the ratio has 53 binary digits in front of it, or fewer
at the least spacing. -/
structure IsShift (num den shift : Nat) : Prop where
  upper : num < 2 * octave * (den * 2 ^ shift)
  lower : shift ≠ 0 → octave * (den * 2 ^ shift) ≤ num

theorem isShift_log2 (num : Nat) (pos : 0 < den) : IsShift num den ((num / den).log2 + 1 - 53) := by
  have below : num < den * (num / den + 1) := Nat.lt_mul_div_succ num pos
  have above : den * (num / den) ≤ num := Nat.mul_div_le num den
  have log : num / den < 2 ^ ((num / den).log2 + 1) := Nat.lt_log2_self
  constructor
  · calc num < den * (num / den + 1) := below
      _ ≤ den * 2 ^ ((num / den).log2 + 1) := Nat.mul_le_mul_left _ log
      _ ≤ den * 2 ^ (53 + ((num / den).log2 + 1 - 53)) :=
          Nat.mul_le_mul_left _ (Nat.pow_le_pow_right two_pos (by omega))
      _ = 2 * octave * (den * 2 ^ ((num / den).log2 + 1 - 53)) := by
          rw [octave_eq, pow_add]
          ring
  · intro shifted
    have nonzero : num / den ≠ 0 := by
      intro zero
      simp [zero] at shifted
    have log : 2 ^ (num / den).log2 ≤ num / den := Nat.log2_self_le nonzero
    calc octave * (den * 2 ^ ((num / den).log2 + 1 - 53))
        = den * 2 ^ (52 + ((num / den).log2 + 1 - 53)) := by
          rw [octave_eq, pow_add]
          ring
      _ = den * 2 ^ (num / den).log2 := by
          congr 2
          omega
      _ ≤ num := (Nat.mul_le_mul_left _ log).trans above

namespace IsShift

/-- A larger ratio is rounded at no smaller spacing. -/
theorem mono {other shift' : Nat} (h : IsShift num den shift) (h' : IsShift other den shift')
    (le : num ≤ other) : shift ≤ shift' := by
  by_contra less
  have lower := h.lower (by omega)
  have doubled : 2 * (den * 2 ^ shift') ≤ den * 2 ^ shift := by
    calc 2 * (den * 2 ^ shift') = den * 2 ^ (shift' + 1) := by ring
      _ ≤ den * 2 ^ shift := Nat.mul_le_mul_left _ (Nat.pow_le_pow_right two_pos (by omega))
  have apart : 2 * octave * (den * 2 ^ shift') ≤ octave * (den * 2 ^ shift) := by
    calc 2 * octave * (den * 2 ^ shift') = octave * (2 * (den * 2 ^ shift')) := by ring
      _ ≤ octave * (den * 2 ^ shift) := Nat.mul_le_mul_left _ doubled
  have upper := h'.upper
  omega

theorem nearestRank_eq (h : IsShift num den shift) (pos : 0 < den) :
    nearestRank num den = shift * octave + roundHalfEven num (den * 2 ^ shift) := by
  have found := isShift_log2 num pos
  have same := le_antisymm (h.mono found le_rfl) (found.mono h le_rfl)
  simp only [nearestRank, ← same, Nat.shiftLeft_eq]

theorem roundHalfEven_le (h : IsShift num den shift) (pos : 0 < den) :
    roundHalfEven num (den * 2 ^ shift) ≤ 2 * octave :=
  Binary64.roundHalfEven_le (by positivity) h.upper.le

theorem le_roundHalfEven (h : IsShift num den shift) (pos : 0 < den) (shifted : shift ≠ 0) :
    octave ≤ roundHalfEven num (den * 2 ^ shift) :=
  Binary64.le_roundHalfEven (by positivity) (h.lower shifted)

end IsShift

/-! ## The order of ratios and ranks -/

theorem nearestRank_mono_left {other : Nat} (pos : 0 < den) (le : num ≤ other) :
    nearestRank num den ≤ nearestRank other den := by
  obtain h := isShift_log2 num pos
  obtain h' := isShift_log2 other pos
  generalize (num / den).log2 + 1 - 53 = shift at h
  generalize (other / den).log2 + 1 - 53 = shift' at h'
  rw [h.nearestRank_eq pos, h'.nearestRank_eq pos]
  rcases (h.mono h' le).eq_or_lt with rfl | less
  · exact Nat.add_le_add_left (roundHalfEven_mono le _) _
  · calc shift * octave + roundHalfEven num (den * 2 ^ shift)
        ≤ shift * octave + 2 * octave := Nat.add_le_add_left (h.roundHalfEven_le pos) _
      _ = (shift + 1) * octave + octave := by ring
      _ ≤ shift' * octave + octave := Nat.add_le_add_right (Nat.mul_le_mul_right _ less) _
      _ ≤ shift' * octave + roundHalfEven other (den * 2 ^ shift') :=
          Nat.add_le_add_left (h'.le_roundHalfEven pos (by omega)) _

/-- A larger ratio has no smaller rank. -/
theorem nearestRank_mono {num' den' : Nat} (pos : 0 < den) (pos' : 0 < den')
    (le : num * den' ≤ num' * den) : nearestRank num den ≤ nearestRank num' den' := by
  rw [← nearestRank_mul_right num den pos', ← nearestRank_mul_right num' den' pos,
    Nat.mul_comm den' den]
  exact nearestRank_mono_left (Nat.mul_pos pos pos') le

/-! ## Magnitudes of ranks -/

/-- The magnitude of the ranks of an octave, up to the first one of the next octave. -/
theorem units_add {digits : Nat} (most : digits ≤ 2 * octave)
    (least : shift ≠ 0 → octave ≤ digits) : units (shift * octave + digits) = digits * 2 ^ shift := by
  have octavePos := octave_pos
  rw [units]
  split
  · rename_i low
    have unshifted : shift = 0 := by
      by_contra positive
      have := least positive
      omega
    simp [unshifted]
  · rename_i high
    rw [Nat.shiftLeft_eq]
    rcases most.eq_or_lt with rfl | less
    · have rank : shift * octave + 2 * octave = octave * (shift + 2) := by ring
      rw [rank, Nat.mul_mod_right, Nat.mul_div_cancel_left _ octavePos, Nat.add_zero,
        Nat.add_sub_assoc (by omega), pow_add]
      ring
    · have enough : octave ≤ digits := by
        by_cases unshifted : shift = 0
        · simpa [unshifted] using high
        · exact least unshifted
      have rank : shift * octave + digits = digits - octave + octave * (shift + 1) := by
        have : octave * (shift + 1) = shift * octave + octave := by ring
        omega
      have part : digits - octave < octave := by omega
      rw [rank, Nat.add_mul_mod_self_left, Nat.add_mul_div_left _ _ octavePos,
        Nat.mod_eq_of_lt part,
        Nat.div_eq_of_lt part, Nat.add_sub_cancel' enough]
      congr 2
      omega

/-- A rank is nearest to its magnitude, whatever the unit. -/
theorem nearestRank_units_mul {k : Nat} (rank : Nat) (pos : 0 < k) :
    nearestRank (units rank * k) k = rank := by
  have scaled := nearestRank_mul_right (units rank) 1 pos
  rwa [one_mul, nearestRank_units] at scaled

/-- Every rank stands in an octave. -/
theorem exists_octave (rank : Nat) :
    ∃ shift digits, rank = shift * octave + digits ∧ digits < 2 * octave ∧
      (shift ≠ 0 → octave ≤ digits) := by
  by_cases low : rank < octave
  · exact ⟨0, rank, by simp, by omega, by simp⟩
  · have octavePos := octave_pos
    have whole : 0 < rank / octave := Nat.div_pos (Nat.le_of_not_lt low) octavePos
    have part := Nat.mod_lt rank octavePos
    refine ⟨rank / octave - 1, octave + rank % octave, ?_, by omega, fun _ => by omega⟩
    have split := Nat.div_add_mod rank octave
    have last : (rank / octave - 1) * octave + octave = octave * (rank / octave) := by
      calc (rank / octave - 1) * octave + octave = (rank / octave - 1 + 1) * octave := by ring
        _ = octave * (rank / octave) := by rw [Nat.sub_add_cancel whole, Nat.mul_comm]
    omega

/-- The magnitude of the nearest rank is the ratio rounded at its spacing. -/
theorem IsShift.units_nearestRank (h : IsShift num den shift) (pos : 0 < den) :
    units (nearestRank num den) = roundHalfEven num (den * 2 ^ shift) * 2 ^ shift := by
  rw [h.nearestRank_eq pos]
  exact units_add (h.roundHalfEven_le pos) (h.le_roundHalfEven pos)

/-- A ratio without a part behind its spacing is rounded to itself. -/
theorem IsShift.units_nearestRank_of_dvd (h : IsShift num 1 shift) (dvd : 2 ^ shift ∣ num) :
    units (nearestRank num 1) = num := by
  obtain ⟨digits, rfl⟩ := dvd
  rw [h.units_nearestRank one_pos, one_mul, Nat.mul_comm (2 ^ shift) digits,
    roundHalfEven_mul_self _ (Nat.two_pow_pos shift)]

/-- The number nearest to a whole one is whole. -/
theorem unitsInOne_dvd_units_nearestRank (n : Nat) :
    unitsInOne ∣ units (nearestRank (n * unitsInOne) 1) := by
  obtain ⟨u, -, scale⟩ := unitsInOne_eq
  rw [scale]
  have h := isShift_log2 (n * 2 ^ u) one_pos
  generalize (n * 2 ^ u / 1).log2 + 1 - 53 = shift at h
  rcases le_total shift u with fine | coarse
  · rw [h.units_nearestRank_of_dvd (Dvd.dvd.mul_left (pow_dvd_pow 2 fine) n)]
    exact Nat.dvd_mul_left _ _
  · rw [h.units_nearestRank one_pos]
    exact Dvd.dvd.mul_left (pow_dvd_pow 2 coarse) _

/-- A whole number of at most 53 binary digits is a number of its own, and so is the next one. -/
theorem units_nearestRank_of_le {n : Nat} (small : n ≤ 2 * octave) :
    units (nearestRank (n * unitsInOne) 1) = n * unitsInOne := by
  obtain ⟨u, -, scale⟩ := unitsInOne_eq
  rw [scale]
  have h := isShift_log2 (n * 2 ^ u) one_pos
  generalize (n * 2 ^ u / 1).log2 + 1 - 53 = shift at h
  apply h.units_nearestRank_of_dvd
  rcases le_or_gt shift u with fine | coarse
  · exact Dvd.dvd.mul_left (pow_dvd_pow 2 fine) n
  · -- only the next one has a spacing of more than one
    have lower := h.lower (by omega)
    have least : octave * (1 * 2 ^ (u + 1)) ≤ octave * (1 * 2 ^ shift) := by
      gcongr
      · norm_num
      · exact coarse
    have next : n = 2 * octave := by
      refine small.antisymm (le_of_mul_le_mul_right ?_ (Nat.two_pow_pos u))
      calc 2 * octave * 2 ^ u = octave * (1 * 2 ^ (u + 1)) := by ring
        _ ≤ n * 2 ^ u := least.trans lower
    have power : n * 2 ^ u = 2 ^ (53 + u) := by
      rw [next, octave_eq, pow_add]
      norm_num
    rw [power] at lower ⊢
    refine pow_dvd_pow 2 ((Nat.pow_le_pow_iff_right (by decide : 1 < 2)).mp (le_trans ?_ lower))
    rw [one_mul]
    exact Nat.le_mul_of_pos_left _ octave_pos

/-! ## How far numbers are away -/

theorem cast_octave : (octave : ℚ) = 2 ^ 52 := by
  rw [octave_eq]
  norm_num

/-- A whole number of units is rounded by no more than the number over `2 ^ 53`. -/
theorem abs_sub_units_nearestRank_le (num : Nat) :
    |(num : ℚ) - units (nearestRank num 1)| * 2 ^ 53 ≤ num := by
  have h := isShift_log2 num one_pos
  generalize (num / 1).log2 + 1 - 53 = shift at h
  rw [h.units_nearestRank one_pos, one_mul]
  by_cases unshifted : shift = 0
  · simp [unshifted, roundHalfEven_one]
  · have spacing : (0 : ℚ) < 2 ^ shift := by positivity
    have near := abs_sub_roundHalfEven_le num (Nat.two_pow_pos shift)
    have lower := h.lower unshifted
    have lower : (octave : ℚ) * 2 ^ shift ≤ num := by
      rw [one_mul] at lower
      exact_mod_cast lower
    have scaled : (num : ℚ) - (roundHalfEven num (2 ^ shift) * 2 ^ shift : Nat) =
        (num / (2 ^ shift : Nat) - roundHalfEven num (2 ^ shift)) * 2 ^ shift := by
      push_cast
      field_simp
    rw [scaled, abs_mul, abs_of_pos spacing]
    rw [cast_octave] at lower
    generalize |(num : ℚ) / (2 ^ shift : Nat) - roundHalfEven num (2 ^ shift)| = distance at near ⊢
    nlinarith

theorem isShift_of_div (pos : 0 < den) (upper : (num : ℚ) / den < 2 * octave * 2 ^ shift)
    (lower : shift ≠ 0 → octave * 2 ^ shift ≤ (num : ℚ) / den) : IsShift num den shift := by
  have positive : (0 : ℚ) < den := by positivity
  constructor
  · rw [div_lt_iff₀ positive] at upper
    have upper : (num : ℚ) < ((2 * octave * (den * 2 ^ shift) : Nat) : ℚ) := by
      push_cast
      linarith
    exact_mod_cast upper
  · intro shifted
    have lower := lower shifted
    rw [le_div_iff₀ positive] at lower
    have lower : ((octave * (den * 2 ^ shift) : Nat) : ℚ) ≤ num := by
      push_cast
      linarith
    exact_mod_cast lower

/-- In an octave a ratio has the rank that it is less than half a spacing away from. -/
theorem nearestRank_of_spacing (pos : 0 < den) {digits : Nat}
    (upper : (num : ℚ) / den < 2 * octave * 2 ^ shift)
    (lower : shift ≠ 0 → octave * 2 ^ shift ≤ (num : ℚ) / den)
    (close : |(num : ℚ) / den - digits * 2 ^ shift| < 2 ^ shift / 2) :
    nearestRank num den = shift * octave + digits := by
  rw [(isShift_of_div pos upper lower).nearestRank_eq pos]
  congr 1
  apply roundHalfEven_eq (by positivity)
  have spacing : (0 : ℚ) < 2 ^ shift := by positivity
  have scaled : (num : ℚ) / (den * 2 ^ shift : Nat) - digits =
      ((num : ℚ) / den - digits * 2 ^ shift) / 2 ^ shift := by
    push_cast
    field_simp
  rw [scaled, abs_div, abs_of_pos spacing, div_lt_iff₀ spacing]
  linarith

/-- A ratio below an octave that is less than half a spacing of its own away from the first number
of the octave has the rank of this number. -/
theorem nearestRank_of_below_octave (pos : 0 < den)
    (below : (num : ℚ) / den < 2 * octave * 2 ^ shift)
    (close : |(num : ℚ) / den - 2 * octave * 2 ^ shift| < 2 ^ shift / 2) :
    nearestRank num den = (shift + 1) * octave + octave := by
  have spacing : (0 : ℚ) < 2 ^ shift := by positivity
  have bounds := abs_lt.mp close
  have last : nearestRank num den = shift * octave + 2 * octave := by
    apply nearestRank_of_spacing pos below
    · intro _
      rw [cast_octave] at bounds ⊢
      linarith
    · rwa [Nat.cast_mul, Nat.cast_ofNat]
  rw [last]
  ring

/-- A ratio whose distance to a number is less than the number over `2 ^ 54` has the rank of this
number. -/
theorem nearestRank_of_close (pos : 0 < den) {rank : Nat}
    (close : |(num : ℚ) / den - units rank| * 2 ^ 54 < units rank) :
    nearestRank num den = rank := by
  obtain ⟨shift, digits, rfl, most, least⟩ := exists_octave rank
  rw [units_add most.le least] at close
  push_cast at close
  have most : (digits : ℚ) + 1 ≤ 2 * 2 ^ 52 := by
    rw [← cast_octave]
    exact_mod_cast most
  have spacing : (0 : ℚ) < 2 ^ shift := by positivity
  have half : |(num : ℚ) / den - digits * 2 ^ shift| < 2 ^ shift / 2 := by nlinarith
  have bounds := abs_lt.mp half
  by_cases inside : shift ≠ 0 → octave * 2 ^ shift ≤ (num : ℚ) / den
  · refine nearestRank_of_spacing pos ?_ inside half
    rw [cast_octave]
    nlinarith
  · -- the number is the first one of its octave, and the ratio lies in the octave below it
    push Not at inside
    obtain ⟨shifted, below⟩ := inside
    have first : digits = octave := by
      by_contra other
      have more : octave + 1 ≤ digits := by
        have := least shifted
        omega
      have more : (2 ^ 52 + 1 : ℚ) ≤ digits := by
        rw [← cast_octave]
        exact_mod_cast more
      rw [cast_octave] at below
      nlinarith
    obtain ⟨before, rfl⟩ := Nat.exists_eq_add_one_of_ne_zero shifted
    have twice : (octave : ℚ) * 2 ^ (before + 1) = 2 * octave * 2 ^ before := by ring
    rw [first, twice] at close
    rw [twice] at below
    rw [first]
    refine nearestRank_of_below_octave pos below ?_
    generalize |(num : ℚ) / den - 2 * octave * 2 ^ before| = distance at close ⊢
    rw [cast_octave] at close
    linarith

end Stencil.Binary64
