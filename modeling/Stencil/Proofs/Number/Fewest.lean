/-
# The decimal chosen for a number

Of the decimals that read as a number those with the fewest digits are candidates for its text, of
these the nearest one is chosen, and of two equally near ones the even one. No two decimals are
chosen for one number, and the search for a shortest decimal finds the chosen one.
-/

import Mathlib.Data.Nat.Prime.Basic
import Stencil.Proofs.Number.Grid
import Stencil.Proofs.Number.Shortest

namespace Stencil.Decimal

open Binary64

variable {rank : Nat} {d o m : Decimal}

/-- A decimal reads as a number, and none with fewer digits does. -/
structure IsFewest (rank : Nat) (d : Decimal) : Prop where
  reads : d.ReadsAs rank
  fewest : ∀ o : Decimal, o.ReadsAs rank → d.length ≤ o.length

/-- A decimal is chosen for a number: it has the fewest digits, none that has so few is nearer to
the number, and if another one is equally near, the digits are even. -/
structure IsChosen (rank : Nat) (d : Decimal) : Prop where
  fewest : d.IsFewest rank
  nearest : ∀ o : Decimal, o.IsFewest rank →
    |d.value - rankValue rank| ≤ |o.value - rankValue rank|
  even : ∀ o : Decimal, o.IsFewest rank →
    |o.value - rankValue rank| = |d.value - rankValue rank| → o = d ∨ 2 ∣ d.digits

/-- A positive number is not read from a decimal without digits. -/
theorem ReadsAs.digits_ne_zero (reads : d.ReadsAs rank) (finite : rank < finiteRanks)
    (positive : rank ≠ 0) : d.digits ≠ 0 := by
  intro digitsZero
  rw [readsAs_iff finite, value, digitsZero, Nat.cast_zero, zero_mul, ← rankValue_zero,
    nearestTo_rankValue] at reads
  exact positive reads.symm

/-- What lies between two decimals that read as a number reads as this number. -/
theorem ReadsAs.of_between (finite : rank < finiteRanks) (first : d.ReadsAs rank)
    (last : o.ReadsAs rank) (above : d.value ≤ m.value) (below : m.value ≤ o.value) :
    m.ReadsAs rank := by
  rw [readsAs_iff finite] at *
  exact nearestTo_eq_of_between first last (value_nonneg d) above below

/-- A value is written with a number of digits in one way only. -/
theorem eq_of_value_eq (digitsNonzero : d.digits ≠ 0) (otherNonzero : o.digits ≠ 0)
    (value : d.value = o.value)
    (length : d.length = o.length) : d = o := by
  obtain ⟨least, most⟩ := value_bounds otherNonzero
  have leading := leadingExponent_eq digitsNonzero (value ▸ least) (value ▸ most)
  have exponent : d.exponent = o.exponent := by
    rw [leadingExponent, leadingExponent] at leading
    rw [Decimal.length, Decimal.length] at length
    omega
  have scale : (10 : ℚ) ^ o.exponent ≠ 0 := by positivity
  rw [Decimal.value, Decimal.value, exponent, mul_left_inj' scale] at value
  cases d
  cases o
  simp only [mk.injEq]
  exact ⟨by exact_mod_cast value, exponent⟩

theorem length_eq_one {digits : Nat} {exponent : Int} (few : digits < 10) :
    (⟨digits, exponent⟩ : Decimal).length = 1 :=
  le_antisymm ((Nat.length_toDigits_le_iff (by decide) one_pos).mpr (by simpa using few))
    (length_pos _)

/-- The smaller one of two decimals has the smaller leading exponent, or the same one. -/
theorem leadingExponent_le (digitsNonzero : d.digits ≠ 0) (otherNonzero : o.digits ≠ 0)
    (le : d.value ≤ o.value) :
    d.leadingExponent ≤ o.leadingExponent := by
  have bounds := (value_bounds digitsNonzero).1.trans_lt (le.trans_lt (value_bounds otherNonzero).2)
  have := (zpow_lt_zpow_iff_right₀ (by norm_num : (1 : ℚ) < 10)).mp bounds
  omega

theorem value_one (e : Int) : (⟨1, e⟩ : Decimal).value = 10 ^ e := by
  rw [value, Nat.cast_one, one_mul]

theorem value_ten (e : Int) : (⟨10, e⟩ : Decimal).value = 10 ^ (e + 1) := by
  rw [value, zpow_add_one₀ (by norm_num), mul_comm]
  rfl

/-- A zero at the end of the digits counts as one power of ten. -/
theorem value_div_ten (zero : d.digits % 10 = 0) :
    (⟨d.digits / 10, d.exponent + 1⟩ : Decimal).value = d.value := by
  have tens : d.digits = d.digits / 10 * 10 := by omega
  rw [value, value, zpow_add_one₀ (by norm_num), tens, Nat.mul_div_cancel _ (by decide)]
  push_cast
  ring

namespace IsFewest

theorem length_eq (first : d.IsFewest rank) (second : o.IsFewest rank) : d.length = o.length :=
  le_antisymm (first.fewest o second.reads) (second.fewest d first.reads)

/-- A decimal with one digit that reads as a number has the fewest digits. -/
theorem of_single (reads : d.ReadsAs rank) (single : d.length = 1) : d.IsFewest rank :=
  ⟨reads, fun o _ => single.trans_le o.length_pos⟩

/-- A decimal with the fewest digits has no zero at their end. -/
theorem last_ne_zero (fewest : d.IsFewest rank) (finite : rank < finiteRanks)
    (positive : rank ≠ 0) : d.digits % 10 ≠ 0 := by
  intro zero
  have digitsNonzero := fewest.reads.digits_ne_zero finite positive
  have shorter := fewest.fewest ⟨d.digits / 10, d.exponent + 1⟩ (by
    rw [readsAs_iff finite, value_div_ten zero]
    exact (readsAs_iff finite).mp fewest.reads)
  have long : 1 < d.length := by
    by_contra short
    have few := d.digits_lt.trans_le (Nat.pow_le_pow_right (by decide) (not_lt.mp short))
    omega
  have digits : d.digits / 10 < 10 ^ (d.length - 1) := by
    rw [Nat.div_lt_iff_lt_mul (by decide), ← pow_succ, Nat.sub_add_cancel long.le]
    exact d.digits_lt
  have fewer : (⟨d.digits / 10, d.exponent + 1⟩ : Decimal).length ≤ d.length - 1 :=
    (Nat.length_toDigits_le_iff (by decide) (by omega)).mpr digits
  omega

end IsFewest

/-! ## Only one decimal is chosen -/

/-- A candidate between two chosen decimals is as far away as they are, so it is one of them. -/
theorem IsChosen.value_eq_of_between (finite : rank < finiteRanks) (first : d.IsChosen rank)
    (second : o.IsChosen rank) (above : d.value < m.value) (below : m.value ≤ o.value)
    (short : m.length ≤ d.length) : m.value = o.value := by
  have reads := first.fewest.reads.of_between finite second.fewest.reads above.le below
  have nearest := first.nearest m ⟨reads, fun p other => short.trans (first.fewest.fewest p other)⟩
  have same := le_antisymm (first.nearest o second.fewest) (second.nearest d first.fewest)
  rcases abs_eq_abs.mp same with equal | opposite
  · linarith
  · by_contra other
    have below := lt_of_le_of_ne below other
    have inside : |m.value - rankValue rank| < |d.value - rankValue rank| := by
      rw [abs_of_neg (by linarith : d.value - rankValue rank < 0), abs_lt]
      constructor <;> linarith
    exact absurd nearest (not_le.mpr inside)

/-- Of two chosen decimals none is smaller. -/
theorem IsChosen.not_value_lt (finite : rank < finiteRanks) (positive : rank ≠ 0)
    (first : d.IsChosen rank) (second : o.IsChosen rank) : ¬ d.value < o.value := by
  intro less
  have firstNonzero := first.fewest.reads.digits_ne_zero finite positive
  have secondNonzero := second.fewest.reads.digits_ne_zero finite positive
  have length := first.fewest.length_eq second.fewest
  have same := le_antisymm (first.nearest o second.fewest) (second.nearest d first.fewest)
  have different : o ≠ d := by
    rintro rfl
    exact less.ne rfl
  have even := (first.even o second.fewest same.symm).resolve_left different
  have even' := (second.even d first.fewest same).resolve_left different.symm
  rcases eq_or_ne d.exponent o.exponent with exponent | exponent
  · -- the digits are even, and another decimal stands between them
    have scale : (0 : ℚ) < 10 ^ o.exponent := by positivity
    have digits : d.digits < o.digits := by
      rw [value, value, exponent, mul_lt_mul_iff_left₀ scale] at less
      exact_mod_cast less
    have middle : (⟨d.digits + 1, o.exponent⟩ : Decimal).value = o.value := by
      apply first.value_eq_of_between finite second
      · rw [value, value, exponent, mul_lt_mul_iff_left₀ scale]
        exact_mod_cast Nat.lt_succ_self d.digits
      · rw [value, value, mul_le_mul_iff_left₀ scale]
        exact_mod_cast digits
      · rw [length]
        exact (Nat.length_toDigits_le_iff (by decide) o.length_pos).mpr
          ((Nat.succ_le_of_lt digits).trans_lt o.digits_lt)
    rw [value, value, mul_left_inj' scale.ne'] at middle
    have middle : d.digits + 1 = o.digits := by exact_mod_cast middle
    omega
  · -- a power of ten stands between them
    have leading := leadingExponent_le firstNonzero secondNonzero less.le
    have next : d.leadingExponent + 1 ≤ o.leadingExponent := by
      rw [leadingExponent, leadingExponent] at *
      rw [Decimal.length, Decimal.length] at length
      omega
    have one : (⟨1, d.leadingExponent + 1⟩ : Decimal).length = 1 := length_eq_one (by decide)
    have last : (⟨1, d.leadingExponent + 1⟩ : Decimal).value = o.value := by
      apply first.value_eq_of_between finite second
      · rw [value_one]
        exact (value_bounds firstNonzero).2
      · rw [value_one]
        exact (zpow_le_zpow_right₀ (by norm_num) next).trans (value_bounds secondNonzero).1
      · rw [one]
        exact d.length_pos
    have reads := second.fewest.reads.of_between finite second.fewest.reads last.ge last.le
    have single := second.fewest.length_eq (.of_single reads one)
    rw [← eq_of_value_eq one_ne_zero secondNonzero last single.symm] at even'
    exact absurd even' (by simp)

/-- No two decimals are chosen for a number. -/
theorem IsChosen.unique (finite : rank < finiteRanks) (positive : rank ≠ 0) (first : d.IsChosen rank)
    (second : o.IsChosen rank) : d = o := by
  refine eq_of_value_eq (first.fewest.reads.digits_ne_zero finite positive)
    (second.fewest.reads.digits_ne_zero finite positive) ?_ (first.fewest.length_eq second.fewest)
  exact le_antisymm (not_lt.mp (second.not_value_lt finite positive first))
    (not_lt.mp (first.not_value_lt finite positive second))

/-! ## The shortest decimal is chosen -/

theorem value_stripZeros (fuel : Nat) (d : Decimal) : (stripZeros fuel d).value = d.value := by
  induction fuel generalizing d with
  | zero => rfl
  | succ fuel ih =>
      rw [stripZeros]
      split
      · rename_i zero
        rw [ih, value_div_ten zero.2]
      · rfl

theorem stripZeros_eq_self {fuel : Nat} (last : d.digits % 10 ≠ 0) : stripZeros fuel d = d := by
  cases fuel with
  | zero => rfl
  | succ fuel => rw [stripZeros, if_neg fun zero => last zero.2]

section Shortest

variable {n k c : Nat}

/-- A decimal is a multiple on the grid of its last digit. -/
theorem ReadsAs.onGrid (reads : o.ReadsAs rank) (leading : o.leadingExponent = top rank)
    (length : o.length = n + 1) : o.exponent = top rank - n ∧ Reads rank (top rank - n) o.digits := by
  have exponent : o.exponent = top rank - n := by
    rw [leadingExponent] at leading
    rw [Decimal.length] at length
    omega
  refine ⟨exponent, ?_⟩
  rw [← exponent]
  exact reads

/-- A decimal that reads as a number has its leading digit where the number has it, unless the power
of ten of this digit or the next power of ten reads as the number. -/
theorem ReadsAs.leading (finite : rank < finiteRanks) (positive : rank ≠ 0)
    (reads : o.ReadsAs rank) :
    o.leadingExponent = top rank ∨ (o.value < 10 ^ top rank ∧ Reads rank (top rank) 1) ∨
      (10 ^ (top rank + 1) ≤ o.value ∧ Reads rank (top rank) 10) := by
  obtain ⟨least, most⟩ := top_bounds positive
  have own := nearestTo_rankValue rank
  have atValue := (readsAs_iff finite).mp reads
  rcases lt_or_ge o.value (10 ^ top rank) with low | high
  · refine .inr (.inl ⟨low, (readsAs_iff finite).mpr ?_⟩)
    rw [value_one]
    exact nearestTo_eq_of_between atValue own (value_nonneg o) low.le least
  rcases lt_or_ge o.value (10 ^ (top rank + 1)) with low | high'
  · exact .inl (leadingExponent_eq (reads.digits_ne_zero finite positive) high low)
  · refine .inr (.inr ⟨high', (readsAs_iff finite).mpr ?_⟩)
    rw [value_ten]
    exact nearestTo_eq_of_between own atValue (rankValue_nonneg rank) most.le high'

/-- If all candidates are on one grid, the nearest one of them is chosen. -/
theorem isChosen_of_grid {e : Int} (nearest : IsNearest rank e k) (fewest : IsFewest rank ⟨k, e⟩)
    (grid : ∀ o : Decimal, o.IsFewest rank → o.exponent = e) : IsChosen rank ⟨k, e⟩ := by
  have step : (0 : ℚ) < 10 ^ e := by positivity
  refine ⟨fewest, ?_, ?_⟩
  · rintro ⟨c, f⟩ other
    obtain rfl : f = e := grid _ other
    rw [abs_value_sub_rankValue, abs_value_sub_rankValue]
    exact mul_le_mul_of_nonneg_right (nearest.nearest c other.reads) step.le
  · rintro ⟨c, f⟩ other same
    obtain rfl : f = e := grid _ other
    rw [abs_value_sub_rankValue, abs_value_sub_rankValue, mul_left_inj' step.ne'] at same
    refine (nearest.even c other.reads same).imp_left ?_
    rintro rfl
    rfl

/-- If no multiple of the power of ten of the leading digit reads as the number, the first finer
grid on which a multiple does has the chosen decimal. -/
theorem isChosen_of_finer (finite : rank < finiteRanks) (positive : rank ≠ 0)
    (nearest : IsNearest rank (top rank - (n + 1 : Nat)) k)
    (before : ∀ j < n + 1, ∀ c, ¬ Reads rank (top rank - j) c) :
    IsChosen rank (stripZeros 20 ⟨k, top rank - (n + 1 : Nat)⟩) := by
  have unread (c : Nat) : ¬ Reads rank (top rank) c := by
    have early := before 0 (Nat.succ_pos n) c
    rwa [Nat.cast_zero, sub_zero] at early
  have leading {o : Decimal} (reads : o.ReadsAs rank) : o.leadingExponent = top rank := by
    rcases reads.leading finite positive with leading | ⟨-, one⟩ | ⟨-, ten⟩
    · exact leading
    · exact absurd one (unread 1)
    · exact absurd ten (unread 10)
  have digits {o : Decimal} (reads : o.ReadsAs rank) : n + 2 ≤ o.length := by
    by_contra short
    obtain ⟨j, length⟩ := Nat.exists_eq_add_one_of_ne_zero o.length_pos.ne'
    exact before j (by omega) o.digits (reads.onGrid (leading reads) length).2
  have length : (⟨k, top rank - (n + 1 : Nat)⟩ : Decimal).length = n + 2 := by
    have found := leading nearest.reads
    rw [leadingExponent] at found
    rw [Decimal.length]
    generalize top rank = t at found ⊢
    simp only at found
    omega
  have fewest : IsFewest rank ⟨k, top rank - (n + 1 : Nat)⟩ :=
    ⟨nearest.reads, fun o reads => length.trans_le (digits reads)⟩
  rw [stripZeros_eq_self (fewest.last_ne_zero finite positive)]
  refine isChosen_of_grid nearest fewest fun o other => ?_
  exact (other.reads.onGrid (leading other.reads) ((other.length_eq fewest).trans length)).1

/-- No number lies in the middle between `9` and `10` steps if both read as it. -/
theorem steps_ne_of_reads_ten (finite : rank < finiteRanks) (reads : Reads rank (top rank) 10) :
    steps rank (top rank) ≠ 19 / 2 := by
  intro middle
  generalize top rank = t at reads middle
  have step : (0 : ℚ) < 10 ^ t := by positivity
  have own : rankValue rank = 19 / 2 * 10 ^ t := by
    rw [← middle, steps, div_mul_cancel₀ _ step.ne']
  rcases le_or_gt 0 t with whole | fraction
  · -- a whole number this far away is rounded to another one
    obtain ⟨j, rfl⟩ := Int.eq_ofNat_of_zero_le whole
    have near := abs_sub_rankValue_nearestTo_natCast_le (10 ^ (j + 1))
    have nearest := (readsAs_iff finite).mp reads
    rw [value_ten] at nearest
    have power : (10 : ℚ) ^ ((j : Int) + 1) = (10 ^ (j + 1) : Nat) := by
      rw [← Nat.cast_succ, zpow_natCast]
      push_cast
      rfl
    rw [power] at nearest
    rw [nearest, own, zpow_natCast] at near
    rw [zpow_natCast] at step
    push_cast at near
    rw [pow_succ, abs_of_pos (by linarith)] at near
    linarith
  · -- the units of the number would be a fifth
    obtain ⟨j, rfl⟩ : ∃ j : Nat, t = -(j + 1 : Nat) := ⟨(-t - 1).toNat, by omega⟩
    obtain ⟨u, -, scale⟩ := unitsInOne_eq
    rw [rankValue, scale, zpow_neg, zpow_natCast, div_eq_iff (by positivity)] at own
    have whole : units rank * 2 * 10 ^ (j + 1) = 19 * 2 ^ u := by
      have power : (0 : ℚ) < 10 ^ (j + 1) := by positivity
      field_simp at own
      push_cast at own
      exact_mod_cast own
    have five : 5 ∣ 19 * 2 ^ u := by
      rw [← whole]
      exact Dvd.dvd.mul_left (dvd_pow (by decide) (Nat.succ_ne_zero j)) _
    rcases (Nat.Prime.dvd_mul Nat.prime_five).mp five with odd | even
    · exact absurd odd (by decide)
    · exact absurd (Nat.prime_five.dvd_of_dvd_pow even) (by decide)

theorem steps_lt_ten (positive : rank ≠ 0) : steps rank (top rank) < 10 := by
  have step : (0 : ℚ) < 10 ^ top rank := by positivity
  rw [steps, div_lt_iff₀ step, mul_comm, ← zpow_add_one₀ (by norm_num)]
  exact (top_bounds positive).2

/-- Ten steps are not as near to a number as another number of steps. -/
theorem IsNearest.eq_ten (finite : rank < finiteRanks) (positive : rank ≠ 0)
    (nearest : IsNearest rank (top rank) 10)
    (tie : |(c : ℚ) - steps rank (top rank)| = |((10 : Nat) : ℚ) - steps rank (top rank)|) :
    c = 10 := by
  have below := steps_lt_ten positive
  by_contra other
  rcases abs_eq_abs.mp tie with same | opposite
  · rw [sub_left_inj] at same
    exact other (by exact_mod_cast same)
  · push_cast at opposite
    rcases Nat.lt_or_ge c 9 with far | near
    · -- nine steps would be nearer
      have far : (c : ℚ) ≤ 8 := by exact_mod_cast Nat.le_of_lt_succ far
      have reads := nearest.reads.of_between (m := 9) finite
        (.inr ⟨by push_cast; linarith, by norm_num⟩)
      have nearer := nearest.nearest 9 reads
      push_cast at nearer
      rw [abs_of_pos (by linarith), abs_of_nonneg (by linarith)] at nearer
      linarith
    · have near : (9 : ℚ) ≤ c := by exact_mod_cast near
      have nine : (c : ℚ) < 10 := by linarith
      have nine : c < 10 := by exact_mod_cast nine
      obtain rfl : c = 9 := by
        have : 9 ≤ c := by exact_mod_cast near
        omega
      push_cast at opposite
      exact steps_ne_of_reads_ten finite nearest.reads (by linarith)

/-- A decimal with one digit that reads as a number is itself a multiple of the power of ten of the
leading digit, or such a multiple reads as the number too and is nearer. -/
theorem ReadsAs.exists_multiple (finite : rank < finiteRanks) (positive : rank ≠ 0)
    (reads : o.ReadsAs rank) (single : o.length = 1) :
    ∃ c, Reads rank (top rank) c ∧ ((⟨c, top rank⟩ : Decimal).value = o.value ∨
      |(⟨c, top rank⟩ : Decimal).value - rankValue rank| < |o.value - rankValue rank|) := by
  obtain ⟨least, most⟩ := top_bounds positive
  rcases reads.leading finite positive with leading | ⟨low, one⟩ | ⟨high, ten⟩
  · obtain ⟨exponent, reads⟩ := reads.onGrid (n := 0) leading single
    rw [Nat.cast_zero, sub_zero] at exponent reads
    refine ⟨o.digits, reads, .inl ?_⟩
    rw [← exponent]
  · refine ⟨1, one, .inr ?_⟩
    rw [value_one, abs_of_nonpos (by linarith), abs_of_neg (by linarith)]
    linarith
  · refine ⟨10, ten, ?_⟩
    rw [value_ten]
    refine high.eq_or_lt.imp id fun above => ?_
    rw [abs_of_pos (by linarith), abs_of_pos (by linarith)]
    linarith

/-- The nearest multiple is at most the next power of ten. -/
theorem IsNearest.le_ten (finite : rank < finiteRanks) (positive : rank ≠ 0)
    (nearest : IsNearest rank (top rank) k) : k ≤ 10 := by
  have below := steps_lt_ten positive
  by_contra many
  have many : (10 : ℚ) < k := by exact_mod_cast not_le.mp many
  have reads := nearest.reads.of_between (m := 10) finite (.inr ⟨below.le, many.le⟩)
  have near := nearest.nearest 10 reads
  rw [abs_of_pos (by linarith), Nat.cast_ofNat, abs_of_pos (by linarith)] at near
  linarith

/-- Of the digits up to ten only the last has a zero at its end. -/
theorem stripZeros_of_le_ten {e : Int} (nonzero : k ≠ 0) (few : k ≤ 10) :
    (k = 10 ∧ stripZeros 20 ⟨k, e⟩ = ⟨1, e + 1⟩) ∨ (k < 10 ∧ stripZeros 20 ⟨k, e⟩ = ⟨k, e⟩) := by
  rcases few.eq_or_lt with rfl | few
  · exact .inl ⟨rfl, by simp [stripZeros]⟩
  · exact .inr ⟨few, stripZeros_eq_self (by simp only; omega)⟩

/-- If a multiple of the power of ten of the leading digit reads as the number, the nearest such
multiple is the chosen decimal. -/
theorem isChosen_of_coarsest (finite : rank < finiteRanks) (positive : rank ≠ 0)
    (nearest : IsNearest rank (top rank) k) : IsChosen rank (stripZeros 20 ⟨k, top rank⟩) := by
  have step : (0 : ℚ) < 10 ^ top rank := by positivity
  have nonzero : k ≠ 0 := nearest.reads.digits_ne_zero finite positive
  have digits := stripZeros_of_le_ten (e := top rank) nonzero (nearest.le_ten finite positive)
  have value := value_stripZeros 20 ⟨k, top rank⟩
  have reads : (stripZeros 20 ⟨k, top rank⟩).ReadsAs rank := by
    rw [readsAs_iff finite, value]
    exact (readsAs_iff finite).mp nearest.reads
  have single : (stripZeros 20 ⟨k, top rank⟩).length = 1 := by
    rcases digits with ⟨-, stripped⟩ | ⟨few, stripped⟩
    · rw [stripped, length_eq_one (by decide)]
    · rw [stripped, length_eq_one few]
  generalize stripZeros 20 ⟨k, top rank⟩ = d at value reads digits single ⊢
  have fewest : d.IsFewest rank := .of_single reads single
  have alone {o : Decimal} (other : o.IsFewest rank) : o.length = 1 :=
    (other.length_eq fewest).trans single
  have distance {c : Nat} (reads : Reads rank (top rank) c) :
      |d.value - rankValue rank| ≤ |(⟨c, top rank⟩ : Decimal).value - rankValue rank| := by
    rw [value, abs_value_sub_rankValue, abs_value_sub_rankValue]
    exact mul_le_mul_of_nonneg_right (nearest.nearest c reads) step.le
  refine ⟨fewest, fun o other => ?_, fun o other same => ?_⟩
  · obtain ⟨c, multiple, equal | nearer⟩ :=
      other.reads.exists_multiple finite positive (alone other)
    · rw [← equal]
      exact distance multiple
    · exact (distance multiple).trans nearer.le
  · obtain ⟨c, multiple, equal | nearer⟩ :=
      other.reads.exists_multiple finite positive (alone other)
    · by_cases alike : c = k
      · left
        refine eq_of_value_eq (other.reads.digits_ne_zero finite positive)
          (reads.digits_ne_zero finite positive) ?_ ((alone other).trans single.symm)
        rw [← equal, value, alike]
      · rw [← equal, value, abs_value_sub_rankValue, abs_value_sub_rankValue,
          mul_left_inj' step.ne'] at same
        rcases digits with ⟨rfl, -⟩ | ⟨-, rfl⟩
        · exact absurd (nearest.eq_ten finite positive same) alike
        · exact .inr ((nearest.even c multiple same).resolve_left alike)
    · exact absurd same (((distance multiple).trans_lt nearer).ne')

/-- The shortest decimal of a positive number is the chosen one. -/
theorem isChosen_shortest (finite : rank < finiteRanks) (positive : rank ≠ 0) :
    IsChosen rank (shortest rank) := by
  obtain ⟨n, k, found, nearest, before⟩ := exists_shortest_eq finite positive
  rw [found]
  cases n with
  | zero =>
      rw [Nat.cast_zero, sub_zero] at nearest ⊢
      exact isChosen_of_coarsest finite positive nearest
  | succ n => exact isChosen_of_finer finite positive nearest before

end Shortest

/-- A decimal is chosen for a positive number if and only if it is the shortest one. -/
theorem isChosen_iff (finite : rank < finiteRanks) (positive : rank ≠ 0) :
    d.IsChosen rank ↔ d = shortest rank := by
  constructor
  · intro chosen
    exact chosen.unique finite positive (isChosen_shortest finite positive)
  · intro found
    rw [found]
    exact isChosen_shortest finite positive

end Stencil.Decimal
