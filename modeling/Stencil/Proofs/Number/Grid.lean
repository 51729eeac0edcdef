/-
# Decimal grids

A search for a decimal goes from grid to grid. The first grid has the multiples of the power of ten
of the leading digit, and every further one is ten times as fine. If any multiple reads as the
number, the search finds the one that is nearest to it, for no multiple lies between the number and
the multiples next to it. A grid of seventeen digits is always fine enough.
-/

import Stencil.Proofs.Number.Interval

namespace Stencil.Decimal

open Binary64

variable {num den rank : Nat} {exponent : Int} {d : Decimal}

/-- A power of ten counted in steps of a smaller one. -/
theorem ten_zpow_sub_mul (e : Int) (n : Nat) : (10 : ℚ) ^ (e - n) * 10 ^ n = 10 ^ e := by
  rw [← zpow_natCast, ← zpow_add₀ (by norm_num), sub_add_cancel]

/-! ## The leading digit of a ratio -/

theorem digitCount_pos {n : Nat} (pos : 0 < n) : 0 < digitCount n := by
  rw [digitCount, if_neg pos.ne']
  exact List.length_pos_of_ne_nil Nat.toDigits_ne_nil

theorem digitCount_bounds {n : Nat} (pos : 0 < n) :
    10 ^ (digitCount n - 1) ≤ n ∧ n < 10 ^ digitCount n := by
  have digits : (⟨n, 0⟩ : Decimal).digits ≠ 0 := pos.ne'
  rw [digitCount, if_neg pos.ne']
  exact ⟨le_digits digits, digits_lt ⟨n, 0⟩⟩

/-- The magnitude of a ratio is the exponent of its leading digit. -/
theorem magnitude_bounds (numPos : 0 < num) (pos : 0 < den) :
    (10 : ℚ) ^ magnitude num den ≤ num / den ∧ (num : ℚ) / den < 10 ^ (magnitude num den + 1) := by
  have positive : (0 : ℚ) < den := by positivity
  rw [magnitude]
  split
  · rename_i whole
    have quotient : 0 < num / den := Nat.div_pos whole pos
    obtain ⟨least, most⟩ := digitCount_bounds quotient
    obtain ⟨k, count⟩ := Nat.exists_eq_add_one_of_ne_zero (digitCount_pos quotient).ne'
    rw [count] at least most ⊢
    have first : ((k + 1 : Nat) : Int) - 1 = (k : Nat) := by omega
    have next : (k : Int) + 1 = (k + 1 : Nat) := by omega
    rw [first, next, zpow_natCast, zpow_natCast, le_div_iff₀ positive, div_lt_iff₀ positive]
    constructor
    · exact_mod_cast (Nat.le_div_iff_mul_le pos).mp least
    · exact_mod_cast (Nat.div_lt_iff_lt_mul pos).mp most
  · rename_i fraction
    have positive' : (0 : ℚ) < num := by positivity
    have ceiling : 0 < (den + num - 1) / num - 1 := by
      have : 2 ≤ (den + num - 1) / num := by
        rw [Nat.le_div_iff_mul_le numPos]
        omega
      omega
    obtain ⟨least, most⟩ := digitCount_bounds ceiling
    obtain ⟨k, count⟩ := Nat.exists_eq_add_one_of_ne_zero (digitCount_pos ceiling).ne'
    rw [count] at least most ⊢
    rw [Nat.add_sub_cancel] at least
    have next : -((k + 1 : Nat) : Int) + 1 = -(k : Nat) := by omega
    rw [next, zpow_neg, zpow_neg, zpow_natCast, zpow_natCast, inv_le_comm₀ (by positivity)
      (by positivity), lt_inv_comm₀ (by positivity) (by positivity), inv_div, div_le_iff₀ positive',
      lt_div_iff₀ positive']
    have below : (den + num - 1) / num < 10 ^ (k + 1) + 1 := by omega
    have above : 10 ^ k + 1 ≤ (den + num - 1) / num := by omega
    rw [Nat.div_lt_iff_lt_mul numPos, Nat.add_mul] at below
    rw [Nat.le_div_iff_mul_le numPos, Nat.add_mul] at above
    constructor
    · exact_mod_cast (by omega : den ≤ 10 ^ (k + 1) * num)
    · exact_mod_cast (by omega : 10 ^ k * num < den)

/-- The exponent of the leading digit of the magnitude of a rank. -/
def top (rank : Nat) : Int := magnitude (units rank) unitsInOne

theorem top_bounds (positive : rank ≠ 0) :
    (10 : ℚ) ^ top rank ≤ rankValue rank ∧ rankValue rank < 10 ^ (top rank + 1) := by
  have unitsPos : 0 < units rank := by
    have value := rankValue_pos positive
    rw [rankValue] at value
    by_contra notPos
    rw [Nat.eq_zero_of_not_pos notPos, Nat.cast_zero, zero_div] at value
    exact value.ne rfl
  exact magnitude_bounds unitsPos unitsInOne_pos

/-! ## One grid -/

/-- A ratio that counts steps is the ratio over the length of a step. -/
theorem scaled_spec (num : Nat) (pos : 0 < den) (exponent : Int) :
    0 < (scaled num den exponent).2 ∧
      ((scaled num den exponent).1 : ℚ) / (scaled num den exponent).2 = num / den / 10 ^ exponent := by
  rw [scaled]
  split
  · rename_i whole
    refine ⟨Nat.mul_pos pos (Nat.pow_pos (by decide)), ?_⟩
    obtain ⟨k, rfl⟩ := Int.eq_ofNat_of_zero_le whole
    rw [Int.toNat_natCast, Nat.pow_eq, zpow_natCast, div_div]
    push_cast
    rfl
  · refine ⟨pos, ?_⟩
    obtain ⟨k, rfl⟩ : ∃ k : Nat, exponent = -k := ⟨(-exponent).toNat, by omega⟩
    rw [neg_neg, Int.toNat_natCast, Nat.pow_eq, zpow_neg, zpow_natCast, div_inv_eq_mul]
    push_cast
    ring

/-- How many steps of a grid there are up to the magnitude of a rank. -/
def steps (rank : Nat) (exponent : Int) : ℚ := rankValue rank / 10 ^ exponent

theorem scaled_units_spec (rank : Nat) (exponent : Int) :
    0 < (scaled (units rank) unitsInOne exponent).2 ∧
      ((scaled (units rank) unitsInOne exponent).1 : ℚ) /
        (scaled (units rank) unitsInOne exponent).2 = steps rank exponent :=
  scaled_spec (units rank) unitsInOne_pos exponent

/-- The multiple of a power of ten reads as the number of a rank. -/
def Reads (rank : Nat) (exponent : Int) (m : Nat) : Prop := ReadsAs ⟨m, exponent⟩ rank

section Grid

variable {m lower : Nat}

theorem value_eq_mul (m : Nat) (exponent : Int) :
    (⟨m, exponent⟩ : Decimal).value = m * 10 ^ exponent := rfl

/-- The distance of a multiple, counted in steps. -/
theorem abs_value_sub_rankValue (rank m : Nat) (exponent : Int) :
    |(⟨m, exponent⟩ : Decimal).value - rankValue rank| =
      |(m : ℚ) - steps rank exponent| * 10 ^ exponent := by
  have step : (0 : ℚ) < 10 ^ exponent := by positivity
  rw [value_eq_mul, steps, ← abs_of_pos step, ← abs_mul, abs_of_pos step, sub_mul,
    div_mul_cancel₀ _ step.ne']

/-- A multiple between one that reads as the number and the number itself reads as the number. -/
theorem Reads.of_between (finite : rank < finiteRanks) {o : Nat} (reads : Reads rank exponent o)
    (between : ((o : ℚ) ≤ m ∧ (m : ℚ) ≤ steps rank exponent) ∨
      (steps rank exponent ≤ m ∧ (m : ℚ) ≤ o)) : Reads rank exponent m := by
  have step : (0 : ℚ) < 10 ^ exponent := by positivity
  have whole : steps rank exponent * 10 ^ exponent = rankValue rank := div_mul_cancel₀ _ step.ne'
  rw [Reads, readsAs_iff finite] at reads ⊢
  rcases between with ⟨above, below⟩ | ⟨above, below⟩
  · refine nearestTo_eq_of_between reads (nearestTo_rankValue rank) (value_nonneg _) ?_ ?_
    · exact mul_le_mul_of_nonneg_right above step.le
    · rw [← whole]
      exact mul_le_mul_of_nonneg_right below step.le
  · refine nearestTo_eq_of_between (nearestTo_rankValue rank) reads (rankValue_nonneg rank) ?_ ?_
    · rw [← whole]
      exact mul_le_mul_of_nonneg_right above step.le
    · exact mul_le_mul_of_nonneg_right below step.le

/-- If a multiple reads as the number, one of the two next to the number does. -/
theorem Reads.lower_or_upper (finite : rank < finiteRanks) (reads : Reads rank exponent m)
    (below : (lower : ℚ) ≤ steps rank exponent) (above : steps rank exponent < lower + 1) :
    (m ≤ lower ∧ Reads rank exponent lower) ∨ (lower + 1 ≤ m ∧ Reads rank exponent (lower + 1)) := by
  rcases Nat.lt_or_ge lower m with more | less
  · refine .inr ⟨more, reads.of_between finite (.inr ⟨?_, by exact_mod_cast more⟩)⟩
    push_cast
    exact above.le
  · exact .inl ⟨less, reads.of_between finite (.inl ⟨by exact_mod_cast less, below⟩)⟩

end Grid

/-- A multiple on a grid reads as the number, and none that does is nearer to it; of two equally
near ones it is an even one. -/
structure IsNearest (rank : Nat) (exponent : Int) (m : Nat) : Prop where
  reads : Reads rank exponent m
  nearest : ∀ o, Reads rank exponent o →
    |(m : ℚ) - steps rank exponent| ≤ |(o : ℚ) - steps rank exponent|
  even : ∀ o, Reads rank exponent o →
    |(o : ℚ) - steps rank exponent| = |(m : ℚ) - steps rank exponent| → o = m ∨ 2 ∣ m

namespace IsNearest

variable {m : Nat}

theorem of_half (reads : Reads rank exponent m) (near : |steps rank exponent - m| ≤ 1 / 2)
    (tie : |steps rank exponent - m| = 1 / 2 → 2 ∣ m) : IsNearest rank exponent m := by
  have far {o : Nat} (other : o ≠ m) : (1 : ℚ) / 2 ≤ |(o : ℚ) - steps rank exponent| := by
    have apart : (1 : ℚ) ≤ |(o : ℚ) - m| := by
      have apart : (1 : Int) ≤ |(o : Int) - m| := Int.one_le_abs (by omega)
      exact_mod_cast apart
    have triangle := abs_sub_le (o : ℚ) (steps rank exponent) m
    linarith
  rw [abs_sub_comm] at near tie
  refine ⟨reads, fun o _ => ?_, fun o _ same => ?_⟩
  · by_cases same : o = m
    · rw [same]
    · exact near.trans (far same)
  · by_cases same' : o = m
    · exact .inl same'
    · exact .inr (tie (le_antisymm near (same ▸ far same')))

theorem of_le (reads : Reads rank exponent m) (below : (m : ℚ) ≤ steps rank exponent)
    (last : ∀ o, Reads rank exponent o → o ≤ m) : IsNearest rank exponent m := by
  have distance {o : Nat} (reads : Reads rank exponent o) :
      |(o : ℚ) - steps rank exponent| = steps rank exponent - o := by
    have le : (o : ℚ) ≤ m := by exact_mod_cast last o reads
    rw [abs_of_nonpos (by linarith), neg_sub]
  refine ⟨reads, fun o other => ?_, fun o other same => .inl ?_⟩
  · have le : (o : ℚ) ≤ m := by exact_mod_cast last o other
    rw [distance reads, distance other]
    linarith
  · rw [distance reads, distance other, sub_right_inj] at same
    exact_mod_cast same

theorem of_ge (reads : Reads rank exponent m) (above : steps rank exponent ≤ m)
    (first : ∀ o, Reads rank exponent o → m ≤ o) : IsNearest rank exponent m := by
  have distance {o : Nat} (reads : Reads rank exponent o) :
      |(o : ℚ) - steps rank exponent| = o - steps rank exponent := by
    have le : (m : ℚ) ≤ o := by exact_mod_cast first o reads
    exact abs_of_nonneg (by linarith)
  refine ⟨reads, fun o other => ?_, fun o other same => .inl ?_⟩
  · have le : (m : ℚ) ≤ o := by exact_mod_cast first o other
    rw [distance reads, distance other]
    linarith
  · rw [distance reads, distance other, sub_left_inj] at same
    exact_mod_cast same

end IsNearest

/-- A search on a grid finds the nearest multiple that reads as the number, unless none does. -/
theorem onGrid?_spec (finite : rank < finiteRanks) (exponent : Int) :
    (onGrid? rank (units rank) unitsInOne exponent = none ∧ ∀ m, ¬ Reads rank exponent m) ∨
      ∃ m, onGrid? rank (units rank) unitsInOne exponent = some ⟨m, exponent⟩ ∧
        IsNearest rank exponent m := by
  obtain ⟨pos, ratio⟩ := scaled_units_spec rank exponent
  simp only [onGrid?, decide_eq_true_eq]
  generalize (scaled (units rank) unitsInOne exponent).1 = n at ratio ⊢
  generalize (scaled (units rank) unitsInOne exponent).2 = k at pos ratio ⊢
  have positive : (0 : ℚ) < k := by positivity
  have below : ((n / k : Nat) : ℚ) ≤ steps rank exponent := by
    rw [← ratio, le_div_iff₀ positive]
    exact_mod_cast Nat.div_mul_le_self n k
  have above : steps rank exponent < (n / k : Nat) + 1 := by
    rw [← ratio, div_lt_iff₀ positive, mul_comm]
    exact_mod_cast Nat.lt_mul_div_succ n pos
  have adjacent : roundHalfEven n k = n / k ∨ roundHalfEven n k = n / k + 1 := by
    simp only [roundHalfEven]
    split
    · omega
    split <;> omega
  obtain ⟨near, tie⟩ := roundHalfEven_spec n pos
  rw [ratio] at near tie
  generalize roundHalfEven n k = middle at near tie adjacent ⊢
  generalize n / k = lower at below above adjacent ⊢
  have sides {m : Nat} (reads : Reads rank exponent m) := reads.lower_or_upper finite below above
  by_cases atMiddle : ofDecimal false middle exponent = ofRank false rank
  · rw [if_pos atMiddle]
    exact .inr ⟨middle, rfl, .of_half atMiddle near tie⟩
  rw [if_neg atMiddle]
  by_cases atLower : ofDecimal false lower exponent = ofRank false rank
  · rw [if_pos atLower]
    refine .inr ⟨lower, rfl, .of_le atLower below fun o reads => ?_⟩
    rcases sides reads with ⟨le, -⟩ | ⟨-, atUpper⟩
    · exact le
    · rcases adjacent with rfl | rfl
      · exact absurd atLower atMiddle
      · exact absurd atUpper atMiddle
  rw [if_neg atLower]
  by_cases atUpper : ofDecimal false (lower + 1) exponent = ofRank false rank
  · rw [if_pos atUpper]
    refine .inr ⟨lower + 1, rfl, .of_ge atUpper (by exact_mod_cast above.le) fun o reads => ?_⟩
    exact (sides reads).elim (fun low => absurd low.2 atLower) And.left
  · rw [if_neg atUpper]
    refine .inl ⟨rfl, fun m reads => ?_⟩
    exact (sides reads).elim (fun low => atLower low.2) fun high => atUpper high.2

/-! ## Grid after grid -/

/-- The multiple next to a number on a grid of seventeen digits reads as the number. -/
theorem exists_reads_seventeen (finite : rank < finiteRanks) (positive : rank ≠ 0) :
    ∃ m, Reads rank (top rank - 16) m := by
  obtain ⟨m, near⟩ : ∃ m : Nat, |steps rank (top rank - 16) - m| ≤ 1 / 2 := by
    obtain ⟨pos, ratio⟩ := scaled_units_spec rank (top rank - 16)
    rw [← ratio]
    exact ⟨_, abs_sub_roundHalfEven_le _ pos⟩
  refine ⟨m, (readsAs_iff finite).mpr (nearestTo_of_close ?_)⟩
  have size := (top_bounds positive).1
  have powerPos : (0 : ℚ) < 10 ^ (top rank - 16) := by positivity
  rw [← ten_zpow_sub_mul (top rank) 16, Nat.cast_ofNat] at size
  rw [abs_value_sub_rankValue, abs_sub_comm]
  generalize |steps rank (top rank - 16) - (m : ℚ)| = distance at near ⊢
  nlinarith

/-- The first hit in a range is the least one. -/
theorem findSome?_range_eq_some {α : Type} {f : Nat → Option α} {count : Nat} {a : α}
    (found : (List.range count).findSome? f = some a) :
    ∃ n, f n = some a ∧ ∀ j < n, f j = none := by
  induction count with
  | zero => cases found
  | succ count ih =>
      rw [List.range_succ, List.findSome?_append] at found
      cases before : (List.range count).findSome? f with
      | some b =>
          rw [before, Option.some_or] at found
          exact ih (before.trans found)
      | none =>
          rw [before, Option.none_or, List.findSome?_singleton] at found
          refine ⟨count, found, fun j less => ?_⟩
          exact List.findSome?_eq_none_iff.mp before j (List.mem_range.mpr less)

/-- The shortest decimal comes from the first grid on which a multiple reads as the number, and is
nearest there, without the zeros at its end. -/
theorem exists_shortest_eq (finite : rank < finiteRanks) (positive : rank ≠ 0) :
    ∃ (n m : Nat), shortest rank = stripZeros 20 ⟨m, top rank - n⟩ ∧
      IsNearest rank (top rank - n) m ∧ ∀ j < n, ∀ o, ¬ Reads rank (top rank - j) o := by
  simp only [shortest]
  change ∃ (n m : Nat), (Option.getD ((List.range 17).findSome? fun n =>
    (onGrid? rank (units rank) unitsInOne (top rank - (n : Nat))).map (stripZeros 20)) _) = _ ∧ _
  generalize hit : (List.range 17).findSome? _ = found
  cases found with
  | none =>
      have last := List.findSome?_eq_none_iff.mp hit 16 (by decide)
      rw [Option.map_eq_none_iff] at last
      obtain ⟨m, reads⟩ := exists_reads_seventeen finite positive
      rcases onGrid?_spec finite (top rank - 16) with ⟨-, unread⟩ | ⟨o, found, -⟩
      · exact absurd reads (unread m)
      · exact absurd (found.symm.trans last) (Option.some_ne_none _)
  | some d =>
      obtain ⟨n, taken, before⟩ := findSome?_range_eq_some hit
      obtain ⟨candidate, grid, rfl⟩ := Option.map_eq_some_iff.mp taken
      rcases onGrid?_spec finite (top rank - n) with ⟨missed, -⟩ | ⟨m, found, nearest⟩
      · exact absurd (missed.symm.trans grid) (Option.some_ne_none _).symm
      · obtain rfl := Option.some.inj (grid.symm.trans found)
        refine ⟨n, m, rfl, nearest, fun j less o reads => ?_⟩
        have missed := Option.map_eq_none_iff.mp (before j less)
        rcases onGrid?_spec finite (top rank - j) with ⟨-, unread⟩ | ⟨p, hit, -⟩
        · exact unread o reads
        · exact absurd (hit.symm.trans missed) (Option.some_ne_none _)

end Stencil.Decimal
