/-
# Numbers as a client shows them

A client that decodes a document shows a number with the digits of the decimal that is chosen for
it. It writes a number with an exponent only if there would be more than `21` digits in front of
the point or more than five zeros behind it, and an exponent is as short as it can be. A zero has no
sign. The display text of a whole number is the same if the number has at most `21` digits and is
itself the decimal that is chosen for it, which holds of all whole numbers below `2 ^ 53`. The
display text of a fraction is the same unless it lies from `10 ^ (-9)` up to `10 ^ (-4)`, where the
two differ in what has an exponent, or in how wide it is.
-/

import Stencil.Proofs.Json.Number
import Stencil.Proofs.Number.Fewest

namespace Stencil

/-! ## How a client lays out digits -/

/-- Digits with a point behind the first one, if there are more. -/
def clientMantissa : List Char → List Char
  | first :: second :: rest => first :: '.' :: second :: rest
  | digits => digits

/-- The digits of a positive number as a client writes them, with the point behind the first
`point` digits. -/
def clientDigits (digits : List Char) (point : Int) : List Char :=
  if digits.length ≤ point ∧ point ≤ 21 then
    digits ++ List.replicate (point - digits.length).toNat '0'
  else if 0 < point ∧ point ≤ 21 then
    digits.take point.toNat ++ '.' :: digits.drop point.toNat
  else if -6 < point ∧ point ≤ 0 then
    '0' :: '.' :: (List.replicate (-point).toNat '0' ++ digits)
  else
    clientMantissa digits ++
      'e' :: (if point - 1 < 0 then '-' else '+') :: Nat.toDigits 10 (point - 1).natAbs

section Layouts

variable {digits : List Char} {leading : Int}

/-- Where the point is not written out, the digits are laid out with an exponent. -/
theorem digitsText_of_exponent {layout : Layout}
    (outside : ¬ (layout.lowest ≤ leading ∧ leading < layout.beyond)) :
    layout.digitsText digits leading = clientMantissa digits ++ layout.exponentText leading := by
  rw [Layout.digitsText.eq_def, if_neg outside]
  rcases digits with _ | ⟨first, _ | ⟨second, rest⟩⟩ <;> rfl

/-- Fractions are laid out alike unless one of the two layouts has an exponent and it has a single
digit. -/
theorem digitsText_eq_clientDigits (nonempty : digits ≠ [])
    (fraction : 0 ≤ leading → leading + 1 < digits.length) (bounded : leading < 16)
    (place : -4 ≤ leading ∨ leading ≤ -10) :
    Layout.plain.digitsText digits leading = clientDigits digits (leading + 1) := by
  have lengthPos := List.length_pos_of_ne_nil nonempty
  rcases le_or_gt 0 leading with whole | small
  · have longer := fraction whole
    have inside : Layout.plain.lowest ≤ leading ∧ leading < Layout.plain.beyond :=
      ⟨by simp only [Layout.plain]; omega, by simp only [Layout.plain]; omega⟩
    have count : (leading + 1).toNat = leading.toNat + 1 := by omega
    have longer' : ¬ digits.length ≤ leading.toNat + 1 := by omega
    rw [Layout.digitsText.eq_def, if_pos inside, if_neg (not_lt.mpr whole), if_neg longer',
      clientDigits, if_neg (by omega), if_pos (by omega), count]
  rcases place with near | far
  · have inside : Layout.plain.lowest ≤ leading ∧ leading < Layout.plain.beyond :=
      ⟨by simp only [Layout.plain]; omega, by simp only [Layout.plain]; omega⟩
    have zeros : (-(leading + 1)).toNat = (-leading - 1).toNat := by omega
    rw [Layout.digitsText.eq_def, if_pos inside, if_pos small, clientDigits, if_neg (by omega),
      if_neg (by omega), if_pos (by omega), zeros]
  · have outside : ¬ (Layout.plain.lowest ≤ leading ∧ leading < Layout.plain.beyond) := by
      simp only [Layout.plain]
      omega
    have wide : 2 ≤ (Nat.toDigits 10 leading.natAbs).length := by
      by_contra short
      have short := (Nat.length_toDigits_le_iff (b := 10) (by decide) one_pos).mp
        (show (Nat.toDigits 10 leading.natAbs).length ≤ 1 by omega)
      omega
    have unpadded : 2 - (Nat.toDigits 10 leading.natAbs).length = 0 := by omega
    have same : leading + 1 - 1 = leading := by omega
    rw [digitsText_of_exponent outside, clientDigits, if_neg (by omega), if_neg (by omega),
      if_neg (by omega), Layout.exponentText, same, Layout.padded]
    simp only [Layout.plain, unpadded, List.replicate_zero, List.nil_append]

/-- Small fractions are laid out differently if an exponent has a single digit: a client writes no
exponent, or one that is not padded. -/
theorem digitsText_ne_clientDigits (isDigit : ∀ c ∈ digits, c.isDigit = true) (nonempty : digits ≠ [])
    (lower : -9 ≤ leading) (upper : leading ≤ -5) :
    Layout.plain.digitsText digits leading ≠ clientDigits digits (leading + 1) := by
  have lengthPos := List.length_pos_of_ne_nil nonempty
  have outside : ¬ (Layout.plain.lowest ≤ leading ∧ leading < Layout.plain.beyond) := by
    simp only [Layout.plain]
    omega
  rw [digitsText_of_exponent outside, clientDigits, if_neg (by omega), if_neg (by omega)]
  split
  · -- only the first text has a letter
    intro same
    have letter : 'e' ∈ clientMantissa digits ++ Layout.plain.exponentText leading :=
      List.mem_append_right _ (List.mem_cons_self ..)
    rw [same] at letter
    rcases List.mem_cons.mp letter with zero | letter
    · exact absurd zero (by decide)
    rcases List.mem_cons.mp letter with point | letter
    · exact absurd point (by decide)
    rcases List.mem_append.mp letter with zeros | digit
    · exact absurd (List.eq_of_mem_replicate zeros) (by decide)
    · exact absurd (isDigit _ digit) (by decide)
  · -- the first text has one more digit in its exponent
    intro same
    have single : (Nat.toDigits 10 leading.natAbs).length = 1 := by
      refine le_antisymm ?_ Nat.length_toDigits_pos
      exact (Nat.length_toDigits_le_iff (by decide) one_pos).mpr (by omega)
    have same := congrArg List.length same
    have leading_eq : leading + 1 - 1 = leading := by omega
    rw [leading_eq, Layout.exponentText, Layout.padded] at same
    simp only [Layout.plain, List.length_append, List.length_cons, List.length_replicate, single]
      at same
    omega

/-- If a client writes nothing but digits, the point stands behind them all. -/
theorem clientDigits_of_forall_isDigit {point : Int}
    (isDigit : ∀ c ∈ clientDigits digits point, c.isDigit = true) :
    digits.length ≤ point ∧ point ≤ 21 := by
  by_contra outside
  rw [clientDigits, if_neg outside] at isDigit
  split at isDigit
  · exact absurd (isDigit '.' (by simp)) (by decide)
  split at isDigit
  · exact absurd (isDigit '.' (by simp)) (by decide)
  · exact absurd (isDigit 'e' (by simp)) (by decide)

end Layouts

/-- Zeros at the end of the digits of a number. -/
theorem toDigits_mul_ten_pow {n : Nat} (pos : 0 < n) (zeros : Nat) :
    Nat.toDigits 10 (n * 10 ^ zeros) = Nat.toDigits 10 n ++ List.replicate zeros '0' := by
  induction zeros with
  | zero => simp
  | succ zeros ih =>
      have tens := Nat.toDigits_append_toDigits (b := 10) (n := n * 10 ^ zeros) (d := 0) (by decide)
        (by positivity) (by decide)
      rw [ih, Nat.toDigits_zero, List.append_assoc, ← List.replicate_succ'] at tens
      rw [tens]
      congr 1
      ring

namespace Decimal

open Binary64

variable {rank n : Nat} {d : Decimal}

theorem value_natCast (digits k : Nat) : (⟨digits, k⟩ : Decimal).value = (digits * 10 ^ k : Nat) := by
  rw [value, zpow_natCast]
  push_cast
  rfl

/-- A whole decimal without a zero at the end of its digits has no digit behind its point. -/
theorem exponent_nonneg (last : d.digits % 10 ≠ 0) (whole : d.value = n) : 0 ≤ d.exponent := by
  by_contra negative
  obtain ⟨k, exponent⟩ : ∃ k : Nat, d.exponent = -(k + 1 : Nat) := ⟨(-d.exponent - 1).toNat, by omega⟩
  rw [value, exponent, zpow_neg, zpow_natCast, ← div_eq_mul_inv, div_eq_iff (by positivity)] at whole
  have whole : d.digits = n * 10 ^ (k + 1) := by exact_mod_cast whole
  rw [whole, pow_succ, ← mul_assoc, Nat.mul_mod_left] at last
  exact last rfl

/-- A client writes the digits of a whole number if and only if the decimal is this number and has
at most `21` digits. -/
theorem toDigits_eq_clientDigits_iff (last : d.digits % 10 ≠ 0) :
    Nat.toDigits 10 n = clientDigits d.digitChars (d.leadingExponent + 1) ↔
      n < 10 ^ 21 ∧ d.value = n := by
  have digitsNonzero : d.digits ≠ 0 := by
    intro digitsZero
    exact last (by rw [digitsZero])
  obtain ⟨least, most⟩ := value_bounds digitsNonzero
  -- where the decimal has no digit behind its point, the client adds zeros
  have written (k : Nat) (exponent : d.exponent = k) (short : d.leadingExponent + 1 ≤ 21) :
      clientDigits d.digitChars (d.leadingExponent + 1) = Nat.toDigits 10 (d.digits * 10 ^ k) := by
    have point : d.leadingExponent + 1 = k + d.digitChars.length := by
      rw [leadingExponent]
      omega
    have zeros : (d.leadingExponent + 1 - d.digitChars.length).toNat = k := by omega
    rw [clientDigits, if_pos ⟨by omega, short⟩, zeros,
      toDigits_mul_ten_pow (Nat.pos_of_ne_zero digitsNonzero), digitChars]
  constructor
  · intro same
    have isDigit (c : Char) (mem : c ∈ clientDigits d.digitChars (d.leadingExponent + 1)) :
        c.isDigit = true := by
      rw [← same] at mem
      exact Nat.isDigit_of_mem_toDigits (by decide) (by decide) mem
    obtain ⟨short, place⟩ := clientDigits_of_forall_isDigit isDigit
    have whole : 0 ≤ d.exponent := by
      rw [leadingExponent] at short
      omega
    obtain ⟨k, exponent⟩ := Int.eq_ofNat_of_zero_le whole
    rw [written k exponent place] at same
    have number : n = d.digits * 10 ^ k := by
      rw [← Nat.ofDigitChars_ten_toDigits (n := n), same, Nat.ofDigitChars_ten_toDigits]
    have value : d.value = n := by
      rw [number, ← value_natCast, ← exponent]
    refine ⟨?_, value⟩
    have bound : (n : ℚ) < (10 ^ 21 : Nat) := by
      rw [← value, Nat.cast_pow, ← zpow_natCast]
      exact most.trans_le (zpow_le_zpow_right₀ (by norm_num) place)
    exact_mod_cast bound
  · rintro ⟨small, value⟩
    obtain ⟨k, exponent⟩ := Int.eq_ofNat_of_zero_le (exponent_nonneg last value)
    have number : n = d.digits * 10 ^ k := by
      have number : d.value = (d.digits * 10 ^ k : Nat) := by rw [← value_natCast, ← exponent]
      rw [value] at number
      exact_mod_cast number
    have place : d.leadingExponent < (21 : Nat) := by
      rw [← zpow_lt_zpow_iff_right₀ (by norm_num : (1 : ℚ) < 10), zpow_natCast]
      refine least.trans_lt ?_
      rw [value]
      exact_mod_cast small
    rw [written k exponent (by omega), number]

/-! ## Fractions -/

/-- A decimal that reads as a fraction has a digit behind its point. -/
theorem ReadsAs.exponent_neg (reads : d.ReadsAs rank) (finite : rank < finiteRanks)
    (fraction : ∀ n : Nat, rankValue rank ≠ n) : d.exponent < 0 := by
  by_contra whole
  obtain ⟨k, exponent⟩ := Int.eq_ofNat_of_zero_le (not_lt.mp whole)
  have value : d.value = (d.digits * 10 ^ k : Nat) := by rw [← value_natCast, ← exponent]
  rw [readsAs_iff finite, value] at reads
  obtain ⟨n, nearest⟩ := exists_rankValue_nearestTo_natCast (d.digits * 10 ^ k)
  rw [reads] at nearest
  exact fraction n nearest

/-- A decimal that reads as a fraction has at most sixteen digits in front of its point. -/
theorem ReadsAs.leadingExponent_lt (reads : d.ReadsAs rank) (finite : rank < finiteRanks)
    (positive : rank ≠ 0) (fraction : ∀ n : Nat, rankValue rank ≠ n) : d.leadingExponent < 16 := by
  by_contra large
  have digitsNonzero := reads.digits_ne_zero finite positive
  have small : rankValue rank < octave := by
    rcases exists_rankValue_eq_or_lt rank with ⟨n, whole⟩ | small
    · exact absurd whole (fraction n)
    · exact small
  rw [cast_octave] at small
  have power : (10 : ℚ) ^ (16 : Int) ≤ d.value :=
    (zpow_le_zpow_right₀ (by norm_num) (not_lt.mp large)).trans (value_bounds digitsNonzero).1
  -- a whole number would read as the fraction
  have between : nearestTo (10 ^ 16 : Nat) = rank := by
    refine nearestTo_eq_of_between (nearestTo_rankValue rank) ((readsAs_iff finite).mp reads)
      (rankValue_nonneg rank) ?_ ?_
    · rw [Nat.cast_pow]
      exact small.le.trans (by norm_num)
    · exact_mod_cast power
  obtain ⟨n, nearest⟩ := exists_rankValue_nearestTo_natCast (10 ^ 16)
  rw [between] at nearest
  exact fraction n nearest

/-- The chosen decimal is not below a power of ten unless the number is. -/
theorem IsChosen.ten_zpow_le_value (chosen : d.IsChosen rank) (finite : rank < finiteRanks)
    {e : Int} (le : (10 : ℚ) ^ e ≤ rankValue rank) : (10 : ℚ) ^ e ≤ d.value := by
  by_contra less
  have less := not_le.mp less
  have reads : (⟨1, e⟩ : Decimal).ReadsAs rank := by
    rw [readsAs_iff finite, value_one]
    exact nearestTo_eq_of_between ((readsAs_iff finite).mp chosen.fewest.reads)
      (nearestTo_rankValue rank) (value_nonneg d) less.le le
  have near := chosen.nearest ⟨1, e⟩
    (.of_single reads (length_eq_one (by decide)))
  rw [value_one, abs_of_neg (by linarith), abs_of_nonpos (by linarith)] at near
  linarith

/-- Where the number nearest to a power of ten is not below this power, the leading digit of the
chosen decimal tells on which side of the power the number is. -/
theorem IsChosen.le_leadingExponent_iff (chosen : d.IsChosen rank) (finite : rank < finiteRanks)
    (positive : rank ≠ 0) {e : Int} (above : (10 : ℚ) ^ e ≤ rankValue (nearestTo (10 ^ e))) :
    e ≤ d.leadingExponent ↔ (10 : ℚ) ^ e ≤ rankValue rank := by
  have digitsNonzero := chosen.fewest.reads.digits_ne_zero finite positive
  obtain ⟨least, most⟩ := value_bounds digitsNonzero
  constructor
  · intro le
    have power : (10 : ℚ) ^ e ≤ d.value := (zpow_le_zpow_right₀ (by norm_num) le).trans least
    have ranks := nearestTo_mono (by positivity) power
    rw [(readsAs_iff finite).mp chosen.fewest.reads] at ranks
    exact above.trans (rankValue_mono ranks)
  · intro le
    have power := (chosen.ten_zpow_le_value finite le).trans_lt most
    have := (zpow_lt_zpow_iff_right₀ (by norm_num : (1 : ℚ) < 10)).mp power
    omega

/-- What has to be computed to compare a negative power of ten with the number nearest to it. -/
theorem le_rankValue_nearestTo {k : Nat}
    (above : unitsInOne ≤ units (nearestRank (1 * unitsInOne) (10 ^ k)) * 10 ^ k) :
    (10 : ℚ) ^ (-k : Int) ≤ rankValue (nearestTo (10 ^ (-k : Int))) := by
  have one : (0 : ℚ) < unitsInOne := by exact_mod_cast unitsInOne_pos
  have power : (10 : ℚ) ^ (-k : Int) = (1 : Nat) / (10 ^ k : Nat) := by
    rw [zpow_neg, zpow_natCast]
    push_cast
    rw [one_div]
  rw [power, nearestTo_div 1 (by positivity), rankValue, div_le_div_iff₀ (by positivity) one]
  exact_mod_cast (by omega : 1 * unitsInOne ≤ units (nearestRank (1 * unitsInOne) (10 ^ k)) * 10 ^ k)

end Decimal

namespace Binary64

open Decimal

variable {rank : Fin finiteRanks} {negative : Bool}

/-- What a client writes for a finite number. -/
inductive ClientWrites : Binary64 → List Char → Prop
  | zero {negative : Bool} {rank : Fin finiteRanks} (rankZero : rank.val = 0) :
      ClientWrites (.finite negative rank) ['0']
  | positive {rank : Fin finiteRanks} {d : Decimal} (rankNonzero : rank.val ≠ 0)
      (chosen : d.IsChosen rank.val) :
      ClientWrites (.finite false rank) (clientDigits d.digitChars (d.leadingExponent + 1))
  | negative {rank : Fin finiteRanks} {d : Decimal} (rankNonzero : rank.val ≠ 0)
      (chosen : d.IsChosen rank.val) :
      ClientWrites (.finite true rank) ('-' :: clientDigits d.digitChars (d.leadingExponent + 1))

/-- The numbers that are displayed as a client writes them: whole numbers of at most `21` digits
that are themselves one of the decimals with the fewest digits that read as them, and fractions of
at least `10 ^ (-4)` or less than `10 ^ (-9)`. -/
def IsAlike : Binary64 → Prop
  | .finite _ rank =>
    (∃ n : Nat, rankValue rank = n ∧ n < 10 ^ 21 ∧ ∃ d : Decimal, d.IsFewest rank ∧ d.value = n) ∨
      (∀ n : Nat, rankValue rank ≠ n) ∧ (1 / 10 ^ 4 ≤ rankValue rank ∨ rankValue rank < 1 / 10 ^ 9)
  | _ => False

/-- A zero is displayed as a client writes it. -/
theorem isAlike_zero (rankZero : rank.val = 0) : IsAlike (.finite negative rank) := by
  have plain : (⟨0, 0⟩ : Decimal).value = 0 := by rw [value, Nat.cast_zero, zero_mul]
  refine .inl ⟨0, ?_, by norm_num, ⟨0, 0⟩, .of_single ?_ (length_eq_one (by decide)), ?_⟩
  · rw [rankZero, rankValue_zero, Nat.cast_zero]
  · rw [readsAs_iff rank.isLt, plain, rankZero, ← rankValue_zero, nearestTo_rankValue]
  · rw [plain, Nat.cast_zero]

section Whole

variable {n : Nat} {d : Decimal}

/-- A whole decimal that reads as a whole number of at most 53 binary digits is this number. -/
theorem value_eq_of_exponent_nonneg (whole : rankValue rank = n) (small : n < 2 * octave)
    (reads : nearestTo d.value = rank) (nonneg : 0 ≤ d.exponent) : d.value = n := by
  obtain ⟨k, exponent⟩ := Int.eq_ofNat_of_zero_le nonneg
  have number : d.value = (d.digits * 10 ^ k : Nat) := by rw [← value_natCast, ← exponent]
  rw [number] at reads ⊢
  rw [eq_of_nearestTo_natCast whole small reads]

/-- A decimal with a digit behind its point that reads as a whole number of at most 53 binary digits
is not shorter than the number, unless the number is a power of ten. -/
theorem exists_eq_ten_pow (whole : rankValue rank = n) (small : n < 2 * octave) (nonzero : n ≠ 0)
    (reads : nearestTo d.value = rank) (digitsNonzero : d.digits ≠ 0) (fraction : d.exponent < 0)
    (shorter : d.length < (⟨n, 0⟩ : Decimal).length) : ∃ k : Nat, 10 ^ k = n := by
  have least := (value_bounds (d := ⟨n, 0⟩) nonzero).1
  have most := (value_bounds digitsNonzero).2
  rw [length, length] at shorter
  obtain ⟨k, leading⟩ : ∃ k : Nat, (⟨n, 0⟩ : Decimal).leadingExponent = k := by
    refine Int.eq_ofNat_of_zero_le ?_
    rw [leadingExponent]
    simp only
    omega
  have below : d.leadingExponent + 1 ≤ k := by
    rw [leadingExponent] at leading ⊢
    simp only at leading
    omega
  rw [leading, value, zpow_zero, mul_one, zpow_natCast] at least
  refine ⟨k, eq_of_nearestTo_natCast whole small ?_⟩
  refine nearestTo_eq_of_between reads (nearestTo_rankValue rank) (value_nonneg d) ?_ ?_
  · rw [Nat.cast_pow, ← zpow_natCast]
    exact most.le.trans (zpow_le_zpow_right₀ (by norm_num) below)
  · rw [whole]
    exact_mod_cast least

/-- A whole number of at most 53 binary digits is displayed as a client writes it. -/
theorem isAlike_of_lt (whole : rankValue rank = n) (small : n < 2 * octave) :
    IsAlike (.finite negative rank) := by
  by_cases rankZero : rank.val = 0
  · exact isAlike_zero rankZero
  have own {o : Decimal} (number : o.value = n) : o.ReadsAs rank := by
    rw [readsAs_iff rank.isLt, number, ← whole, nearestTo_rankValue]
  have plain : (⟨n, 0⟩ : Decimal).value = n := by rw [value, zpow_zero, mul_one]
  have digitsNonzero := (own plain).digits_ne_zero rank.isLt rankZero
  have fewest := (isChosen_shortest rank.isLt rankZero).fewest
  generalize shortest rank = d at fewest
  have reads := (readsAs_iff rank.isLt).mp fewest.reads
  refine .inl ⟨n, whole, small.trans (by decide), ?_⟩
  rcases le_or_gt 0 d.exponent with nonneg | fraction
  · exact ⟨d, fewest, value_eq_of_exponent_nonneg whole small reads nonneg⟩
  rcases (fewest.fewest _ (own plain)).eq_or_lt with same | shorter
  · exact ⟨⟨n, 0⟩, ⟨own plain, fun o other => same.symm.trans_le (fewest.fewest o other)⟩, plain⟩
  · obtain ⟨k, power⟩ := exists_eq_ten_pow whole small digitsNonzero reads
      (fewest.reads.digits_ne_zero rank.isLt rankZero) fraction shorter
    have single : (⟨1, k⟩ : Decimal).value = n := by rw [value_natCast, one_mul, power]
    exact ⟨⟨1, k⟩, .of_single (own single) (length_eq_one (by decide)), single⟩

end Whole

end Binary64

end Stencil
