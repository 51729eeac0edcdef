/-
# Binary numbers in a document

Wherever a layout puts the point, and whether it writes an exponent or not, what it
writes is a number in the sense of the reader, and it has the value of the digits that
were laid out. As the shortest digits of a binary number read back as it, so does its
text. The layout has to keep the point of a whole number, which would be read as an
integer otherwise.
-/

import Stencil.Proofs.Json.Number
import Stencil.Proofs.Number.Shortest

namespace Stencil.Json

open Text (StopsBefore)

variable {layout : Layout} {digits : List Char} {leading : Int}

theorem digitsValue_append_zeros (digits : List Char) (zeros : Nat) :
    Numeral.digitsValue (digits ++ List.replicate zeros '0') =
      Numeral.digitsValue digits * 10 ^ zeros := by
  rw [Numeral.digitsValue, Nat.ofDigitChars_append, Nat.ofDigitChars_replicate_zero,
    Numeral.digitsValue, mul_comm]

theorem digitsValue_zeros_append (zeros : Nat) (digits : List Char) :
    Numeral.digitsValue (List.replicate zeros '0' ++ digits) = Numeral.digitsValue digits := by
  rw [Numeral.digitsValue, Nat.ofDigitChars_append, Nat.ofDigitChars_replicate_zero, mul_zero,
    Numeral.digitsValue]

/-- What a layout writes for some digits. -/
def Written.ofDigits (layout : Layout) (digits : List Char) (leading : Int) : Written :=
  if layout.lowest ≤ leading ∧ leading < layout.beyond then
    if leading < 0 then ⟨['0'], List.replicate (-leading - 1).toNat '0' ++ digits, none⟩
    else
      let wholeLength := leading.toNat + 1
      if digits.length ≤ wholeLength then
        ⟨digits ++ List.replicate (wholeLength - digits.length) '0', ['0'], none⟩
      else ⟨digits.take wholeLength, digits.drop wholeLength, none⟩
  else
    ⟨digits.take 1, digits.drop 1,
      some (decide (leading < 0),
        Layout.padded layout.exponentWidth (Nat.toDigits 10 leading.natAbs))⟩

/-- The four places for the point: in front of all digits, behind all of them, among them,
or behind the first of them with an exponent that says where it belongs. -/
theorem Written.ofDigits_cases (layout : Layout) (digits : List Char) (leading : Int) :
    (∃ zeros : Nat, (zeros : Int) = -leading - 1 ∧
      ofDigits layout digits leading = ⟨['0'], List.replicate zeros '0' ++ digits, none⟩) ∨
    (∃ zeros : Nat, (zeros : Int) = leading + 1 - digits.length ∧
      ofDigits layout digits leading = ⟨digits ++ List.replicate zeros '0', ['0'], none⟩) ∨
    (∃ count : Nat, (count : Int) = leading ∧ count + 1 < digits.length ∧
      ofDigits layout digits leading =
        ⟨digits.take (count + 1), digits.drop (count + 1), none⟩) ∨
    ofDigits layout digits leading =
      ⟨digits.take 1, digits.drop 1,
        some (decide (leading < 0),
          Layout.padded layout.exponentWidth (Nat.toDigits 10 leading.natAbs))⟩ := by
  by_cases positional : layout.lowest ≤ leading ∧ leading < layout.beyond
  · by_cases small : leading < 0
    · refine .inl ⟨(-leading - 1).toNat, by omega, ?_⟩
      rw [ofDigits, if_pos positional, if_pos small]
    · by_cases short : digits.length ≤ leading.toNat + 1
      · refine .inr (.inl ⟨leading.toNat + 1 - digits.length, by omega, ?_⟩)
        rw [ofDigits, if_pos positional, if_neg small]
        exact if_pos short
      · refine .inr (.inr (.inl ⟨leading.toNat, by omega, by omega, ?_⟩))
        rw [ofDigits, if_pos positional, if_neg small]
        exact if_neg short
  · exact .inr (.inr (.inr (by rw [ofDigits, if_neg positional])))

/-- The digits can be laid out: at least one, and a zero in front only by itself. -/
structure IsLaidOut (digits : List Char) (leading : Int) : Prop where
  whole : IsWhole digits
  zero : digits = ['0'] → leading = 0

/-- What is written for digits is the text that the layout makes of them. -/
theorem text_ofDigits (keeps : layout.keepsPoint = true) (nonempty : digits ≠ []) :
    layout.digitsText digits leading = (Written.ofDigits layout digits leading).text := by
  by_cases positional : layout.lowest ≤ leading ∧ leading < layout.beyond
  · by_cases small : leading < 0
    · simp [Layout.digitsText, Written.ofDigits, positional, small, Written.text,
        Written.fractionText, Written.exponentText, nonempty]
    · by_cases short : digits.length ≤ leading.toNat + 1
      · simp [Layout.digitsText, Written.ofDigits, positional, small, short, Written.text,
          Written.fractionText, Written.exponentText, keeps]
      · have point : digits.drop (leading.toNat + 1) ≠ [] := by
          simpa using short
        simp [Layout.digitsText, Written.ofDigits, positional, small, short, Written.text,
          Written.fractionText, Written.exponentText, point]
  · obtain ⟨first, rest, rfl⟩ := List.exists_cons_of_ne_nil nonempty
    cases rest with
    | nil =>
        simp [Layout.digitsText, Written.ofDigits, positional, Written.text,
          Written.fractionText, Written.exponentText, Layout.exponentText]
    | cons second rest =>
        simp [Layout.digitsText, Written.ofDigits, positional, Written.text,
          Written.fractionText, Written.exponentText, Layout.exponentText]

theorem isDigit_of_mem_replicate {zeros : Nat} {c : Char} (mem : c ∈ List.replicate zeros '0') :
    c.isDigit = true := by
  rw [List.eq_of_mem_replicate mem]
  rfl

/-- The first digits of a number can stand in front of its point. -/
theorem isWhole_take (whole : IsWhole digits) (count : Nat) :
    IsWhole (digits.take (count + 1)) where
  nonempty := by simpa using whole.nonempty
  digits := fun c mem => whole.digits c (List.mem_of_mem_take mem)
  noZero := by
    intro head
    have alone := whole.noZero (by simpa [List.head?_take] using head)
    simp [alone]

/-- Zeros behind a number make a longer one, unless it is a zero itself. -/
theorem isWhole_append_zeros (whole : IsWhole digits) {zeros : Nat}
    (zero : digits = ['0'] → zeros = 0) : IsWhole (digits ++ List.replicate zeros '0') where
  nonempty := by simp [whole.nonempty]
  digits := by
    intro c mem
    rcases List.mem_append.mp mem with digit | zero
    · exact whole.digits c digit
    · exact isDigit_of_mem_replicate zero
  noZero := by
    intro head
    obtain ⟨first, rest, rfl⟩ := List.exists_cons_of_ne_nil whole.nonempty
    have alone := whole.noZero (by simpa using head)
    simp [alone, zero alone]

theorem isDigit_of_mem_padded {width n : Nat} {c : Char}
    (mem : c ∈ Layout.padded width (Nat.toDigits 10 n)) : c.isDigit = true := by
  rcases List.mem_append.mp mem with zero | digit
  · exact isDigit_of_mem_replicate zero
  · exact Nat.isDigit_of_mem_toDigits (by decide) (by decide) digit

/-- What is written for digits has a point or an exponent among digits. -/
theorem isBinary_ofDigits (layout : Layout) (h : IsLaidOut digits leading) :
    (Written.ofDigits layout digits leading).IsBinary := by
  rcases Written.ofDigits_cases layout digits leading with
    ⟨zeros, -, written⟩ | ⟨zeros, eq, written⟩ | ⟨count, -, inside, written⟩ | written
  · rw [written]
    refine ⟨IsWhole.zero, fun c mem => ?_, by simp, .inl (by simp [h.whole.nonempty])⟩
    rcases List.mem_append.mp mem with zero | digit
    · exact isDigit_of_mem_replicate zero
    · exact h.whole.digits c digit
  · rw [written]
    have noneBehindZero : digits = ['0'] → zeros = 0 := by
      intro alone
      rw [alone, h.zero alone] at eq
      simpa using eq
    exact ⟨isWhole_append_zeros h.whole noneBehindZero, by simp, by simp, .inl (by simp)⟩
  · rw [written]
    exact ⟨isWhole_take h.whole count, fun c mem => h.whole.digits c (List.mem_of_mem_drop mem),
      by simp, .inl (by simpa using inside)⟩
  · rw [written]
    refine ⟨isWhole_take h.whole 0, fun c mem => h.whole.digits c (List.mem_of_mem_drop mem), ?_,
      .inr (by simp)⟩
    rintro negative run given
    obtain ⟨-, rfl⟩ := Prod.mk.inj (Option.some.inj given)
    exact ⟨by simp [Layout.padded, Nat.toDigits_ne_nil], fun c => isDigit_of_mem_padded⟩

/-- What is written for digits has the value of the digits. -/
theorem value_ofDigits (negative : Bool) (nonempty : digits ≠ []) (leading : Int) :
    (Written.ofDigits layout digits leading).value negative =
      Binary64.ofDecimal negative (Numeral.digitsValue digits) (leading + 1 - digits.length) := by
  rcases Written.ofDigits_cases layout digits leading with
    ⟨zeros, eq, written⟩ | ⟨zeros, eq, written⟩ | ⟨count, eq, inside, written⟩ | written
  · have read : Numeral.digitsValue (['0'] ++ (List.replicate zeros '0' ++ digits)) =
        Numeral.digitsValue digits := by
      rw [← List.replicate_one, digitsValue_zeros_append, digitsValue_zeros_append]
    rw [written, Written.value, read]
    congr 1
    simp only [Written.exponentValue, List.length_append, List.length_replicate]
    omega
  · have read : Numeral.digitsValue (digits ++ List.replicate zeros '0' ++ ['0']) =
        Numeral.digitsValue digits * 10 ^ (zeros + 1) := by
      rw [List.append_assoc, ← List.replicate_succ', digitsValue_append_zeros]
    rw [written, Written.value, read, Binary64.ofDecimal_mul_ten_pow]
    congr 1
    simp only [Written.exponentValue, List.length_singleton]
    omega
  · rw [written, Written.value, List.take_append_drop]
    congr 1
    simp only [Written.exponentValue, List.length_drop]
    omega
  · have read : Numeral.digitsValue
        (Layout.padded layout.exponentWidth (Nat.toDigits 10 leading.natAbs)) = leading.natAbs := by
      rw [Layout.padded, digitsValue_zeros_append]
      exact Nat.ofDigitChars_ten_toDigits
    have length := List.length_pos_iff.mpr nonempty
    rw [written, Written.value, List.take_append_drop]
    congr 1
    simp only [Written.exponentValue, read, List.length_drop, decide_eq_true_eq]
    split <;> omega

/-- The text of a finite number is a number as it is written, with its own value. -/
theorem exists_written {layout : Layout} (keeps : layout.keepsPoint = true) {x : Binary64}
    (finite : x.isFinite = true) :
    ∃ (negative : Bool) (w : Written), w.IsBinary ∧ w.value negative = x ∧
      layout.shortestText x = signText negative ++ w.text := by
  cases x with
  | nan => cases finite
  | infinite negative => cases finite
  | finite negative rank =>
      simp only [Layout.shortestText, Layout.write]
      by_cases zero : rank.val = 0
      · have laidOut : IsLaidOut ['0'] 0 := ⟨IsWhole.zero, fun _ => rfl⟩
        have noDigits : Numeral.digitsValue ['0'] = 0 := rfl
        refine ⟨negative, _, isBinary_ofDigits layout laidOut, ?_, ?_⟩
        · rw [value_ofDigits negative laidOut.whole.nonempty, noDigits, Binary64.ofDecimal, if_pos rfl,
            ← zero, Binary64.ofRank, dif_pos rank.isLt]
        · rw [if_pos zero, text_ofDigits keeps laidOut.whole.nonempty]
          rfl
      · have positive := Decimal.digits_shortest_ne_zero zero
        have laidOut : IsLaidOut (Decimal.shortest rank.val).digitChars
            (Decimal.shortest rank.val).leadingExponent := by
          refine ⟨isWhole_toDigits _, fun alone => ?_⟩
          exact absurd (congrArg List.head? alone) (head?_toDigits_ne_zero positive)
        have digits : Numeral.digitsValue (Decimal.shortest rank.val).digitChars =
            (Decimal.shortest rank.val).digits := Nat.ofDigitChars_ten_toDigits
        have exponent : (Decimal.shortest rank.val).leadingExponent + 1 -
            (Decimal.shortest rank.val).digitChars.length =
              (Decimal.shortest rank.val).exponent := by
          rw [Decimal.leadingExponent]
          omega
        refine ⟨negative, _, isBinary_ofDigits layout laidOut, ?_, ?_⟩
        · rw [value_ofDigits negative laidOut.whole.nonempty, digits, exponent,
            Decimal.ofDecimal_shortest]
        · rw [if_neg zero, text_ofDigits keeps laidOut.whole.nonempty]
          rfl

/-- Every finite number is read back from its text in a layout that keeps the point of a
whole number. -/
theorem scalar_shortestText_append (keeps : layout.keepsPoint = true) {x : Binary64}
    (finite : x.isFinite = true) {rest : List Char} (stops : StopsBefore isNumberPart rest) :
    scalar (layout.shortestText x ++ rest) = .ok (.float x, rest) := by
  obtain ⟨negative, w, binary, rfl, text⟩ := exists_written keeps finite
  rw [text, List.append_assoc]
  exact binary.scalar_append negative stops

end Stencil.Json
