/-
# Numbers in a document

A number in a document is a sign, digits in front of a point, digits behind it and an
exponent. One with a point or an exponent is read as the binary number nearest to it,
and one without as an integer, provided that the text after it cannot be taken for a
part of the number.
-/

import Stencil.Json.Printer
import Stencil.Json.Reader
import Stencil.Proofs.Text.Run
import Stencil.Value.Display

namespace Stencil.Json

open Text (StopsBefore stopsBefore_cons takeWhile_append_of_stopsBefore
  dropWhile_append_of_stopsBefore)

/-- The characters with which a number can go on. -/
def isNumberPart (c : Char) : Bool := c.isDigit || c == '.' || c == 'e' || c == 'E'

/-- What a minus sign or its absence looks like. -/
def signText (negative : Bool) : List Char := if negative then ['-'] else []

variable {run rest : List Char}

/-- A text that cannot go on a number cannot go on its digits. -/
theorem stopsBefore_isDigit (h : StopsBefore isNumberPart rest) :
    StopsBefore Char.isDigit rest := by
  intro c mem
  have outside := h c mem
  simp only [isNumberPart, Bool.or_eq_false_iff] at outside
  exact outside.1.1.1

theorem digits?_append (nonempty : run ≠ []) (digits : ∀ c ∈ run, c.isDigit = true)
    (stops : StopsBefore Char.isDigit rest) : digits? (run ++ rest) = some (run, rest) := by
  rw [digits?, takeWhile_append_of_stopsBefore digits stops,
    dropWhile_append_of_stopsBefore digits stops]
  cases run with
  | nil => exact absurd rfl nonempty
  | cons c run => rfl

/-- The digits in front of a point: at least one, and no zero in front of others. -/
structure IsWhole (run : List Char) : Prop where
  nonempty : run ≠ []
  digits : ∀ c ∈ run, c.isDigit = true
  noZero : run.head? = some '0' → run = ['0']

theorem IsWhole.zero : IsWhole ['0'] where
  nonempty := List.cons_ne_nil _ _
  digits := by
    intro c mem
    obtain rfl := List.mem_singleton.mp mem
    rfl
  noZero := fun _ => rfl

theorem wholePart?_append (whole : IsWhole run) (stops : StopsBefore Char.isDigit rest) :
    wholePart? (run ++ rest) = some (run, rest) := by
  cases run with
  | nil => exact absurd rfl whole.nonempty
  | cons c more =>
      by_cases zero : c = '0'
      · subst zero
        obtain rfl : more = [] := (List.cons.inj (whole.noZero rfl)).2
        rfl
      · rw [← digits?_append whole.nonempty whole.digits stops, List.cons_append, wholePart?]
        simpa using zero

section Parts

variable {negative : Bool}
  {unsigned whole afterWhole fraction afterFraction exponent left : List Char}

/-- A sign, the digits of a whole number and nothing more are an integer. -/
theorem number_of_whole (unmarked : unsigned.head? ≠ some '-')
    (atWhole : wholePart? unsigned = some (whole, left))
    (atFraction : fractionPart left = ([], left)) (atExponent : exponentPart left = ([], left)) :
    number (signText negative ++ unsigned) =
      (integer negative whole).map fun v => (v, left) := by
  cases negative with
  | true =>
      show number ('-' :: unsigned) = _
      unfold number
      simp only [atWhole, atFraction, atExponent, and_self, if_true]
  | false =>
      show number unsigned = _
      unfold number
      split
      rename_i sign
      split at sign
      · exact absurd rfl unmarked
      · obtain ⟨rfl, rfl⟩ := Prod.mk.inj sign
        simp only [atWhole, atFraction, atExponent, and_self, if_true]

/-- A sign and digits with a fraction or an exponent are a binary number. -/
theorem number_of_decimal {x : Binary64} (unmarked : unsigned.head? ≠ some '-')
    (atWhole : wholePart? unsigned = some (whole, afterWhole))
    (atFraction : fractionPart afterWhole = (fraction, afterFraction))
    (atExponent : exponentPart afterFraction = (exponent, left))
    (marked : ¬ (fraction = [] ∧ exponent = []))
    (read : Numeral.decimal? negative (whole ++ (fraction ++ exponent)) = some x) :
    number (signText negative ++ unsigned) = .ok (.float x, left) := by
  cases negative with
  | true =>
      show number ('-' :: unsigned) = _
      unfold number
      simp only [atWhole, atFraction, atExponent, marked, if_false, List.append_assoc, read]
  | false =>
      show number unsigned = _
      unfold number
      split
      rename_i sign
      split at sign
      · exact absurd rfl unmarked
      · obtain ⟨rfl, rfl⟩ := Prod.mk.inj sign
        simp only [atWhole, atFraction, atExponent, marked, if_false, List.append_assoc, read]

end Parts

/-- The digits of a number do not begin with a sign. -/
theorem IsWhole.head?_append_ne (whole : IsWhole run) : (run ++ rest).head? ≠ some '-' := by
  obtain ⟨c, more, rfl⟩ := List.exists_cons_of_ne_nil whole.nonempty
  have digit := whole.digits c (by simp)
  rintro head
  obtain rfl : c = '-' := by simpa using head
  exact absurd digit (by decide)

/-- No word begins like a number. -/
theorem word?_eq_none {c : Char} (digit : c.isDigit = true) (negative : Bool)
    (tail : List Char) : word? (signText negative ++ c :: tail) = none := by
  have apart : ∀ d, d.isDigit = false → d ≠ c := by
    rintro d other rfl
    rw [digit] at other
    cases other
  cases negative with
  | false => simp [word?, words, signText, apart]
  | true => simp [word?, words, signText, apart]

/-- What begins with the digits of a number is read as a number. -/
theorem IsWhole.scalar_append (whole : IsWhole run) (negative : Bool) (rest : List Char) :
    scalar (signText negative ++ (run ++ rest)) = number (signText negative ++ (run ++ rest)) := by
  obtain ⟨c, more, rfl⟩ := List.exists_cons_of_ne_nil whole.nonempty
  rw [scalar, List.cons_append, word?_eq_none (whole.digits c (by simp))]

/-- A number as it is written: the digits in front of its point, those behind it, and
the sign and the digits of its exponent. -/
structure Written where
  whole : List Char
  fraction : List Char
  exponent : Option (Bool × List Char)

namespace Written

/-- The text of the digits behind the point. -/
def fractionText (w : Written) : List Char :=
  if w.fraction = [] then [] else '.' :: w.fraction

/-- The text of the exponent. -/
def exponentText (w : Written) : List Char :=
  match w.exponent with
  | none => []
  | some (negative, run) => 'e' :: (if negative then '-' else '+') :: run

/-- The text of the number without its sign. -/
def text (w : Written) : List Char := w.whole ++ (w.fractionText ++ w.exponentText)

/-- The exponent of ten. -/
def exponentValue (w : Written) : Int :=
  match w.exponent with
  | none => 0
  | some (negative, run) =>
    if negative then -(Numeral.digitsValue run : Int) else Numeral.digitsValue run

/-- The number nearest to what is written. -/
def value (negative : Bool) (w : Written) : Binary64 :=
  Binary64.ofDecimal negative (Numeral.digitsValue (w.whole ++ w.fraction))
    (w.exponentValue - w.fraction.length)

/-- The digits are digits, and there is a point or an exponent. -/
structure IsBinary (w : Written) : Prop where
  whole : IsWhole w.whole
  fraction : ∀ c ∈ w.fraction, c.isDigit = true
  exponent : ∀ negative run, w.exponent = some (negative, run) →
    run ≠ [] ∧ ∀ c ∈ run, c.isDigit = true
  marked : w.fraction ≠ [] ∨ w.exponent ≠ none

variable {w : Written}

theorem exponentPart_append (h : w.IsBinary) (stops : StopsBefore isNumberPart rest) :
    exponentPart (w.exponentText ++ rest) = (w.exponentText, rest) := by
  cases given : w.exponent with
  | none =>
      cases rest with
      | nil => simp [exponentText, given, exponentPart]
      | cons c rest =>
          have outside := stops c rfl
          simp only [isNumberPart, Bool.or_eq_false_iff, beq_eq_false_iff_ne] at outside
          simp [exponentText, given, exponentPart, outside.1.2, outside.2]
  | some exponent =>
      obtain ⟨negative, run⟩ := exponent
      obtain ⟨nonempty, digits⟩ := h.exponent negative run given
      have read := digits?_append nonempty digits (stopsBefore_isDigit stops)
      cases negative <;> simp [exponentText, given, exponentPart, read]

theorem stopsBefore_exponentText (stops : StopsBefore isNumberPart rest) :
    StopsBefore Char.isDigit (w.exponentText ++ rest) := by
  cases given : w.exponent with
  | none => simpa [exponentText, given] using stopsBefore_isDigit stops
  | some exponent =>
      rw [exponentText, given]
      exact stopsBefore_cons rfl

theorem stopsBefore_fractionText (stops : StopsBefore isNumberPart rest) :
    StopsBefore Char.isDigit (w.fractionText ++ (w.exponentText ++ rest)) := by
  rw [fractionText]
  split
  · exact stopsBefore_exponentText stops
  · exact stopsBefore_cons rfl

/-- A text that does not begin with a point has no fraction in front. -/
theorem fractionPart_of_head?_ne {cs : List Char} (h : cs.head? ≠ some '.') :
    fractionPart cs = ([], cs) := by
  unfold fractionPart
  split
  · exact absurd rfl h
  · rfl

theorem head?_exponentText_ne (stops : StopsBefore isNumberPart rest) :
    (w.exponentText ++ rest).head? ≠ some '.' := by
  intro point
  cases given : w.exponent with
  | none =>
      have outside := stops '.' (by simpa [exponentText, given] using point)
      exact absurd outside (by decide)
  | some exponent => simp [exponentText, given] at point

theorem fractionPart_append (h : w.IsBinary) (stops : StopsBefore isNumberPart rest) :
    fractionPart (w.fractionText ++ (w.exponentText ++ rest)) =
      (w.fractionText, w.exponentText ++ rest) := by
  by_cases whole : w.fraction = []
  · rw [fractionText, if_pos whole]
    exact fractionPart_of_head?_ne (head?_exponentText_ne stops)
  · have read := digits?_append whole h.fraction (stopsBefore_exponentText (w := w) stops)
    simp [fractionText, whole, fractionPart, read]

theorem exponent?_exponentText (h : w.IsBinary) :
    Numeral.exponent? w.exponentText = some w.exponentValue := by
  cases given : w.exponent with
  | none => simp [exponentText, exponentValue, given, Numeral.exponent?]
  | some exponent =>
      obtain ⟨negative, run⟩ := exponent
      obtain ⟨nonempty, digits⟩ := h.exponent negative run given
      have all : run.all Char.isDigit = true := List.all_eq_true.mpr digits
      cases negative <;>
        simp [exponentText, exponentValue, given, Numeral.exponent?, Numeral.splitSign, nonempty,
          all]

theorem decimal?_text (negative : Bool) (h : w.IsBinary) :
    Numeral.decimal? negative w.text = some (w.value negative) := by
  have nothing : StopsBefore isNumberPart [] := Text.stopsBefore_nil
  have stops := stopsBefore_fractionText (w := w) nothing
  have ending := stopsBefore_exponentText (w := w) nothing
  rw [List.append_nil] at stops ending
  have whole := takeWhile_append_of_stopsBefore h.whole.digits stops
  have afterWhole := dropWhile_append_of_stopsBefore h.whole.digits stops
  simp only [Numeral.decimal?, text, whole, afterWhole, h.whole.nonempty, false_and, if_false]
  by_cases whole : w.fraction = []
  · have head := head?_exponentText_ne (w := w) nothing
    rw [List.append_nil] at head
    simp only [fractionText, whole, if_true, List.nil_append]
    split
    · rename_i point
      exact absurd (by rw [point]; rfl) head
    · simp [exponent?_exponentText h, value, whole]
  · have fraction := takeWhile_append_of_stopsBefore h.fraction ending
    have afterFraction := dropWhile_append_of_stopsBefore h.fraction ending
    simp [fractionText, whole, fraction, afterFraction, exponent?_exponentText h, value]

/-- A number with a point or an exponent is read as the number nearest to it. -/
theorem IsBinary.scalar_append (h : w.IsBinary) (negative : Bool)
    (stops : StopsBefore isNumberPart rest) :
    scalar (signText negative ++ (w.text ++ rest)) = .ok (.float (w.value negative), rest) := by
  rw [text, List.append_assoc, List.append_assoc, h.whole.scalar_append]
  have marked : ¬ (w.fractionText = [] ∧ w.exponentText = []) := by
    rintro ⟨noFraction, noExponent⟩
    rcases h.marked with fraction | exponent
    · simp [fractionText, fraction] at noFraction
    · obtain ⟨exponent, given⟩ := Option.ne_none_iff_exists'.mp exponent
      simp [exponentText, given] at noExponent
  exact number_of_decimal h.whole.head?_append_ne
    (wholePart?_append h.whole (stopsBefore_fractionText stops)) (fractionPart_append h stops)
    (exponentPart_append h stops) marked (decimal?_text negative h)

end Written

/-- The digits of a positive number do not begin with a zero. -/
theorem head?_toDigits_ne_zero {n : Nat} (positive : n ≠ 0) :
    (Nat.toDigits 10 n).head? ≠ some '0' := by
  induction n using Nat.strongRecOn with
  | _ n ih =>
      rw [Nat.toDigits_eq_if (by decide)]
      split
      · rename_i small
        have digits : ∀ d, d < 10 → d ≠ 0 → Nat.digitChar d ≠ '0' := by decide
        simpa using digits n small positive
      · have shorter := ih (n / 10) (by omega) (by omega)
        obtain ⟨c, more, eq⟩ := List.exists_cons_of_ne_nil
          (Nat.toDigits_ne_nil (n := n / 10) (b := 10))
        rw [eq] at shorter ⊢
        exact shorter

/-- The digits of a natural number can stand in front of a point. -/
theorem isWhole_toDigits (n : Nat) : IsWhole (Nat.toDigits 10 n) where
  nonempty := Nat.toDigits_ne_nil
  digits := fun _ mem => Nat.isDigit_of_mem_toDigits (by decide) (by decide) mem
  noZero := by
    intro head
    by_cases zero : n = 0
    · rw [zero, Nat.toDigits_zero]
    · exact absurd head (head?_toDigits_ne_zero zero)

/-- An integer that can be shown has no more digits than a document may hold. -/
theorem length_toDigits_le {i : Int} (showable : Value.isShowableInt i = true) :
    (Nat.toDigits 10 i.natAbs).length ≤ 4300 := by
  have limitPos : 0 < 4300 := by decide
  revert limitPos showable
  unfold Value.isShowableInt
  -- the limit becomes a variable, or the power of ten would be computed
  generalize 4300 = limit
  intro showable limitPos
  exact (Nat.length_toDigits_le_iff (by decide) limitPos).mpr (of_decide_eq_true showable)

theorem integer_toDigits {i : Int} (showable : Value.isShowableInt i = true) :
    integer (decide (i < 0)) (Nat.toDigits 10 i.natAbs) = .ok (.int i) := by
  have short := length_toDigits_le showable
  have read : Numeral.digitsValue (Nat.toDigits 10 i.natAbs) = i.natAbs :=
    Nat.ofDigitChars_ten_toDigits
  rw [integer, if_neg (by omega), read]
  by_cases negative : i < 0
  · have value : -(i.natAbs : Int) = i := by omega
    rw [decide_eq_true negative]
    exact congrArg (fun i => Except.ok (Value.int i)) value
  · have value : (i.natAbs : Int) = i := by omega
    rw [decide_eq_false negative]
    exact congrArg (fun i => Except.ok (Value.int i)) value

theorem integerText_eq (i : Int) :
    integerText i = signText (decide (i < 0)) ++ Nat.toDigits 10 i.natAbs := by
  simp [integerText, signText]

/-- An integer that is not too long is read back from its digits. -/
theorem scalar_integerText_append {i : Int} (showable : Value.isShowableInt i = true)
    (stops : StopsBefore isNumberPart rest) :
    scalar (integerText i ++ rest) = .ok (.int i, rest) := by
  have whole := isWhole_toDigits i.natAbs
  have noPoint : rest.head? ≠ some '.' := by
    intro head
    exact absurd (stops '.' head) (by decide)
  have noExponent : exponentPart rest = ([], rest) := by
    cases rest with
    | nil => rfl
    | cons c rest =>
        have outside := stops c rfl
        simp only [isNumberPart, Bool.or_eq_false_iff, beq_eq_false_iff_ne] at outside
        simp [exponentPart, outside.1.2, outside.2]
  rw [integerText_eq, List.append_assoc, whole.scalar_append, number_of_whole whole.head?_append_ne
    (wholePart?_append whole (stopsBefore_isDigit stops)) (Written.fractionPart_of_head?_ne noPoint)
    noExponent, integer_toDigits showable]
  rfl

end Stencil.Json
