/-
# What reading comes to

A reading step has a result and leaves an ending of its text, or it stops. It stops at too many
digits only where the text has them in a row, and so the integers of a value that was read are
never too long to be shown. Every stop that is not at such digits is a fault of the text.
-/

import Stencil.Proofs.Json.RoundTrip
import Stencil.Proofs.Record

namespace Stencil.Json

variable {α β : Type}

/-- The text has this number of digits in a row. -/
def HoldsDigits (count : Nat) (cs : List Char) : Prop :=
  ∃ run, run.length = count ∧ (∀ c ∈ run, c.isDigit = true) ∧ run <:+: cs

/-- What a step may come to in a text: a result of a kind with an ending of the text, a fault,
or too many digits, which stand in the text. -/
def Reads (P : α → Prop) (cs : List Char) : Step α → Prop
  | .ok (a, left) => P a ∧ left <:+ cs
  | .error (.malformed _ _) => True
  | .error (.tooManyDigits count) => 4300 < count ∧ HoldsDigits count cs

namespace Reads

variable {P : α → Prop} {Q : β → Prop} {cs ds : List Char} {outcome : Step α}

/-- What holds of an ending of a text holds of the text. -/
theorem of_suffix (h : Reads P cs outcome) (suffix : cs <:+ ds) : Reads P ds outcome := by
  rcases outcome with (_ | count) | ⟨a, left⟩
  · trivial
  · obtain ⟨many, run, length, digits, inside⟩ := h
    exact ⟨many, run, length, digits, inside.trans suffix.isInfix⟩
  · exact ⟨h.1, h.2.trans suffix⟩

/-- A step stops, which is as good for one kind of result as for another, or it has a result of
its kind and leaves an ending. -/
theorem stops_or_goes_on (h : Reads P cs outcome) :
    (∃ stop, outcome = .error stop ∧ Reads Q cs (.error stop)) ∨
      ∃ a left, outcome = .ok (a, left) ∧ P a ∧ left <:+ cs := by
  rcases outcome with (_ | count) | ⟨a, left⟩
  · exact .inl ⟨_, rfl, trivial⟩
  · exact .inl ⟨_, rfl, h⟩
  · exact .inr ⟨a, left, rfl, h⟩

end Reads

section Parts

variable {cs run left opening : List Char}

theorem skipGap_suffix (cs : List Char) : skipGap cs <:+ cs := List.dropWhile_suffix _

theorem digits?_eq_some (split : digits? cs = some (run, left)) :
    cs = run ++ left ∧ ∀ c ∈ run, c.isDigit = true := by
  unfold digits? at split
  split at split
  · cases split
  · obtain ⟨rfl, rfl⟩ := Prod.mk.inj (Option.some.inj split)
    exact ⟨List.takeWhile_append_dropWhile.symm, List.all_eq_true.mp List.all_takeWhile⟩

theorem wholePart?_eq_some (split : wholePart? cs = some (run, left)) :
    cs = run ++ left ∧ ∀ c ∈ run, c.isDigit = true := by
  unfold wholePart? at split
  split at split
  · cases split
    exact ⟨rfl, by simp⟩
  · exact digits?_eq_some split

theorem fractionPart_suffix (cs : List Char) : (fractionPart cs).2 <:+ cs := by
  unfold fractionPart
  split
  · rename_i rest
    cases split : digits? rest with
    | none => exact List.suffix_refl _
    | some parts =>
        obtain ⟨run, left⟩ := parts
        obtain ⟨rfl, -⟩ := digits?_eq_some split
        exact ⟨'.' :: run, rfl⟩
  · exact List.suffix_refl _

theorem exponentPart_suffix (cs : List Char) : (exponentPart cs).2 <:+ cs := by
  unfold exponentPart
  split
  · exact List.suffix_refl _
  · rename_i mark rest
    split
    · split
      rename_i sign unsigned parts
      have after : unsigned <:+ rest := by
        split at parts
        · cases parts
          exact List.suffix_cons _ _
        · cases parts
          exact List.suffix_cons _ _
        · cases parts
          exact List.suffix_refl _
      split
      · rename_i run left split
        obtain ⟨rfl, -⟩ := digits?_eq_some split
        exact ((List.suffix_append run left).trans after).trans (List.suffix_cons mark rest)
      · exact List.suffix_refl _
    · exact List.suffix_refl _

theorem digitsValue_lt (digits : ∀ c ∈ run, c.isDigit = true) :
    Numeral.digitsValue run < 10 ^ run.length := by
  have bound (run : List Char) (digits : ∀ c ∈ run, c.isDigit = true) (init : Nat) :
      Nat.ofDigitChars 10 run init < (init + 1) * 10 ^ run.length := by
    induction run generalizing init with
    | nil => simp
    | cons c run ih =>
        rw [List.forall_mem_cons] at digits
        have digit : c.toNat - '0'.toNat ≤ 9 :=
          Nat.sub_le_sub_right (Char.isDigit_iff_toNat.mp digits.1).2 _
        rw [Nat.ofDigitChars_cons, List.length_cons, Nat.pow_succ']
        calc Nat.ofDigitChars 10 run (10 * init + (c.toNat - '0'.toNat))
            < (10 * init + (c.toNat - '0'.toNat) + 1) * 10 ^ run.length := ih digits.2 _
          _ ≤ ((init + 1) * 10) * 10 ^ run.length := Nat.mul_le_mul_right _ (by omega)
          _ = (init + 1) * (10 * 10 ^ run.length) := Nat.mul_assoc _ _ _
  simpa [Numeral.digitsValue] using bound run digits 0

/-- The integer of digits that are few enough can be shown. -/
theorem isShowableInt_digitsValue (digits : ∀ c ∈ run, c.isDigit = true) {i : Int}
    (magnitude : i.natAbs = Numeral.digitsValue run) (short : run.length ≤ 4300) :
    Value.isShowableInt i = true := by
  revert short
  unfold Value.isShowableInt
  -- the limit becomes a variable, or the power of ten would be computed
  generalize 4300 = limit
  intro short
  have bound : Numeral.digitsValue run < 10 ^ limit :=
    Nat.lt_of_lt_of_le (digitsValue_lt digits) (Nat.pow_le_pow_right (by decide) short)
  rw [magnitude]
  exact decide_eq_true bound

/-- Digits are read as an integer that can be shown, unless there are too many. -/
theorem reads_integer (negative : Bool) (digits : ∀ c ∈ run, c.isDigit = true)
    (inside : run <:+: cs) (suffix : left <:+ cs) :
    Reads (fun v => v.isShowable = true) cs
      ((integer negative run).map fun v => (v, left)) := by
  rw [integer]
  by_cases many : 4300 < run.length
  · rw [if_pos many]
    exact ⟨many, run, rfl, digits, inside⟩
  · rw [if_neg many]
    refine ⟨?_, suffix⟩
    show Value.isShowableInt _ = true
    apply isShowableInt_digitsValue digits _ (Nat.not_lt.mp many)
    cases negative <;> simp

theorem reads_number (cs : List Char) : Reads (fun v => v.isShowable = true) cs (number cs) := by
  unfold number
  split
  rename_i negative unsigned parts
  have behind : unsigned <:+ cs := by
    split at parts
    · cases parts
      exact List.suffix_cons _ _
    · cases parts
      exact List.suffix_refl _
  cases split : wholePart? unsigned with
  | none => trivial
  | some parts =>
      obtain ⟨whole, afterWhole⟩ := parts
      obtain ⟨rfl, digits⟩ := wholePart?_eq_some split
      have suffix := ((exponentPart_suffix (fractionPart afterWhole).2).trans
        (fractionPart_suffix afterWhole)).trans (List.suffix_append whole afterWhole)
      simp only
      split
      · exact reads_integer negative digits
          ((List.prefix_append whole afterWhole).isInfix.trans behind.isInfix)
          (suffix.trans behind)
      · split
        · exact ⟨rfl, suffix.trans behind⟩
        · trivial

theorem reads_word? {v : Value} (read : word? cs = some (v, left)) :
    v.isShowable = true ∧ left <:+ cs := by
  obtain ⟨⟨spelling, word⟩, mem, found⟩ := List.exists_of_findSome?_eq_some read
  have showable : ∀ entry ∈ words, entry.2.isShowable = true := by decide
  simp only at found
  split at found
  · cases found
    exact ⟨showable _ mem, List.drop_suffix _ _⟩
  · cases found

theorem reads_scalar (cs : List Char) : Reads (fun v => v.isShowable = true) cs (scalar cs) := by
  unfold scalar
  split
  · rename_i step read
    exact reads_word? read
  · exact reads_number cs

theorem reads_textBody [Machine] (opening : List Char) (skip : Nat) (cs : List Char) :
    Reads (fun _ => True) cs (textBody opening skip cs) := by
  induction cs generalizing skip with
  | nil =>
      cases skip <;> trivial
  | cons c rest ih =>
      cases skip with
      | succ skip => exact (ih skip).of_suffix (List.suffix_cons c rest)
      | zero =>
          have behind : rest <:+ c :: rest := List.suffix_cons c rest
          rw [textBody]
          split
          · exact ⟨trivial, behind⟩
          split
          · split
            · trivial
            · split
              · trivial
              · trivial
              · rename_i escaped width _
                rcases ((ih width).of_suffix behind).stops_or_goes_on with
                  ⟨stop, read, stops⟩ | ⟨more, left, read, -, suffix⟩
                · rw [read]
                  exact stops
                · rw [read]
                  exact ⟨trivial, suffix⟩
          split
          · trivial
          · rcases ((ih 0).of_suffix behind).stops_or_goes_on with
              ⟨stop, read, stops⟩ | ⟨more, left, read, -, suffix⟩
            · rw [read]
              exact stops
            · rw [read]
              exact ⟨trivial, suffix⟩

end Parts

section Values

variable {cs : List Char}

/-- What all three readers of structure come to with some fuel. -/
structure ReadsAll [Machine] (fuel : Nat) : Prop where
  value : ∀ cs, Reads (fun v => v.isShowable = true) cs (value fuel cs)
  elements : ∀ cs, Reads (fun items => ∀ v ∈ items, v.isShowable = true) cs (elements fuel cs)
  members : ∀ cs,
    Reads (fun entries => ∀ entry ∈ entries, entry.2.isShowable = true) cs (members fuel cs)

theorem reads_value_succ [Machine] {fuel : Nat} (h : ReadsAll fuel) (cs : List Char) :
    Reads (fun v => v.isShowable = true) cs (value (fuel + 1) cs) := by
  rw [value.eq_def]
  simp only
  split
  · rename_i rest
    have body := (reads_textBody ('"' :: rest) 0 rest).of_suffix (List.suffix_cons '"' rest)
    rcases body.stops_or_goes_on with ⟨stop, read, stops⟩ | ⟨text, left, read, -, suffix⟩
    · rw [read]
      exact stops
    · rw [read]
      exact ⟨rfl, suffix⟩
  · rename_i rest
    have inside := (skipGap_suffix rest).trans (List.suffix_cons '[' rest)
    split
    · rename_i left closed
      rw [closed] at inside
      exact ⟨rfl, (List.suffix_cons ']' left).trans inside⟩
    · have items := (h.elements (skipGap rest)).of_suffix inside
      rcases items.stops_or_goes_on with ⟨stop, read, stops⟩ | ⟨found, left, read, each, suffix⟩
      · rw [read]
        exact stops
      · rw [read]
        exact ⟨Value.areShowable_iff.mpr each, suffix⟩
  · rename_i rest
    have inside := (skipGap_suffix rest).trans (List.suffix_cons '\x7b' rest)
    split
    · rename_i left closed
      rw [closed] at inside
      exact ⟨rfl, (List.suffix_cons '\x7d' left).trans inside⟩
    · have entries := (h.members (skipGap rest)).of_suffix inside
      rcases entries.stops_or_goes_on with ⟨stop, read, stops⟩ | ⟨found, left, read, each, suffix⟩
      · rw [read]
        exact stops
      · rw [read]
        refine ⟨Value.areEntriesShowable_iff.mpr fun entry mem => ?_, suffix⟩
        exact each entry (Record.mem_entries_ofEntries mem)
  · exact reads_scalar cs

theorem reads_elements_succ [Machine] {fuel : Nat} (h : ReadsAll fuel) (cs : List Char) :
    Reads (fun items => ∀ v ∈ items, v.isShowable = true) cs (elements (fuel + 1) cs) := by
  rw [elements.eq_def]
  simp only
  rcases (h.value cs).stops_or_goes_on with ⟨stop, read, stops⟩ |
    ⟨v, afterFirst, read, showable, suffix⟩
  · rw [read]
    exact stops
  rw [read]
  have behind := (skipGap_suffix afterFirst).trans suffix
  simp only
  split
  · rename_i left closed
    rw [closed] at behind
    exact ⟨by simpa using showable, (List.suffix_cons ']' left).trans behind⟩
  · rename_i rest comma
    rw [comma] at behind
    have others := (h.elements (skipGap rest)).of_suffix
      ((skipGap_suffix rest).trans ((List.suffix_cons ',' rest).trans behind))
    rcases others.stops_or_goes_on with ⟨stop, read, stops⟩ | ⟨found, left, read, each, ending⟩
    · rw [read]
      exact stops
    · rw [read]
      exact ⟨List.forall_mem_cons.mpr ⟨showable, each⟩, ending⟩
  · trivial

theorem reads_members_succ [Machine] {fuel : Nat} (h : ReadsAll fuel) (cs : List Char) :
    Reads (fun entries => ∀ entry ∈ entries, entry.2.isShowable = true) cs
      (members (fuel + 1) cs) := by
  rw [members.eq_def]
  simp only
  split
  · rename_i rest
    have name := (reads_textBody ('"' :: rest) 0 rest).of_suffix (List.suffix_cons '"' rest)
    rcases name.stops_or_goes_on with ⟨stop, read, stops⟩ | ⟨body, afterName, read, -, suffix⟩
    · rw [read]
      exact stops
    rw [read]
    have behind := (skipGap_suffix afterName).trans suffix
    simp only
    split
    · rename_i afterColon colon
      rw [colon] at behind
      have first := (h.value (skipGap afterColon)).of_suffix
        ((skipGap_suffix afterColon).trans ((List.suffix_cons ':' afterColon).trans behind))
      rcases first.stops_or_goes_on with ⟨stop, read, stops⟩ |
        ⟨v, afterValue, read, showable, suffix⟩
      · rw [read]
        exact stops
      rw [read]
      have ending := (skipGap_suffix afterValue).trans suffix
      simp only
      split
      · rename_i left closed
        rw [closed] at ending
        exact ⟨by simpa using showable, (List.suffix_cons '\x7d' left).trans ending⟩
      · rename_i more comma
        rw [comma] at ending
        have others := (h.members (skipGap more)).of_suffix
          ((skipGap_suffix more).trans ((List.suffix_cons ',' more).trans ending))
        rcases others.stops_or_goes_on with ⟨stop, read, stops⟩ | ⟨found, left, read, each, last⟩
        · rw [read]
          exact stops
        · rw [read]
          exact ⟨List.forall_mem_cons.mpr ⟨showable, each⟩, last⟩
      · trivial
    · trivial
  · trivial

theorem readsAll [Machine] (fuel : Nat) : ReadsAll fuel := by
  induction fuel with
  | zero => exact ⟨fun _ => trivial, fun _ => trivial, fun _ => trivial⟩
  | succ fuel ih => exact ⟨reads_value_succ ih, reads_elements_succ ih, reads_members_succ ih⟩

end Values

section Documents

variable {cs run : List Char} {count : Nat} {v : Value}

theorem reads_document [Machine] (cs : List Char) :
    (∀ v, document cs = .ok v → v.isShowable = true) ∧
      ∀ count, document cs = .error (.tooManyDigits count) → 4300 < count ∧ HoldsDigits count cs := by
  have whole := ((readsAll (2 * cs.length + 1)).value (skipGap cs)).of_suffix (skipGap_suffix cs)
  unfold document
  cases read : value (2 * cs.length + 1) (skipGap cs) with
  | error stop =>
      rw [read] at whole
      refine ⟨by simp, ?_⟩
      rintro count ⟨rfl⟩
      exact whole
  | ok parts =>
      rw [read] at whole
      simp only
      split
      · refine ⟨?_, by simp⟩
        rintro v ⟨rfl⟩
        exact whole.1
      · simp

/-- The integers of a text that was read are never too long to be shown. -/
theorem isShowable_of_readText [Machine] {s : String} (read : readText s = .ok v) :
    v.isShowable = true := by
  unfold readText readChars at read
  split at read
  · cases read
  · cases done : document s.toList with
    | error stop => simp [done, Except.mapError] at read
    | ok held =>
        rw [done] at read
        cases read
        exact (reads_document s.toList).1 v done

/-- Reading a text stops at too many digits where reading its characters does. -/
theorem readChars_eq_tooManyDigits_iff [Machine] :
    readChars cs = .error (.tooManyDigits count) ↔ document cs = .error (.tooManyDigits count) := by
  rw [readChars]
  rcases document cs with (_ | _) | v <;> simp [Except.mapError, Stop.toError]

/-- A byte order mark is no value. -/
theorem document_byteOrderMark [Machine] (cs : List Char) :
    document ('\uFEFF' :: cs) = .error (.malformed .valueExpected ('\uFEFF' :: cs)) := by
  rw [document, skipGap_cons (by decide)]
  rfl

theorem readText_eq_tooManyDigits_iff [Machine] {s : String} :
    readText s = .error (.tooManyDigits count) ↔
      document s.toList = .error (.tooManyDigits count) := by
  rw [readText, ← readChars_eq_tooManyDigits_iff]
  split
  · rename_i mark
    obtain ⟨cs, same⟩ := List.head?_eq_some_iff.mp mark
    rw [same, readChars, document_byteOrderMark]
    simp [Except.mapError, Stop.toError]
  · rfl

/-- A document of nothing but too many digits stops the reader at them. -/
theorem document_of_whole [Machine] (whole : IsWhole run) (many : 4300 < run.length)
    (negative : Bool) :
    document (signText negative ++ run) = .error (.tooManyDigits run.length) := by
  have begins := begins_signText_append whole negative
  have start : skipGap (signText negative ++ run) = signText negative ++ run := by
    obtain ⟨c, tail, eq, head⟩ := begins.beginsValue_of_beginsScalar
    rw [eq]
    exact skipGap_cons (isGap_eq_false_of_beginsValue head)
  have nothing : Text.StopsBefore Char.isDigit [] := Text.stopsBefore_nil
  have split := wholePart?_append whole nothing
  have scanned := whole.scalar_append negative []
  have unmarked : (run ++ []).head? ≠ some '-' := whole.head?_append_ne
  rw [List.append_nil] at split scanned unmarked
  have read : number (signText negative ++ run) = (integer negative run).map fun v => (v, []) :=
    number_of_whole unmarked split rfl rfl
  rw [integer, if_pos many] at read
  rw [document, start, value_of_beginsScalar begins, scanned, read]
  rfl

theorem isWhole_replicate_one (count : Nat) : IsWhole (List.replicate (count + 1) '1') where
  nonempty := List.cons_ne_nil _ _
  digits := by
    intro c mem
    rw [List.eq_of_mem_replicate mem]
    rfl
  noZero := by
    intro head
    exact absurd (Option.some.inj head) (by decide)

end Documents

end Stencil.Json
