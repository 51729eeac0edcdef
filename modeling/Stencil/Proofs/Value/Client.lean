/-
# Values as a client shows them

A client shows nothing for null, texts and booleans as they are, numbers as it writes them, and a
list as the texts of its items with commas between them. The display text of a value is the same
text if and only if all numbers in the value are displayed as a client writes them: no text of a
number holds a comma, so that the items of two lists cannot make up for each other.
-/

import Stencil.Proofs.Json.Unquoted
import Stencil.Proofs.Number.Client
import Stencil.Proofs.Record
import Stencil.Proofs.Value.Induction
import Stencil.Proofs.Value.Numbers

namespace Stencil

/-! ## Numbers -/

namespace Binary64

open Decimal Json

variable {rank : Fin finiteRanks} {negative : Bool} {n : Nat}

theorem units_eq_mul_of_rankValue_eq {rank : Nat} (whole : rankValue rank = n) :
    units rank = n * unitsInOne := by
  have one : (unitsInOne : ℚ) ≠ 0 := by exact_mod_cast unitsInOne_pos.ne'
  rw [rankValue, div_eq_iff one] at whole
  exact_mod_cast whole

/-- A whole number is an integer. -/
theorem toInt?_of_rankValue_eq (negative : Bool) (whole : rankValue rank = n) :
    (finite negative rank).toInt? = some (if negative then -(n : Int) else n) := by
  have one : (unitsInOne : Int) ≠ 0 := by exact_mod_cast unitsInOne_pos.ne'
  have units := units_eq_mul_of_rankValue_eq whole
  have magnitude : ((Binary64.units rank : Nat) : Int) / unitsInOne = n := by
    rw [units, Nat.cast_mul, Int.mul_ediv_cancel _ one]
  rw [toInt?, if_pos (by rw [units, Nat.mul_mod_left])]
  simp only [magnitude]

/-- A fraction is no integer. -/
theorem toInt?_eq_none (negative : Bool) (fraction : ∀ n : Nat, rankValue rank ≠ n) :
    (finite negative rank).toInt? = none := by
  rw [toInt?, if_neg]
  intro divides
  have one : (unitsInOne : ℚ) ≠ 0 := by exact_mod_cast unitsInOne_pos.ne'
  apply fraction (units rank / unitsInOne)
  rw [rankValue, div_eq_iff one]
  exact_mod_cast (Nat.div_mul_cancel (Nat.dvd_of_mod_eq_zero divides)).symm

/-- The display text of a whole number. -/
theorem toList_floatText_of_whole (negative : Bool) (whole : rankValue rank = n) (nonzero : n ≠ 0) :
    (Value.floatText (finite negative rank)).toList = signText negative ++ Nat.toDigits 10 n := by
  rw [Value.floatText, toInt?_of_rankValue_eq negative whole]
  simp only [Value.intText, String.toList_ofList, integerText_eq]
  cases negative with
  | true =>
      have sign : decide (-(n : Int) < 0) = true := decide_eq_true (by omega)
      rw [if_pos rfl, sign, Int.natAbs_neg, Int.natAbs_natCast]
  | false =>
      have sign : decide ((n : Int) < 0) = false := decide_eq_false (by omega)
      rw [if_neg Bool.false_ne_true, sign, Int.natAbs_natCast]

/-- The display text of a fraction. -/
theorem toList_floatText_of_fraction (negative : Bool) (fraction : ∀ n : Nat, rankValue rank ≠ n) :
    (Value.floatText (finite negative rank)).toList = signText negative ++
      Layout.plain.digitsText (shortest rank).digitChars (shortest rank).leadingExponent := by
  have positive : rank.val ≠ 0 := by
    intro zero
    apply fraction 0
    rw [zero, rankValue_zero, Nat.cast_zero]
  rw [Value.floatText, toInt?_eq_none negative fraction]
  simp only [String.toList_ofList, Layout.shortestText, Layout.write, positive, if_false, signText]

/-- What a client writes for a positive or negative number. -/
theorem clientWrites_iff (rankNonzero : rank.val ≠ 0) {cs : List Char} :
    ClientWrites (.finite negative rank) cs ↔ cs = signText negative ++
      clientDigits (shortest rank).digitChars ((shortest rank).leadingExponent + 1) := by
  constructor
  · intro writes
    cases writes with
    | zero rankZero => exact absurd rankZero rankNonzero
    | positive _ chosen =>
        rw [(isChosen_iff rank.isLt rankNonzero).mp chosen, signText, if_neg Bool.false_ne_true,
          List.nil_append]
    | negative _ chosen =>
        rw [(isChosen_iff rank.isLt rankNonzero).mp chosen, signText, if_pos rfl,
          List.singleton_append]
  · rintro rfl
    have chosen := isChosen_shortest rank.isLt rankNonzero
    cases negative with
    | true =>
        rw [signText, if_pos rfl, List.singleton_append]
        exact .negative rankNonzero chosen
    | false =>
        rw [signText, if_neg Bool.false_ne_true, List.nil_append]
        exact .positive rankNonzero chosen

theorem clientWrites_zero_iff (rankZero : rank.val = 0) {cs : List Char} :
    ClientWrites (.finite negative rank) cs ↔ cs = ['0'] := by
  constructor
  · intro writes
    cases writes with
    | zero _ => rfl
    | positive rankNonzero _ => exact absurd rankZero rankNonzero
    | negative rankNonzero _ => exact absurd rankZero rankNonzero
  · rintro rfl
    exact .zero rankZero

/-- The digits of a positive whole number are what a client writes if and only if the number is
displayed alike. -/
theorem toDigits_eq_iff_isAlike (rankNonzero : rank.val ≠ 0) (whole : rankValue rank = n) :
    Nat.toDigits 10 n =
        clientDigits (shortest rank).digitChars ((shortest rank).leadingExponent + 1) ↔
      IsAlike (.finite negative rank) := by
  have chosen := isChosen_shortest rank.isLt rankNonzero
  rw [toDigits_eq_clientDigits_iff (chosen.fewest.last_ne_zero rank.isLt rankNonzero)]
  constructor
  · rintro ⟨small, value⟩
    exact .inl ⟨n, whole, small, shortest rank, chosen.fewest, value⟩
  · rintro (⟨m, same, small, d, fewest, value⟩ | ⟨fraction, -⟩)
    · rw [whole] at same
      obtain rfl : n = m := by exact_mod_cast same
      refine ⟨small, ?_⟩
      have near := chosen.nearest d fewest
      rw [value, whole, sub_self, abs_zero, abs_nonpos_iff, sub_eq_zero] at near
      exact near
    · exact absurd whole (fraction n)

/-- A fraction is laid out as a client lays it out if and only if it is displayed alike. -/
theorem digitsText_eq_iff_isAlike (fraction : ∀ n : Nat, rankValue rank ≠ n)
    (rankNonzero : rank.val ≠ 0) :
    Layout.plain.digitsText (shortest rank).digitChars (shortest rank).leadingExponent =
        clientDigits (shortest rank).digitChars ((shortest rank).leadingExponent + 1) ↔
      IsAlike (.finite negative rank) := by
  have chosen := isChosen_shortest rank.isLt rankNonzero
  have reads := chosen.fewest.reads
  have tenThousandth := chosen.le_leadingExponent_iff rank.isLt rankNonzero
    (le_rankValue_nearestTo (k := 4) (by decide +kernel))
  have billionth := chosen.le_leadingExponent_iff rank.isLt rankNonzero
    (le_rankValue_nearestTo (k := 9) (by decide +kernel))
  have alike : IsAlike (.finite negative rank) ↔
      -4 ≤ (shortest rank).leadingExponent ∨ (shortest rank).leadingExponent ≤ -10 := by
    have four : (1 : ℚ) / 10 ^ 4 = 10 ^ (-(4 : Nat) : Int) := by norm_num
    have nine : (1 : ℚ) / 10 ^ 9 = 10 ^ (-(9 : Nat) : Int) := by norm_num
    have whole : ¬ ∃ n : Nat, rankValue rank = n ∧ n < 10 ^ 21 ∧
        ∃ d : Decimal, d.IsFewest rank ∧ d.value = n := by
      rintro ⟨n, whole, -⟩
      exact fraction n whole
    rw [IsAlike, or_iff_right whole, and_iff_right fraction, four, nine, ← not_le,
      ← tenThousandth, ← billionth]
    push_cast
    omega
  rw [alike]
  constructor
  · intro same
    by_contra outside
    refine digitsText_ne_clientDigits ?_ Nat.toDigits_ne_nil ?_ ?_ same
    · exact fun c mem => Nat.isDigit_of_mem_toDigits (by decide) (by decide) mem
    · omega
    · omega
  · refine digitsText_eq_clientDigits Nat.toDigits_ne_nil ?_ ?_
    · intro _
      have negative := reads.exponent_neg rank.isLt fraction
      rw [leadingExponent]
      omega
    · exact reads.leadingExponent_lt rank.isLt rankNonzero fraction

/-- A client has one text for a finite number, and the display text is this text if and only if the
number is displayed alike. -/
theorem exists_clientWrites_iff {x : Binary64} (isFinite : x.isFinite = true) :
    ∃ cs, (∀ other, x.ClientWrites other ↔ other = cs) ∧
      ((Value.floatText x).toList = cs ↔ x.IsAlike) := by
  cases x with
  | nan => cases isFinite
  | infinite => cases isFinite
  | finite negative rank =>
      by_cases rankZero : rank.val = 0
      · refine ⟨['0'], fun other => clientWrites_zero_iff rankZero, ?_⟩
        have zero : rankValue rank = (0 : Nat) := by rw [rankZero, rankValue_zero, Nat.cast_zero]
        refine iff_of_true ?_ (isAlike_zero rankZero)
        rw [Value.floatText, toInt?_of_rankValue_eq negative zero]
        cases negative <;> simp [Value.intText, integerText]
      · refine ⟨_, fun other => clientWrites_iff rankZero, ?_⟩
        by_cases whole : ∃ n : Nat, rankValue rank = n
        · obtain ⟨n, whole⟩ := whole
          have nonzero : n ≠ 0 := by
            rintro rfl
            have positive := rankValue_pos rankZero
            rw [whole, Nat.cast_zero] at positive
            exact positive.ne rfl
          rw [toList_floatText_of_whole negative whole nonzero, List.append_cancel_left_eq]
          exact toDigits_eq_iff_isAlike rankZero whole
        · have fraction (n : Nat) : rankValue rank ≠ n := fun same => whole ⟨n, same⟩
          rw [toList_floatText_of_fraction negative fraction, List.append_cancel_left_eq]
          exact digitsText_eq_iff_isAlike fraction rankZero

/-- The text of a finite number holds no comma. -/
theorem comma_not_mem_floatText {x : Binary64} (isFinite : x.isFinite = true) :
    ',' ∉ (Value.floatText x).toList := by
  have number : IsNumber (Value.floatText x).toList := by
    rw [Value.floatText]
    split
    · rw [Value.intText, String.toList_ofList]
      exact isNumber_integerText _
    · rw [String.toList_ofList]
      exact isNumber_shortestText rfl isFinite
  intro mem
  exact absurd (number.isInNumber _ mem) (by decide)

theorem isInNumber_of_mem_clientMantissa {digits : List Char}
    (all : ∀ c ∈ digits, isInNumber c = true) : ∀ c ∈ clientMantissa digits, isInNumber c = true := by
  rcases digits with _ | ⟨first, _ | ⟨second, rest⟩⟩
  · exact all
  · exact all
  · simp only [List.forall_mem_cons, clientMantissa] at all ⊢
    exact ⟨all.1, rfl, all.2⟩

theorem isInNumber_of_mem_clientDigits {digits : List Char} (point : Int)
    (all : ∀ c ∈ digits, isInNumber c = true) :
    ∀ c ∈ clientDigits digits point, isInNumber c = true := by
  have zeros (count : Nat) : ∀ c ∈ List.replicate count '0', isInNumber c = true := by
    intro c mem
    rw [List.eq_of_mem_replicate mem]
    rfl
  rw [clientDigits]
  split
  · exact List.forall_mem_append.mpr ⟨all, zeros _⟩
  split
  · refine List.forall_mem_append.mpr ⟨fun c mem => all c (List.mem_of_mem_take mem), ?_⟩
    exact List.forall_mem_cons.mpr ⟨rfl, fun c mem => all c (List.mem_of_mem_drop mem)⟩
  split
  · simp only [List.forall_mem_cons, List.forall_mem_append]
    exact ⟨rfl, rfl, zeros _, all⟩
  · simp only [List.forall_mem_cons, List.forall_mem_append]
    refine ⟨isInNumber_of_mem_clientMantissa all, rfl, by split <;> rfl, fun c mem => ?_⟩
    exact isInNumber_of_isDigit (Nat.isDigit_of_mem_toDigits (by decide) (by decide) mem)

/-- What a client writes for a number holds no comma. -/
theorem ClientWrites.comma_not_mem {x : Binary64} {cs : List Char} (writes : x.ClientWrites cs) :
    ',' ∉ cs := by
  have digits (d : Decimal) : ∀ c ∈ d.digitChars, isInNumber c = true := fun c mem =>
    isInNumber_of_isDigit (Nat.isDigit_of_mem_toDigits (by decide) (by decide) mem)
  have all : ∀ c ∈ cs, isInNumber c = true := by
    cases writes with
    | zero _ => exact List.forall_mem_singleton.mpr rfl
    | positive _ _ => exact isInNumber_of_mem_clientDigits _ (digits _)
    | negative _ _ =>
        exact List.forall_mem_cons.mpr ⟨rfl, isInNumber_of_mem_clientDigits _ (digits _)⟩
  intro mem
  exact absurd (all _ mem) (by decide)

end Binary64

namespace Value

/-! ## Values -/

/-- Data built from null, booleans, texts, finite numbers and lists of such data. -/
inductive IsClientData : Value → Prop
  | null : IsClientData .null
  | bool (b : Bool) : IsClientData (.bool b)
  | text (s : String) : IsClientData (.text s)
  | float {x : Binary64} (finite : x.isFinite = true) : IsClientData (.float x)
  | list {items : List Value} (each : ∀ v ∈ items, IsClientData v) : IsClientData (.list items)

/-- What a client shows for a value. -/
inductive ClientShows : Value → String → Prop
  | null : ClientShows .null ""
  | bool (b : Bool) : ClientShows (.bool b) (if b then "true" else "false")
  | text (s : String) : ClientShows (.text s) s
  | float {x : Binary64} {cs : List Char} (writes : x.ClientWrites cs) :
      ClientShows (.float x) (String.ofList cs)
  | list {items : List Value} {texts : List String} (each : List.Forall₂ ClientShows items texts) :
      ClientShows (.list items) (",".intercalate texts)

/-- How many commas a text holds. -/
def commas (s : String) : Nat := s.toList.count ','

/-- What stands before a mark is the same in two equal lists if it holds equally many marks. -/
theorem append_cons_inj_of_count_eq {mark : Char} {xs ys r s : List Char}
    (same : xs.count mark = ys.count mark) (whole : xs ++ mark :: r = ys ++ mark :: s) :
    xs = ys ∧ r = s := by
  induction xs generalizing ys with
  | nil =>
      cases ys with
      | nil => exact ⟨rfl, (List.cons.inj whole).2⟩
      | cons b ys =>
          obtain ⟨rfl, -⟩ := List.cons.inj whole
          simp at same
  | cons a xs ih =>
      cases ys with
      | nil =>
          obtain ⟨rfl, -⟩ := List.cons.inj whole
          simp at same
      | cons b ys =>
          obtain ⟨rfl, rest⟩ := List.cons.inj whole
          obtain ⟨rfl, rfl⟩ := ih (by simpa [List.count_cons] using same) rest
          exact ⟨rfl, rfl⟩

theorem append_comma_inj {x y r s : String} (same : commas x = commas y) :
    x ++ "," ++ r = y ++ "," ++ s ↔ x = y ∧ r = s := by
  refine ⟨fun whole => ?_, by rintro ⟨rfl, rfl⟩; rfl⟩
  have whole := congrArg String.toList whole
  simp only [String.toList_append, List.append_assoc] at whole
  obtain ⟨first, rest⟩ := append_cons_inj_of_count_eq same whole
  exact ⟨String.toList_inj.mp first, String.toList_inj.mp rest⟩

theorem commas_intercalate_cons (x : String) {rest : List String} (more : rest ≠ []) :
    commas (",".intercalate (x :: rest)) = commas x + (1 + commas (",".intercalate rest)) := by
  rw [String.intercalate_cons_of_ne_nil more, commas, String.toList_append, String.toList_append,
    List.count_append, List.count_append, Nat.add_assoc]
  rfl

/-- Texts with equally many commas are joined to texts with equally many commas, and to the same
text only if they are the same. -/
theorem intercalate_comma {xs ys : List String}
    (same : List.Forall₂ (fun x y => commas x = commas y) xs ys) :
    commas (",".intercalate xs) = commas (",".intercalate ys) ∧
      (",".intercalate xs = ",".intercalate ys ↔ xs = ys) := by
  induction same with
  | nil => exact ⟨rfl, iff_of_true rfl rfl⟩
  | @cons x y xs ys first rest ih =>
      cases rest with
      | nil => simp [first]
      | cons second rest =>
          rw [commas_intercalate_cons _ (List.cons_ne_nil _ _),
            commas_intercalate_cons _ (List.cons_ne_nil _ _), first, ih.1,
            String.intercalate_cons_of_ne_nil (List.cons_ne_nil _ _),
            String.intercalate_cons_of_ne_nil (List.cons_ne_nil _ _), append_comma_inj first, ih.2]
          refine ⟨rfl, ?_⟩
          simp only [List.cons.injEq]

variable {v : Value} {s : String} {items : List Value} {texts : List String}

/-- The text is the only one that a client shows for the value, and the display text is the same if
and only if all numbers in the value are displayed alike. -/
structure HasClientText (v : Value) (s : String) : Prop where
  only : ∀ t, v.ClientShows t ↔ t = s
  commas : commas v.displayText = commas s
  agrees : v.displayText = s ↔ ∀ x ∈ v.numbers, x.IsAlike

/-- A value without numbers whose display text is the only one that a client shows for it. -/
theorem HasClientText.of_displayText (only : ∀ t, v.ClientShows t ↔ t = v.displayText)
    (numberless : v.numbers = []) : v.HasClientText v.displayText where
  only := only
  commas := rfl
  agrees := iff_of_true rfl (by simp [numberless])

theorem exists_hasClientText_float {x : Binary64} (finite : x.isFinite = true) :
    ∃ s, (Value.float x).HasClientText s := by
  obtain ⟨cs, only, agrees⟩ := x.exists_clientWrites_iff finite
  have writes : x.ClientWrites cs := (only cs).mpr rfl
  refine ⟨String.ofList cs, fun t => ⟨?_, ?_⟩, ?_, ?_⟩
  · rintro (_ | _ | _ | writes)
    rw [(only _).mp writes]
  · rintro rfl
    exact .float writes
  · rw [Value.commas, Value.commas, displayText, String.toList_ofList,
      List.count_eq_zero_of_not_mem (x.comma_not_mem_floatText finite),
      List.count_eq_zero_of_not_mem writes.comma_not_mem]
  · rw [displayText, ← String.toList_inj, String.toList_ofList, agrees, numbers,
      List.forall_mem_singleton]

theorem displayText_list (items : List Value) :
    (Value.list items).displayText = ",".intercalate (items.map displayText) := by
  have texts : displayTexts items = items.map displayText := by
    induction items with
    | nil => rfl
    | cons v rest ih => rw [displayTexts, ih, List.map_cons]
  rw [displayText, texts]

theorem forall₂_clientShows_iff (each : List.Forall₂ HasClientText items texts)
    {others : List String} : List.Forall₂ ClientShows items others ↔ others = texts := by
  induction each generalizing others with
  | nil => rw [List.forall₂_nil_left_iff]
  | @cons v s items texts first rest ih =>
      rw [List.forall₂_cons_left_iff]
      constructor
      · rintro ⟨t, ts, shows, all, rfl⟩
        rw [(first.only t).mp shows, ih.mp all]
      · rintro rfl
        exact ⟨s, texts, (first.only s).mpr rfl, ih.mpr rfl, rfl⟩

theorem map_displayText_eq_iff (each : List.Forall₂ HasClientText items texts) :
    items.map displayText = texts ↔ ∀ v ∈ items, ∀ x ∈ v.numbers, x.IsAlike := by
  induction each with
  | nil => simp
  | cons first rest ih => rw [List.map_cons, List.cons.injEq, first.agrees, ih, List.forall_mem_cons]

theorem HasClientText.list (each : List.Forall₂ HasClientText items texts) :
    (Value.list items).HasClientText (",".intercalate texts) := by
  have commas : List.Forall₂ (fun x y => Value.commas x = Value.commas y)
      (items.map displayText) texts := by
    rw [List.forall₂_map_left_iff]
    exact each.imp fun _ _ text => text.commas
  obtain ⟨equallyMany, joined⟩ := intercalate_comma commas
  refine ⟨fun t => ⟨?_, ?_⟩, ?_, ?_⟩
  · intro shows
    cases shows with
    | list shown => rw [(forall₂_clientShows_iff each).mp shown]
  · rintro rfl
    exact .list ((forall₂_clientShows_iff each).mpr rfl)
  · rw [displayText_list]
    exact equallyMany
  · rw [displayText_list, joined, map_displayText_eq_iff each, numbers_list]
    simp only [List.forall_mem_flatMap]

theorem exists_forall₂_hasClientText (each : ∀ v ∈ items, ∃ s, v.HasClientText s) :
    ∃ texts, List.Forall₂ HasClientText items texts := by
  induction items with
  | nil => exact ⟨[], .nil⟩
  | cons v rest ih =>
      obtain ⟨⟨s, first⟩, more⟩ := List.forall_mem_cons.mp each
      obtain ⟨texts, others⟩ := ih more
      exact ⟨s :: texts, .cons first others⟩

theorem IsClientData.exists_hasClientText (data : v.IsClientData) : ∃ s, v.HasClientText s := by
  induction data with
  | null => exact ⟨_, .of_displayText (fun t => ⟨by rintro ⟨⟩; rfl, by rintro rfl; exact .null⟩) rfl⟩
  | bool b =>
      exact ⟨_, .of_displayText (fun t => ⟨by rintro ⟨⟩; rfl, by rintro rfl; exact .bool b⟩) rfl⟩
  | text s =>
      exact ⟨_, .of_displayText (fun t => ⟨by rintro ⟨⟩; rfl, by rintro rfl; exact .text _⟩) rfl⟩
  | float finite => exact exists_hasClientText_float finite
  | list _ ih =>
      obtain ⟨texts, each⟩ := exists_forall₂_hasClientText ih
      exact ⟨_, .list each⟩

/-- No integer in the data of a client is too long to be shown. -/
theorem IsClientData.isShowable (data : v.IsClientData) : v.isShowable = true := by
  induction data with
  | list _ ih => exact areShowable_iff.mpr ih
  | _ => rfl

/-- A client shows exactly one text for data without integers and objects. The display text of the
data is this text if and only if all numbers in the data are displayed as a client writes them. -/
theorem display_eq_client_iff (data : v.IsClientData) :
    ∃ s, (∀ t, v.ClientShows t ↔ t = s) ∧
      (v.display = .ok s ↔ ∀ x ∈ v.numbers, x.IsAlike) := by
  obtain ⟨s, text⟩ := data.exists_hasClientText
  refine ⟨s, text.only, ?_⟩
  rw [display_of_isShowable data.isShowable, Except.ok.injEq, text.agrees]

/-- The number nearest to `0.00001` is displayed with an exponent. A client shows it without
one. -/
theorem display_ne_client :
    let x : Binary64 := .finite false ⟨4532020583610935537, by decide⟩
    x = .ofDecimal false 1 (-5) ∧ (Value.float x).IsClientData ∧
      (Value.float x).display = .ok "1e-05" ∧ (Value.float x).ClientShows "0.00001" := by
  intro x
  have rankNonzero : (4532020583610935537 : Nat) ≠ 0 := by decide
  have shortest : Decimal.shortest 4532020583610935537 = ⟨1, -5⟩ := by decide +kernel
  have chosen : Decimal.IsChosen 4532020583610935537 ⟨1, -5⟩ := by
    rw [← shortest]
    exact Decimal.isChosen_shortest (by decide) rankNonzero
  have digits : clientDigits (Decimal.digitChars ⟨1, -5⟩) (Decimal.leadingExponent ⟨1, -5⟩ + 1) =
      "0.00001".toList := by decide
  have writes : x.ClientWrites "0.00001".toList := by
    rw [← digits]
    exact .positive rankNonzero chosen
  have text : floatText x = "1e-05" := by decide +kernel
  have data : (Value.float x).IsClientData := .float rfl
  refine ⟨by decide +kernel, data, ?_, .float writes⟩
  rw [display_of_isShowable data.isShowable, displayText, text]

/-- Null, a boolean, texts with commas and two numbers, one of which is not displayed alike. -/
theorem display_eq_client_iff_nested :
    let x : Binary64 := .finite false ⟨4532020583610935537, by decide⟩
    let v : Value := .list [.null, .text "a,b", .list [.bool true, .float x], .float .zero]
    v.IsClientData ∧ ∃ s, (∀ t, v.ClientShows t ↔ t = s) ∧
      (v.display = .ok s ↔ ∀ x ∈ v.numbers, x.IsAlike) := by
  intro x v
  have inner : IsClientData (.list [.bool true, .float x]) :=
    .list (by simpa using ⟨.bool true, .float rfl⟩)
  have data : v.IsClientData :=
    .list (by simpa [v] using ⟨.null, .text "a,b", inner, .float rfl⟩)
  exact ⟨data, display_eq_client_iff data⟩

end Value

end Stencil
