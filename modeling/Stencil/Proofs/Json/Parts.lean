/-
# Elements and members are read back

The elements of a list and the members of an object are printed one after the other,
with commas and line breaks in between. If each of the values is read back wherever it
stands, so is the whole row of them, up to the mark that closes it. The reader spends
fuel, and the bound on it goes along with the text that is left.
-/

import Stencil.Proofs.Json.Quoted
import Stencil.Proofs.Json.Reread

namespace Stencil.Json

open Text (StopsBefore stopsBefore_cons)

variable {style : Style} {number : Binary64 → Value}

/-- A value is read back wherever it is printed, with enough fuel, if the text behind it
cannot be taken for a part of a number. -/
def ReadsBack [Machine] (style : Style) (number : Binary64 → Value) (v : Value) : Prop :=
  ∀ depth fuel rest, StopsBefore isNumberPart rest →
    2 * (printAt style depth v ++ rest).length ≤ fuel →
    value fuel (printAt style depth v ++ rest) = .ok (v.reread number, rest)

theorem stopsBefore_printItems (style : Style) (depth : Nat) (items : List Value) {rest : List Char}
    (stops : StopsBefore isNumberPart rest) :
    StopsBefore isNumberPart (printItems style depth items ++ rest) := by
  cases items with
  | nil => simpa [printItems] using stops
  | cons v items => exact stopsBefore_cons rfl

theorem stopsBefore_printEntries (style : Style) (depth : Nat) (entries : List (String × Value))
    {rest : List Char} (stops : StopsBefore isNumberPart rest) :
    StopsBefore isNumberPart (printEntries style depth entries ++ rest) := by
  cases entries with
  | nil => simpa [printEntries] using stops
  | cons entry entries => exact stopsBefore_cons rfl

theorem stopsBefore_lineBreak (style : Style) (depth : Nat) {rest : List Char}
    (stops : StopsBefore isNumberPart rest) :
    StopsBefore isNumberPart (style.lineBreak depth ++ rest) := by
  cases indent : style.indent with
  | none => simpa [Style.lineBreak, indent] using stops
  | some width =>
      rw [Style.lineBreak, indent]
      exact stopsBefore_cons rfl

theorem skipGap_lineBreak_append (style : Style) (depth : Nat) {cs : List Char}
    (stops : StopsBefore isGap cs) : skipGap (style.lineBreak depth ++ cs) = cs :=
  skipGap_append (fun _ => isGap_of_mem_lineBreak) stops

theorem printItems_cons_append (depth : Nat) (v : Value) (items : List Value)
    (rest : List Char) :
    printItems style depth (v :: items) ++ rest =
      ',' :: (style.lineBreak depth ++ (printAt style depth v ++
        (printItems style depth items ++ rest))) := by
  simp [printItems]

/-- The printed elements of a list are read back, up to the bracket that closes it. -/
theorem elements_printItems [Machine] (h : style.ReadsAs number) (depth outer : Nat)
    (rest : List Char)
    (items : List Value) (first : Value) (fuel : Nat)
    (each : ∀ v ∈ first :: items, ReadsBack style number v)
    (enough : 2 * (printAt style depth first ++ (printItems style depth items ++
      (style.lineBreak outer ++ ']' :: rest))).length + 1 ≤ fuel) :
    elements fuel (printAt style depth first ++ (printItems style depth items ++
      (style.lineBreak outer ++ ']' :: rest))) =
        .ok ((first :: items).map (Value.reread number), rest) := by
  have close : StopsBefore isNumberPart (']' :: rest) := stopsBefore_cons rfl
  induction items generalizing first fuel with
  | nil =>
      obtain ⟨fuel, rfl⟩ : ∃ f, fuel = f + 1 := ⟨fuel - 1, by omega⟩
      have read := each first (by simp) depth fuel _
        (stopsBefore_printItems style depth [] (stopsBefore_lineBreak style outer close)) (by omega)
      have gap : skipGap (style.lineBreak outer ++ ']' :: rest) = ']' :: rest :=
        skipGap_lineBreak_append style outer (stopsBefore_cons rfl)
      rw [elements, read]
      simp only [printItems, List.nil_append, gap]
      rfl
  | cons second items ih =>
      obtain ⟨fuel, rfl⟩ : ∃ f, fuel = f + 1 := ⟨fuel - 1, by omega⟩
      have read := each first (by simp) depth fuel _
        (stopsBefore_printItems style depth (second :: items)
          (stopsBefore_lineBreak style outer close)) (by omega)
      rw [printItems_cons_append] at enough read ⊢
      have gap := skipGap_lineBreak_append style depth
        ((begins_printAt h depth second).append (printItems style depth items ++
          (style.lineBreak outer ++ ']' :: rest))).stopsBefore_isGap
      have others := ih second fuel (fun v mem => each v (by simp [mem])) (by
        simp only [List.length_append, List.length_cons] at enough ⊢
        omega)
      have comma (cs : List Char) : skipGap (',' :: cs) = ',' :: cs := skipGap_cons rfl
      rw [elements, read]
      simp only [comma, gap, others]
      rfl

theorem quotedText_append (s : String) (rest : List Char) :
    quotedText s ++ rest = '"' :: (s.toList.flatMap escaped ++ '"' :: rest) := by
  simp [quotedText]

theorem printEntries_cons_append (depth : Nat) (name : String) (v : Value)
    (entries : List (String × Value)) (rest : List Char) :
    printEntries style depth ((name, v) :: entries) ++ rest =
      ',' :: (style.lineBreak depth ++ (quotedText name ++ (style.colon ++
        (printAt style depth v ++ (printEntries style depth entries ++ rest))))) := by
  simp [printEntries]

section Member

variable {fuel : Nat} {name : String} {v : Value} {printed behind rest : List Char}

theorem skipGap_colon (style : Style) (behind : List Char) (begins : Begins beginsValue printed) :
    ∃ gap, style.colon ++ (printed ++ behind) = ':' :: (gap ++ (printed ++ behind)) ∧
      skipGap (gap ++ (printed ++ behind)) = printed ++ behind := by
  obtain ⟨gap, colon, gaps⟩ := exists_colon style
  refine ⟨gap, by rw [colon]; rfl, ?_⟩
  exact skipGap_append gaps (begins.append behind).stopsBefore_isGap

/-- The last member of an object is read with the brace behind it. -/
theorem members_last [Machine] (begins : Begins beginsValue printed)
    (read : value fuel (printed ++ behind) = .ok (v, behind))
    (ending : skipGap behind = '\x7d' :: rest) :
    members (fuel + 1) (quotedText name ++ (style.colon ++ (printed ++ behind))) =
      .ok ([(name, v)], rest) := by
  obtain ⟨gap, colon, skipped⟩ := skipGap_colon style behind begins
  have outside : skipGap (':' :: (gap ++ (printed ++ behind))) = ':' :: _ := skipGap_cons rfl
  rw [quotedText_append, members, textBody_append, colon]
  simp only [outside, skipped, read, ending, String.ofList_toList]

/-- A member of an object is read with the comma behind it and the members that follow. -/
theorem members_more [Machine] {left : List Char} {others : List (String × Value)}
    (begins : Begins beginsValue printed)
    (read : value fuel (printed ++ behind) = .ok (v, behind))
    (ending : skipGap behind = ',' :: left)
    (more : members fuel (skipGap left) = .ok (others, rest)) :
    members (fuel + 1) (quotedText name ++ (style.colon ++ (printed ++ behind))) =
      .ok ((name, v) :: others, rest) := by
  obtain ⟨gap, colon, skipped⟩ := skipGap_colon style behind begins
  have outside : skipGap (':' :: (gap ++ (printed ++ behind))) = ':' :: _ := skipGap_cons rfl
  rw [quotedText_append, members, textBody_append, colon]
  simp only [outside, skipped, read, ending, more, String.ofList_toList]

end Member

/-- The printed members of an object are read back, up to the brace that closes it. -/
theorem members_printEntries [Machine] (h : style.ReadsAs number) (depth outer : Nat)
    (rest : List Char)
    (entries : List (String × Value)) (name : String) (v : Value) (fuel : Nat)
    (each : ∀ entry ∈ (name, v) :: entries, ReadsBack style number entry.2)
    (enough : 2 * (quotedText name ++ (style.colon ++ (printAt style depth v ++
      (printEntries style depth entries ++ (style.lineBreak outer ++ '\x7d' :: rest))))).length + 1
        ≤ fuel) :
    members fuel (quotedText name ++ (style.colon ++ (printAt style depth v ++
      (printEntries style depth entries ++ (style.lineBreak outer ++ '\x7d' :: rest))))) =
        .ok (((name, v) :: entries).map fun entry => (entry.1, entry.2.reread number), rest) := by
  have close : StopsBefore isNumberPart ('\x7d' :: rest) := stopsBefore_cons rfl
  induction entries generalizing name v fuel with
  | nil =>
      obtain ⟨fuel, rfl⟩ : ∃ f, fuel = f + 1 := ⟨fuel - 1, by omega⟩
      have read := each (name, v) (by simp) depth fuel _
        (stopsBefore_printEntries style depth [] (stopsBefore_lineBreak style outer close)) (by
          simp only [List.length_append] at enough ⊢
          omega)
      exact members_last (begins_printAt h depth v) read
        (skipGap_lineBreak_append style outer (stopsBefore_cons rfl))
  | cons second entries ih =>
      obtain ⟨secondName, w⟩ := second
      obtain ⟨fuel, rfl⟩ : ∃ f, fuel = f + 1 := ⟨fuel - 1, by omega⟩
      have read := each (name, v) (by simp) depth fuel _
        (stopsBefore_printEntries style depth ((secondName, w) :: entries)
          (stopsBefore_lineBreak style outer close)) (by
            simp only [List.length_append] at enough ⊢
            omega)
      rw [printEntries_cons_append] at enough read ⊢
      have others := ih secondName w fuel (fun entry mem => each entry (by simp [mem])) (by
        simp only [List.length_append, List.length_cons] at enough ⊢
        omega)
      refine members_more (begins_printAt h depth v) read (skipGap_cons rfl) ?_
      have quote : StopsBefore isGap (quotedText secondName ++ (style.colon ++
          (printAt style depth w ++ (printEntries style depth entries ++
            (style.lineBreak outer ++ '\x7d' :: rest))))) := by
        rw [quotedText_append]
        exact stopsBefore_cons rfl
      rw [skipGap_lineBreak_append style depth quote]
      exact others

end Stencil.Json
