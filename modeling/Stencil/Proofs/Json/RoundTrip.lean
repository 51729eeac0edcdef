/-
# Printed values are read back

The first character of a printed value sends the reader the same way that the printer
took, so a value is read back if its parts are, and by induction on the value all of
them are. Reading a whole printed text gives back the value that was printed in it.
-/

import Stencil.Proofs.Json.Parts
import Stencil.Proofs.Record
import Stencil.Proofs.Value.Induction

namespace Stencil.Json

open Text (StopsBefore)

variable {style : Style} {number : Binary64 → Value}

section Dispatch

variable {fuel : Nat} {cs inside left : List Char}

/-- A text that begins like a number or a word is read as one. -/
theorem value_of_beginsScalar [Machine] (begins : Begins beginsScalar cs) :
    value (fuel + 1) cs = scalar cs := by
  obtain ⟨c, tail, rfl, head⟩ := begins
  unfold value
  split
  · rename_i same
    obtain ⟨rfl, -⟩ := List.cons.inj same
    exact absurd head (by decide)
  · rename_i same
    obtain ⟨rfl, -⟩ := List.cons.inj same
    exact absurd head (by decide)
  · rename_i same
    obtain ⟨rfl, -⟩ := List.cons.inj same
    exact absurd head (by decide)
  · rfl

/-- A bracket and elements are read as a list. -/
theorem value_of_elements [Machine] {items : List Value}
    (begins : Begins beginsValue (skipGap inside))
    (read : elements fuel (skipGap inside) = .ok (items, left)) :
    value (fuel + 1) ('[' :: inside) = .ok (.list items, left) := by
  obtain ⟨c, tail, first, head⟩ := begins
  rw [value]
  split
  · rename_i close
    obtain ⟨rfl, -⟩ := List.cons.inj (first.symm.trans close)
    exact absurd head (by decide)
  · rw [read]

/-- A brace and members are read as an object. -/
theorem value_of_members [Machine] {entries : List (String × Value)}
    (begins : Begins beginsValue (skipGap inside))
    (read : members fuel (skipGap inside) = .ok (entries, left)) :
    value (fuel + 1) ('\x7b' :: inside) =
      .ok (.object (Record.ofEntries entries).entries, left) := by
  obtain ⟨c, tail, first, head⟩ := begins
  rw [value]
  split
  · rename_i close
    obtain ⟨rfl, -⟩ := List.cons.inj (first.symm.trans close)
    exact absurd head (by decide)
  · rw [read]

end Dispatch

theorem readsBack_of_scalar [Machine] {v : Value}
    (begins : ∀ depth, Begins beginsScalar (printAt style depth v))
    (reads : ∀ depth rest, StopsBefore isNumberPart rest →
      scalar (printAt style depth v ++ rest) = .ok (v.reread number, rest)) :
    ReadsBack style number v := by
  intro depth fuel rest stops enough
  obtain ⟨fuel, rfl⟩ : ∃ f, fuel = f + 1 := by
    obtain ⟨c, tail, eq, -⟩ := begins depth
    rw [eq, List.cons_append, List.length_cons] at enough
    exact ⟨fuel - 1, by omega⟩
  rw [value_of_beginsScalar ((begins depth).append rest), reads depth rest stops]

theorem readsBack_text [Machine] (s : String) : ReadsBack style number (.text s) := by
  intro depth fuel rest stops enough
  rw [printAt, quotedText_append] at enough ⊢
  obtain ⟨fuel, rfl⟩ : ∃ f, fuel = f + 1 := ⟨fuel - 1, by simp at enough; omega⟩
  rw [value, textBody_append]
  simp only [String.ofList_toList, Value.reread]

theorem readsBack_list [Machine] (h : style.ReadsAs number) (items : List Value)
    (each : ∀ v ∈ items, ReadsBack style number v) : ReadsBack style number (.list items) := by
  intro depth fuel rest stops enough
  cases items with
  | nil =>
      obtain ⟨fuel, rfl⟩ : ∃ f, fuel = f + 1 := ⟨fuel - 1, by simp [printAt] at enough; omega⟩
      have close : skipGap (']' :: rest) = ']' :: rest := skipGap_cons rfl
      show value (fuel + 1) ('[' :: ']' :: rest) = _
      simp only [value, close, Value.reread, Value.rereadItems]
  | cons first items =>
      have printed : printAt style depth (.list (first :: items)) ++ rest =
          '[' :: (style.lineBreak (depth + 1) ++ (printAt style (depth + 1) first ++
            (printItems style (depth + 1) items ++ (style.lineBreak depth ++ ']' :: rest)))) := by
        simp [printAt]
      have begins := (begins_printAt h (depth + 1) first).append
        (printItems style (depth + 1) items ++ (style.lineBreak depth ++ ']' :: rest))
      have inside := skipGap_lineBreak_append style (depth + 1) begins.stopsBefore_isGap
      rw [printed] at enough ⊢
      obtain ⟨fuel, rfl⟩ : ∃ f, fuel = f + 1 := ⟨fuel - 1, by simp at enough; omega⟩
      have read := elements_printItems h (depth + 1) depth rest items first fuel each (by
        simp only [List.length_append, List.length_cons] at enough ⊢
        omega)
      rw [value_of_elements (inside.symm ▸ begins) (inside.symm ▸ read), Value.reread,
        Value.rereadItems_eq_map]

theorem readsBack_object [Machine] (h : style.ReadsAs number) (entries : List (String × Value))
    (each : ∀ entry ∈ entries, ReadsBack style number entry.2) :
    ReadsBack style number (.object entries) := by
  intro depth fuel rest stops enough
  cases entries with
  | nil =>
      obtain ⟨fuel, rfl⟩ : ∃ f, fuel = f + 1 := ⟨fuel - 1, by simp [printAt] at enough; omega⟩
      have close : skipGap ('\x7d' :: rest) = '\x7d' :: rest := skipGap_cons rfl
      show value (fuel + 1) ('\x7b' :: '\x7d' :: rest) = _
      simp only [value, close, Value.reread, Value.rereadEntries]
      rfl
  | cons first entries =>
      obtain ⟨name, v⟩ := first
      have printed : printAt style depth (.object ((name, v) :: entries)) ++ rest =
          '\x7b' :: (style.lineBreak (depth + 1) ++ (quotedText name ++ (style.colon ++
            (printAt style (depth + 1) v ++ (printEntries style (depth + 1) entries ++
              (style.lineBreak depth ++ '\x7d' :: rest)))))) := by
        simp [printAt]
      have begins : Begins beginsValue (quotedText name ++ (style.colon ++
          (printAt style (depth + 1) v ++ (printEntries style (depth + 1) entries ++
            (style.lineBreak depth ++ '\x7d' :: rest))))) := ⟨'"', _, rfl, by decide⟩
      have inside := skipGap_lineBreak_append style (depth + 1) begins.stopsBefore_isGap
      rw [printed] at enough ⊢
      obtain ⟨fuel, rfl⟩ : ∃ f, fuel = f + 1 := ⟨fuel - 1, by simp at enough; omega⟩
      have read := members_printEntries h (depth + 1) depth rest entries name v fuel each (by
        simp only [List.length_append, List.length_cons] at enough ⊢
        omega)
      rw [value_of_members (inside.symm ▸ begins) (inside.symm ▸ read), Value.reread,
        Value.rereadEntries_eq_map]

/-- A value whose integers are not too long is read back wherever it is printed. -/
theorem readsBack [Machine] (h : style.ReadsAs number) (v : Value)
    (showable : v.isShowable = true) :
    ReadsBack style number v := by
  induction v using Value.induction with
  | null => exact readsBack_of_scalar (fun _ => ⟨'n', _, rfl, by decide⟩) fun _ _ _ => rfl
  | bool b =>
      cases b with
      | true => exact readsBack_of_scalar (fun _ => ⟨'t', _, rfl, by decide⟩) fun _ _ _ => rfl
      | false => exact readsBack_of_scalar (fun _ => ⟨'f', _, rfl, by decide⟩) fun _ _ _ => rfl
  | int i =>
      rw [Value.isShowable] at showable
      refine readsBack_of_scalar (fun depth => ?_) fun depth rest stops => ?_
      · rw [printAt, integerText_eq]
        exact begins_signText_append (isWhole_toDigits i.natAbs) (decide (i < 0))
      · rw [printAt]
        exact scalar_integerText_append showable stops
  | float x =>
      refine readsBack_of_scalar (fun depth => ?_) fun depth rest stops => ?_
      · rw [printAt]
        exact h.begins x
      · rw [printAt]
        exact h.reads x rest stops
  | text s => exact readsBack_text s
  | list items ih =>
      rw [Value.isShowable, Value.areShowable_iff] at showable
      exact readsBack_list h items fun v mem => ih v mem (showable v mem)
  | object entries ih =>
      rw [Value.isShowable, Value.areEntriesShowable_iff] at showable
      exact readsBack_object h entries fun entry mem => ih entry mem (showable entry mem)

theorem stopsBefore_isNumberPart_of_isGap {gap : List Char} (gaps : ∀ c ∈ gap, isGap c = true) :
    StopsBefore isNumberPart gap := by
  intro c mem
  have isIn := gaps c (List.mem_of_mem_head? mem)
  simp only [isGap, Bool.or_eq_true, beq_iff_eq] at isIn
  rcases isIn with ((rfl | rfl) | rfl) | rfl <;> rfl

/-- The text of a value whose integers are not too long is read as that value, whatever gap
follows it. -/
theorem readText_printAt_append [Machine] (h : style.ReadsAs number) {v : Value}
    (showable : v.isShowable = true) {gap : List Char} (gaps : ∀ c ∈ gap, isGap c = true) :
    readText (String.ofList (printAt style 0 v ++ gap)) = .ok (v.reread number) := by
  have begins := (begins_printAt h 0 v).append gap
  have noMark : (printAt style 0 v ++ gap).head? ≠ some '\uFEFF' := by
    obtain ⟨c, tail, eq, head⟩ := begins
    rintro mark
    obtain rfl : c = '\uFEFF' := by simpa [eq] using mark
    exact absurd head (by decide)
  have read := readsBack h v showable 0 (2 * (printAt style 0 v ++ gap).length + 1) gap
    (stopsBefore_isNumberPart_of_isGap gaps) (by omega)
  have start : skipGap (printAt style 0 v ++ gap) = printAt style 0 v ++ gap := by
    obtain ⟨c, tail, eq, head⟩ := begins
    rw [eq]
    exact skipGap_cons (isGap_eq_false_of_beginsValue head)
  have rest : skipGap gap = [] := by
    simpa using skipGap_append gaps Text.stopsBefore_nil
  have whole : document (printAt style 0 v ++ gap) = .ok (v.reread number) := by
    rw [document, start, read]
    simp only [rest]
  rw [readText, String.toList_ofList, if_neg noMark, readChars, whole]
  rfl

/-- The text of a value whose integers are not too long is read as that value. -/
theorem readText_print [Machine] (h : style.ReadsAs number) {v : Value}
    (showable : v.isShowable = true) :
    readText (print style v) = .ok (v.reread number) := by
  have read := readText_printAt_append h showable (List.forall_mem_nil _)
  rwa [List.append_nil] at read

/-- A style that writes finite numbers with a point reads as given if it does so where numbers
are not finite. -/
theorem readsAs_of_keepsPoint {layout : Layout} (keeps : layout.keepsPoint = true)
    (indent : Option Nat) (finite : ∀ x : Binary64, x.isFinite = true → number x = .float x)
    (others : ∀ x : Binary64, x.isFinite ≠ true → Begins beginsScalar (layout.shortestText x) ∧
      ∀ rest, scalar (layout.shortestText x ++ rest) = .ok (number x, rest)) :
    Style.ReadsAs ⟨indent, layout.shortestText⟩ number where
  begins := by
    intro x
    show Begins beginsScalar (layout.shortestText x)
    by_cases isFinite : x.isFinite = true
    · obtain ⟨negative, w, binary, -, text⟩ := exists_written keeps isFinite
      rw [text, Written.text, ← List.append_assoc]
      exact (begins_signText_append binary.whole negative).append _
    · exact (others x isFinite).1
  reads := by
    intro x rest stops
    show scalar (layout.shortestText x ++ rest) = _
    by_cases isFinite : x.isFinite = true
    · rw [finite x isFinite]
      exact scalar_shortestText_append keeps isFinite stops
    · exact (others x isFinite).2 rest

/-- A stored number is read as itself if it is finite and as null otherwise. -/
def storedValue (x : Binary64) : Value := if x.isFinite then .float x else .null

/-- A number that is not finite is stored as null. -/
theorem shortestText_stored {x : Binary64} (notFinite : x.isFinite ≠ true) :
    Layout.stored.shortestText x = "null".toList := by
  cases x with
  | nan => rfl
  | infinite negative => cases negative <;> rfl
  | finite negative rank => exact absurd rfl notFinite

/-- What the numbers of stored templates are read as. -/
theorem storedStyle_readsAs (indent : Option Nat) : (storedStyle indent).ReadsAs storedValue := by
  refine readsAs_of_keepsPoint (rfl : Layout.stored.keepsPoint = true) indent ?_ ?_
  · intro x finite
    exact if_pos finite
  · intro x notFinite
    rw [storedValue, if_neg notFinite, shortestText_stored notFinite]
    exact ⟨⟨'n', _, rfl, by decide⟩, fun _ => rfl⟩

/-- The numbers of printed documents are read as themselves, those that are not finite by their
names. -/
theorem documentStyle_readsAs : documentStyle.ReadsAs .float := by
  refine readsAs_of_keepsPoint (rfl : Layout.printed.keepsPoint = true) (some 2) (fun _ _ => rfl) ?_
  intro x notFinite
  cases x with
  | nan => exact ⟨⟨'N', _, rfl, by decide⟩, fun _ => rfl⟩
  | infinite negative =>
      cases negative with
      | false => exact ⟨⟨'I', _, rfl, by decide⟩, fun _ => rfl⟩
      | true => exact ⟨⟨'-', _, rfl, by decide⟩, fun _ => rfl⟩
  | finite negative rank => exact absurd rfl notFinite

end Stencil.Json
