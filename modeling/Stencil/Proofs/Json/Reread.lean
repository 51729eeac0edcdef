/-
# What printed values are read as

A printed value is read as the value that was printed, up to two changes: the style may
write a binary number as something else, and of a name that stands twice in an object
the last value counts. What is printed begins with a character that is no gap and that
tells the kind of the value.
-/

import Stencil.Proofs.Json.Layout

namespace Stencil

mutual

/-- The value that is read where a value was printed, given what a binary number is
read as. -/
def Value.reread (number : Binary64 → Value) : Value → Value
  | .float x => number x
  | .list items => .list (rereadItems number items)
  | .object entries => .object (Record.ofEntries (rereadEntries number entries)).entries
  | v => v

/-- The items that are read where items were printed. -/
def Value.rereadItems (number : Binary64 → Value) : List Value → List Value
  | [] => []
  | v :: rest => v.reread number :: rereadItems number rest

/-- The entries that are read where entries were printed. -/
def Value.rereadEntries (number : Binary64 → Value) :
    List (String × Value) → List (String × Value)
  | [] => []
  | (name, v) :: rest => (name, v.reread number) :: rereadEntries number rest

end

namespace Value

variable (number : Binary64 → Value)

theorem rereadItems_eq_map (items : List Value) :
    rereadItems number items = items.map (reread number) := by
  induction items with
  | nil => rfl
  | cons v rest ih => rw [rereadItems, ih, List.map_cons]

theorem rereadEntries_eq_map (entries : List (String × Value)) :
    rereadEntries number entries =
      entries.map fun entry => (entry.1, entry.2.reread number) := by
  induction entries with
  | nil => rfl
  | cons entry rest ih => rw [rereadEntries, ih, List.map_cons]

end Value

namespace Json

open Text (StopsBefore stopsBefore_cons dropWhile_append_of_stopsBefore)

/-- The characters with which numbers and words begin. -/
def beginsScalar (c : Char) : Bool := c.isDigit || ['-', 'n', 't', 'f', 'N', 'I'].contains c

/-- The characters with which values begin. -/
def beginsValue (c : Char) : Bool := beginsScalar c || ['"', '[', '\x7b'].contains c

/-- A text whose first character is of a class. -/
def Begins (p : Char → Bool) (cs : List Char) : Prop := ∃ c tail, cs = c :: tail ∧ p c = true

/-- What a style writes for a binary number is read as a given value. -/
structure Style.ReadsAs (style : Style) (number : Binary64 → Value) : Prop where
  begins : ∀ x, Begins beginsScalar (style.number x)
  reads : ∀ x rest, StopsBefore isNumberPart rest →
    scalar (style.number x ++ rest) = .ok (number x, rest)

section Heads

variable {c : Char} {cs : List Char} {p : Char → Bool}

theorem Begins.append (h : Begins p cs) (rest : List Char) : Begins p (cs ++ rest) := by
  obtain ⟨c, tail, rfl, head⟩ := h
  exact ⟨c, tail ++ rest, rfl, head⟩

theorem isGap_eq_false_of_beginsValue (h : beginsValue c = true) : isGap c = false := by
  cases gap : isGap c with
  | false => rfl
  | true =>
      simp only [isGap, Bool.or_eq_true, beq_iff_eq] at gap
      rcases gap with ((rfl | rfl) | rfl) | rfl <;> exact absurd h (by decide)

theorem Begins.stopsBefore_isGap (h : Begins beginsValue cs) : StopsBefore isGap cs := by
  obtain ⟨c, tail, rfl, head⟩ := h
  exact stopsBefore_cons (isGap_eq_false_of_beginsValue head)

theorem skipGap_append {gap : List Char} (gaps : ∀ c ∈ gap, isGap c = true)
    (stops : StopsBefore isGap cs) : skipGap (gap ++ cs) = cs :=
  dropWhile_append_of_stopsBefore gaps stops

theorem skipGap_cons (outside : isGap c = false) : skipGap (c :: cs) = c :: cs :=
  dropWhile_append_of_stopsBefore (List.forall_mem_nil _) (stopsBefore_cons outside)

theorem isGap_of_mem_lineBreak {style : Style} {depth : Nat} (mem : c ∈ style.lineBreak depth) :
    isGap c = true := by
  cases indent : style.indent with
  | none => simp [Style.lineBreak, indent] at mem
  | some width =>
      simp only [Style.lineBreak, indent, List.mem_cons, List.mem_replicate] at mem
      rcases mem with rfl | ⟨-, rfl⟩ <;> rfl

theorem exists_colon (style : Style) :
    ∃ gap, style.colon = ':' :: gap ∧ ∀ c ∈ gap, isGap c = true := by
  cases indent : style.indent with
  | none => exact ⟨[], by simp [Style.colon, indent], by simp⟩
  | some width => exact ⟨[' '], by simp [Style.colon, indent], by simp [isGap]⟩

theorem begins_signText_append {run : List Char} (whole : IsWhole run) (negative : Bool) :
    Begins beginsScalar (signText negative ++ run) := by
  obtain ⟨c, more, rfl⟩ := List.exists_cons_of_ne_nil whole.nonempty
  have digit := whole.digits c (by simp)
  cases negative with
  | false => exact ⟨c, more, rfl, by simp [beginsScalar, digit]⟩
  | true => exact ⟨'-', c :: more, rfl, by decide⟩

end Heads

variable {style : Style} {number : Binary64 → Value}

theorem Begins.beginsValue_of_beginsScalar {cs : List Char} (h : Begins beginsScalar cs) :
    Begins beginsValue cs := by
  obtain ⟨c, tail, rfl, head⟩ := h
  exact ⟨c, tail, rfl, by simp [beginsValue, head]⟩

/-- A printed value begins like a value. -/
theorem begins_printAt (h : style.ReadsAs number) (depth : Nat) (v : Value) :
    Begins beginsValue (printAt style depth v) := by
  cases v with
  | null => exact ⟨'n', _, rfl, by decide⟩
  | bool b => cases b <;> exact ⟨_, _, rfl, by decide⟩
  | int i =>
      rw [printAt, integerText_eq]
      exact (begins_signText_append (isWhole_toDigits i.natAbs)
        (decide (i < 0))).beginsValue_of_beginsScalar
  | float x =>
      rw [printAt]
      exact (h.begins x).beginsValue_of_beginsScalar
  | text s => exact ⟨'"', _, rfl, by decide⟩
  | list items => cases items <;> exact ⟨'[', _, rfl, by decide⟩
  | object entries =>
      cases entries with
      | nil => exact ⟨_, _, rfl, by decide⟩
      | cons entry rest => exact ⟨'\x7b', _, rfl, by decide⟩

end Json

end Stencil
