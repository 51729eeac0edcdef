/-
# Documents that every reader accepts

The reader of this library also takes words for the numbers that are not finite. A strict
reader does not: to it a document is a word for null or a boolean, a number, a quoted text,
or a list or an object of such documents, with gaps around the marks of the structure.
Whatever the style, a printed value is a document in this sense as long as the style writes
the numbers in it as numbers.
-/

import Stencil.Proofs.Json.Reread
import Stencil.Proofs.Value.Induction
import Stencil.Proofs.Value.Numbers

namespace Stencil.Json

/-- Characters that may stand between tokens. -/
def IsGapText (cs : List Char) : Prop := ∀ c ∈ cs, isGap c = true

/-- A mark of the structure with the gaps around it. -/
def IsMark (mark : Char) (cs : List Char) : Prop :=
  ∃ before after, IsGapText before ∧ IsGapText after ∧ cs = before ++ mark :: after

/-- Digits, at least one. -/
def IsDigits (run : List Char) : Prop := run ≠ [] ∧ ∀ c ∈ run, c.isDigit = true

/-- What follows the whole part of a number: nothing, or a point and digits. -/
inductive IsFraction : List Char → Prop
  | none : IsFraction []
  | point {run : List Char} : IsDigits run → IsFraction ('.' :: run)

/-- What follows the fraction of a number: nothing, or a letter, a sign or none, and digits. -/
inductive IsExponent : List Char → Prop
  | none : IsExponent []
  | letter {mark : Char} {sign run : List Char} : mark ∈ ['e', 'E'] → sign ∈ [[], ['+'], ['-']] →
      IsDigits run → IsExponent (mark :: (sign ++ run))

/-- A number. -/
def IsNumber (cs : List Char) : Prop :=
  ∃ negative whole fraction exponent, IsWhole whole ∧ IsFraction fraction ∧
    IsExponent exponent ∧ cs = signText negative ++ (whole ++ (fraction ++ exponent))

/-- What stands for one character between quotation marks: itself, or an escape. -/
inductive IsSpelling : List Char → Prop
  | plain {c : Char} : 0x20 ≤ c.toNat → c ≠ '"' → c ≠ '\\' → IsSpelling [c]
  | short {c : Char} : c ∈ ['"', '\\', '/', 'b', 'f', 'n', 'r', 't'] → IsSpelling ['\\', c]
  | code {digits : List Char} : digits.length = 4 → (∀ c ∈ digits, (hexValue? c).isSome = true) →
      IsSpelling ('\\' :: 'u' :: digits)

/-- A text between quotation marks. -/
def IsQuoted (cs : List Char) : Prop :=
  ∃ spellings : List (List Char), (∀ s ∈ spellings, IsSpelling s) ∧
    cs = '"' :: (spellings.flatten ++ ['"'])

/-- What stands in front of the value of a member: its name and a colon. -/
def IsName (cs : List Char) : Prop :=
  ∃ quoted colon, IsQuoted quoted ∧ IsMark ':' colon ∧ cs = quoted ++ colon

/-- A document in the strict sense. Each further element of a list comes with the comma in
front of it, and so does each further member of an object. -/
inductive IsStrict : List Char → Prop
  | null : IsStrict "null".toList
  | yes : IsStrict "true".toList
  | no : IsStrict "false".toList
  | number {cs : List Char} : IsNumber cs → IsStrict cs
  | text {cs : List Char} : IsQuoted cs → IsStrict cs
  | emptyList {opening closing : List Char} : IsMark '[' opening → IsMark ']' closing →
      IsStrict (opening ++ closing)
  | list {opening first closing : List Char} {rest : List (List Char × List Char)} :
      IsMark '[' opening → IsStrict first → (∀ p ∈ rest, IsMark ',' p.1) →
      (∀ p ∈ rest, IsStrict p.2) → IsMark ']' closing →
      IsStrict (opening ++ (first ++ (rest.flatMap (fun p => p.1 ++ p.2) ++ closing)))
  | emptyObject {opening closing : List Char} : IsMark '\x7b' opening → IsMark '\x7d' closing →
      IsStrict (opening ++ closing)
  | object {opening name first closing : List Char} {rest : List (List Char × List Char)} :
      IsMark '\x7b' opening → IsName name → IsStrict first →
      (∀ p ∈ rest, ∃ comma name, IsMark ',' comma ∧ IsName name ∧ p.1 = comma ++ name) →
      (∀ p ∈ rest, IsStrict p.2) → IsMark '\x7d' closing →
      IsStrict (opening ++ (name ++ (first ++ (rest.flatMap (fun p => p.1 ++ p.2) ++ closing))))

/-- A text that holds a document in the strict sense, with gaps around it. -/
def IsStrictText (cs : List Char) : Prop :=
  ∃ before document after, IsGapText before ∧ IsStrict document ∧ IsGapText after ∧
    cs = before ++ (document ++ after)

section Tokens

/-- The digits of an integer are a number. -/
theorem isNumber_integerText (i : Int) : IsNumber (integerText i) :=
  ⟨decide (i < 0), _, [], [], isWhole_toDigits i.natAbs, .none, .none, by simp [integerText_eq]⟩

theorem Written.isFraction {w : Written} (h : w.IsBinary) : IsFraction w.fractionText := by
  by_cases nothing : w.fraction = []
  · rw [fractionText, if_pos nothing]
    exact .none
  · rw [fractionText, if_neg nothing]
    exact .point ⟨nothing, h.fraction⟩

theorem Written.isExponent {w : Written} (h : w.IsBinary) : IsExponent w.exponentText := by
  cases given : w.exponent with
  | none =>
      rw [exponentText, given]
      exact .none
  | some exponent =>
      obtain ⟨negative, run⟩ := exponent
      rw [exponentText, given]
      have digits : IsDigits run := h.exponent negative run given
      have mark : 'e' ∈ ['e', 'E'] := List.mem_cons_self
      have sign : [if negative then '-' else '+'] ∈ [[], ['+'], ['-']] := by
        cases negative <;> decide
      exact .letter mark sign digits

/-- What a layout writes for a finite number is a number, if it keeps the points of whole
numbers. -/
theorem isNumber_shortestText {layout : Layout} (keeps : layout.keepsPoint = true) {x : Binary64}
    (finite : x.isFinite = true) : IsNumber (layout.shortestText x) := by
  obtain ⟨negative, w, binary, -, text⟩ := exists_written keeps finite
  exact ⟨negative, w.whole, _, _, binary.whole, w.isFraction binary, w.isExponent binary, text⟩

theorem isSpelling_escaped (c : Char) : IsSpelling (escaped c) := by
  rw [escaped]
  split
  · exact .short (by decide)
  split
  · exact .short (by decide)
  split
  · exact .short (by decide)
  split
  · exact .short (by decide)
  split
  · exact .short (by decide)
  split
  · exact .short (by decide)
  split
  · exact .short (by decide)
  split
  · rename_i control
    have length : ∀ n, n < 0x20 → (Text.hexPadded 4 n).length = 4 := by decide
    have digits : ∀ n, n < 0x20 →
        (Text.hexPadded 4 n).all (fun d => (hexValue? d).isSome) = true := by decide
    exact .code (length _ control) (List.all_eq_true.mp (digits _ control))
  · rename_i quote backslash _ _ _ _ _ control
    exact .plain (by omega) quote backslash

/-- What is printed for a text is a quoted text. -/
theorem isQuoted_quotedText (s : String) : IsQuoted (quotedText s) := by
  refine ⟨s.toList.map escaped, ?_, ?_⟩
  · intro spelling mem
    obtain ⟨c, -, rfl⟩ := List.mem_map.mp mem
    exact isSpelling_escaped c
  · rw [quotedText, List.flatMap_def]

end Tokens

section Printed

variable {style : Style}

theorem isGapText_lineBreak (style : Style) (depth : Nat) : IsGapText (style.lineBreak depth) :=
  fun _ => isGap_of_mem_lineBreak

theorem isGapText_nil : IsGapText [] := List.forall_mem_nil _

/-- A mark with a line break behind it. -/
theorem isMark_cons_lineBreak (mark : Char) (style : Style) (depth : Nat) :
    IsMark mark (mark :: style.lineBreak depth) :=
  ⟨[], _, isGapText_nil, isGapText_lineBreak style depth, rfl⟩

/-- A mark with a line break in front of it. -/
theorem isMark_lineBreak_append (mark : Char) (style : Style) (depth : Nat) :
    IsMark mark (style.lineBreak depth ++ [mark]) :=
  ⟨_, [], isGapText_lineBreak style depth, isGapText_nil, rfl⟩

theorem isMark_singleton (mark : Char) : IsMark mark [mark] :=
  ⟨[], [], isGapText_nil, isGapText_nil, rfl⟩

theorem isName_quotedText_append (style : Style) (name : String) :
    IsName (quotedText name ++ style.colon) := by
  obtain ⟨gap, colon, gaps⟩ := exists_colon style
  exact ⟨_, _, isQuoted_quotedText name, ⟨[], gap, isGapText_nil, gaps, colon⟩, rfl⟩

theorem printItems_eq_flatMap (style : Style) (depth : Nat) (items : List Value) :
    printItems style depth items =
      (items.map fun v => (',' :: style.lineBreak depth, printAt style depth v)).flatMap
        fun p => p.1 ++ p.2 := by
  induction items with
  | nil => rfl
  | cons v rest ih => simp [printItems, ih]

theorem printEntries_eq_flatMap (style : Style) (depth : Nat) (entries : List (String × Value)) :
    printEntries style depth entries =
      (entries.map fun entry => (',' :: style.lineBreak depth ++ (quotedText entry.1 ++ style.colon),
        printAt style depth entry.2)).flatMap fun p => p.1 ++ p.2 := by
  induction entries with
  | nil => rfl
  | cons entry rest ih => simp [printEntries, ih]

theorem isStrict_printAt_list {items : List Value} {depth : Nat}
    (each : ∀ v ∈ items, IsStrict (printAt style (depth + 1) v)) :
    IsStrict (printAt style depth (.list items)) := by
  cases items with
  | nil => exact .emptyList (isMark_singleton '[') (isMark_singleton ']')
  | cons first rest =>
      obtain ⟨head, tail⟩ := List.forall_mem_cons.mp each
      let element (v : Value) : List Char × List Char :=
        (',' :: style.lineBreak (depth + 1), printAt style (depth + 1) v)
      have marks : ∀ p ∈ rest.map element, IsMark ',' p.1 :=
        List.forall_mem_map.mpr fun v _ => isMark_cons_lineBreak ',' style (depth + 1)
      have strict := IsStrict.list (isMark_cons_lineBreak '[' style (depth + 1)) head marks
        (List.forall_mem_map.mpr tail) (isMark_lineBreak_append ']' style depth)
      rw [← printItems_eq_flatMap] at strict
      simpa [printAt] using strict

theorem isStrict_printAt_object {entries : List (String × Value)} {depth : Nat}
    (each : ∀ entry ∈ entries, IsStrict (printAt style (depth + 1) entry.2)) :
    IsStrict (printAt style depth (.object entries)) := by
  cases entries with
  | nil => exact .emptyObject (isMark_singleton '\x7b') (isMark_singleton '\x7d')
  | cons first rest =>
      obtain ⟨head, tail⟩ := List.forall_mem_cons.mp each
      let member (entry : String × Value) : List Char × List Char :=
        (',' :: style.lineBreak (depth + 1) ++ (quotedText entry.1 ++ style.colon),
          printAt style (depth + 1) entry.2)
      have names : ∀ p ∈ rest.map member,
          ∃ comma name, IsMark ',' comma ∧ IsName name ∧ p.1 = comma ++ name :=
        List.forall_mem_map.mpr fun entry _ => ⟨_, _, isMark_cons_lineBreak ',' style (depth + 1),
          isName_quotedText_append style entry.1, rfl⟩
      have strict := IsStrict.object (isMark_cons_lineBreak '\x7b' style (depth + 1))
        (isName_quotedText_append style first.1) head names (List.forall_mem_map.mpr tail)
        (isMark_lineBreak_append '\x7d' style depth)
      rw [← printEntries_eq_flatMap] at strict
      simpa [printAt] using strict

/-- The style writes the finite numbers as numbers. -/
def Style.WritesNumbers (style : Style) : Prop :=
  ∀ x : Binary64, x.isFinite = true → IsNumber (style.number x)

/-- A value is printed as a strict document if its numbers are finite. -/
theorem isStrict_printAt (writes : style.WritesNumbers) {v : Value} (finite : v.IsFinite)
    (depth : Nat) : IsStrict (printAt style depth v) := by
  induction v using Value.induction generalizing depth with
  | null => exact .null
  | bool b =>
      cases b with
      | true => exact .yes
      | false => exact .no
  | int i => exact .number (isNumber_integerText i)
  | float x => exact .number (writes x (finite x (List.mem_singleton_self x)))
  | text s => exact .text (isQuoted_quotedText s)
  | list items ih =>
      rw [Value.isFinite_list] at finite
      exact isStrict_printAt_list fun v mem => ih v mem (finite v mem) (depth + 1)
  | object entries ih =>
      rw [Value.isFinite_object] at finite
      exact isStrict_printAt_object fun entry mem => ih entry mem (finite entry mem) (depth + 1)

end Printed

end Stencil.Json
