/-
# Display texts

The display text of a value is what a document shows for it. Nothing is shown for
null, a whole number loses its fraction, and the items of a list are joined by
commas. An object is shown in its quoted form. An integer of more than 4300 digits
has no text, and neither has a value that shows one, or one that is nested too deep
for the place where its text is asked for.
-/

import Stencil.Failure
import Stencil.Json.Printer
import Stencil.Machine

namespace Stencil.Value

/-- Whether an integer has at most 4300 digits. -/
def isShowableInt (i : Int) : Bool := i.natAbs < Nat.pow 10 4300

mutual

/-- Whether every integer that would be shown has a text. -/
def isShowable : Value → Bool
  | .int i => isShowableInt i
  | .list items => areShowable items
  | .object entries => areEntriesShowable entries
  | _ => true

/-- Whether all items can be shown. -/
def areShowable : List Value → Bool
  | [] => true
  | v :: rest => isShowable v && areShowable rest

/-- Whether the values of all entries can be shown. -/
def areEntriesShowable : List (String × Value) → Bool
  | [] => true
  | (_, v) :: rest => isShowable v && areEntriesShowable rest

end

/-- The text of an integer. -/
def intText (i : Int) : String := String.ofList (Json.integerText i)

mutual

/-- The quoted form of a value, which tells texts from other values. -/
def quotedForm : Value → String
  | .null => "None"
  | .bool b => if b then "True" else "False"
  | .int i => intText i
  | .float x => String.ofList (Layout.plain.shortestText x)
  | .text s => Text.quoted s
  | .list items => "[" ++ ", ".intercalate (quotedForms items) ++ "]"
  | .object entries => "\x7b" ++ ", ".intercalate (quotedEntries entries) ++ "\x7d"

/-- The quoted forms of items. -/
def quotedForms : List Value → List String
  | [] => []
  | v :: rest => quotedForm v :: quotedForms rest

/-- The quoted forms of entries. -/
def quotedEntries : List (String × Value) → List String
  | [] => []
  | (key, v) :: rest => (Text.quoted key ++ ": " ++ quotedForm v) :: quotedEntries rest

end

/-- The display text of a number: a whole number as an integer, any other one with
the fewest digits that read back. -/
def floatText (x : Binary64) : String :=
  match x.toInt? with
  | some i => intText i
  | none => String.ofList (Layout.plain.shortestText x)

mutual

/-- The display text of a value, whatever the size of its integers. -/
def displayText : Value → String
  | .null => ""
  | .bool b => if b then "true" else "false"
  | .int i => intText i
  | .float x => floatText x
  | .text s => s
  | .list items => ",".intercalate (displayTexts items)
  | .object entries => quotedForm (.object entries)

/-- The display texts of items. -/
def displayTexts : List Value → List String
  | [] => []
  | v :: rest => displayText v :: displayTexts rest

end

/-- Whether a value has a text where it is asked for. -/
def hasText [Machine] (v : Value) (occasion : Occasion) : Bool :=
  Machine.allows (.showing occasion v) && v.isShowable

/-- The display text of a value, unless it is nested too deep or one of its integers is
too long to show. -/
def display [Machine] (v : Value) (occasion : Occasion := .token) : Except Failure String :=
  if !Machine.allows (.showing occasion v) then .error .nestedTooDeep
  else if v.isShowable then .ok v.displayText
  else .error .tooManyDigits

theorem display_of_hasText [Machine] {v : Value} {occasion : Occasion}
    (has : v.hasText occasion = true) : v.display occasion = .ok v.displayText := by
  obtain ⟨allowed, showable⟩ := (Bool.and_eq_true _ _).mp has
  rw [display, allowed, showable]
  rfl

theorem eq_of_display [Machine] {v : Value} {occasion : Occasion} {text : String}
    (shown : v.display occasion = .ok text) : text = v.displayText := by
  unfold display at shown
  split at shown
  · cases shown
  · split at shown
    · exact (Except.ok.inj shown).symm
    · cases shown

/-- A value whose integers can be shown has a text where the machine has room for it. -/
theorem hasText_of_isShowable [Machine] {v : Value} {occasion : Occasion}
    (showable : v.isShowable = true) :
    v.hasText occasion = Machine.allows (.showing occasion v) := by
  rw [hasText, showable, Bool.and_true]

/-- The standard machine shows every value whose integers can be shown. -/
@[simp]
theorem hasText_standard (v : Value) (occasion : Occasion) :
    v.hasText occasion = v.isShowable := rfl

theorem display_of_isShowable {v : Value} {occasion : Occasion} (showable : v.isShowable = true) :
    v.display occasion = .ok v.displayText := by
  have has : v.hasText occasion = true := showable
  exact display_of_hasText has

/-- The text that a message shows for a value: texts as they are and all else in
quoted form. -/
def messageText (v : Value) : Except Failure String :=
  if v.isShowable then
    .ok (match v with
      | .text s => s
      | v => v.quotedForm)
  else .error .tooManyDigits

end Stencil.Value
