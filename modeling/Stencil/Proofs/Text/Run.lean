/-
# Runs of characters

A run of characters of one class ends in front of a text that is empty or begins
with a character outside the class. Splitting off the longest run of a class then
gives back exactly the run that was put there, which is what every reader in this
library relies on when it reads what a writer has written.
-/

import Stencil.Value.Basic

namespace Stencil.Text

variable {p : Char → Bool} {run rest : List Char}

/-- Whether a run of a class cannot go on into a text. -/
def StopsBefore (p : Char → Bool) (rest : List Char) : Prop :=
  ∀ c ∈ rest.head?, p c = false

theorem stopsBefore_nil : StopsBefore p [] := by
  simp [StopsBefore]

theorem stopsBefore_cons {c : Char} (h : p c = false) : StopsBefore p (c :: rest) := by
  simpa [StopsBefore] using h

/-- The longest run of a class in front of a text is the one that stops there. -/
theorem takeWhile_append_of_stopsBefore (inClass : ∀ c ∈ run, p c = true)
    (stops : StopsBefore p rest) : (run ++ rest).takeWhile p = run := by
  rw [List.takeWhile_append_of_pos inClass]
  cases rest with
  | nil => simp
  | cons c rest =>
      have outside : p c = false := stops c rfl
      simp [outside]

/-- What follows the longest run of a class is the text in front of which it stops. -/
theorem dropWhile_append_of_stopsBefore (inClass : ∀ c ∈ run, p c = true)
    (stops : StopsBefore p rest) : (run ++ rest).dropWhile p = rest := by
  rw [List.dropWhile_append_of_pos inClass]
  cases rest with
  | nil => rfl
  | cons c rest =>
      have outside : p c = false := stops c rfl
      simp [outside]

/-- Every character of the longest run is of the class. -/
theorem of_mem_takeWhile {cs : List Char} {c : Char} (h : c ∈ cs.takeWhile p) : p c = true :=
  List.all_eq_true.mp List.all_takeWhile c h

end Stencil.Text
