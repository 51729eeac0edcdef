/-
# Parts of a text

A text is split at every separator. There is one more part than there are separators,
and parts may be empty.
-/

namespace Stencil.Text

/-- The parts of a text between separators. -/
def parts (separator : Char) : List Char → List (List Char)
  | [] => [[]]
  | c :: rest =>
    if c = separator then [] :: parts separator rest
    else
      match parts separator rest with
      | [] => [[c]]
      | first :: others => (c :: first) :: others

/-- What is left of a text behind another one that it starts with. -/
def behind? : List Char → List Char → Option (List Char)
  | [], cs => some cs
  | s :: start, c :: cs => if s = c then behind? start cs else none
  | _ :: _, [] => none

end Stencil.Text
