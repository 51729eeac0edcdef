/-
# Places in a text

Matching moves through a text from place to place. A place knows the marks set so far,
two for each group, and the cursor: where the part of the search that is under way
began, or where the last one ended. A failed attempt leaves its cursor and its marks
behind.
-/

import Stencil.Pattern.Character

namespace Stencil.Pattern

/-- A mark in a text: how many characters are in front of it, and those behind it. -/
structure Mark where
  offset : Nat
  after : List Nat
  deriving DecidableEq, Repr

/-- A place in a text: the characters before it in reverse, those after it, and how many
there are of each. -/
structure Place where
  before : List Nat
  after : List Nat
  offset : Nat
  left : Nat
  offset_eq : offset = before.length
  left_eq : left = after.length
  cursor : Nat
  marks : List (Option Mark)

/-- What a failed attempt leaves: where its search ended and the marks it has set. -/
structure Trail where
  cursor : Nat
  marks : List (Option Mark)
  deriving DecidableEq, Repr

/-- How an attempt ends. -/
inductive Attempt
  | matched (p : Place)
  | failed (trail : Trail)

namespace Place

/-- The place in front of a text. -/
def start (text : List Nat) : Place := ⟨[], text, 0, text.length, rfl, rfl, 0, []⟩

/-- The place one character earlier. -/
def back : Place → Place
  | ⟨c :: before, after, offset, left, offset_eq, left_eq, cursor, marks⟩ =>
    ⟨before, c :: after, offset - 1, left + 1, by simp [offset_eq], by simp [left_eq], cursor,
      marks⟩
  | p => p

/-- The place `count` characters earlier. -/
def backBy : Nat → Place → Place
  | 0, p => p
  | count + 1, p => backBy count p.back

/-- Passes over one character of a kind. -/
def step? (isMember : Nat → Bool) : Place → Option Place
  | ⟨_, [], _, _, _, _, _, _⟩ => none
  | ⟨before, c :: after, offset, left, offset_eq, left_eq, cursor, marks⟩ =>
    if isMember c then
      some ⟨c :: before, after, offset + 1, left - 1, by simp [offset_eq], by simp [left_eq],
        cursor, marks⟩
    else none

/-- Passes over at most `count` characters of a kind. -/
def advance (isMember : Nat → Bool) : Nat → Place → Place
  | 0, p => p
  | count + 1, p =>
    match p.step? isMember with
    | some next => advance isMember count next
    | none => p

/-- Passes over given characters, compared by `same`. -/
def skip? (same : Nat → Nat → Bool) : List Nat → Place → Option Place
  | [], p => some p
  | c :: rest, p => (p.step? (same c)).bind (skip? same rest)

/-- The place at an offset of the same text. -/
def moveTo (p : Place) (offset : Nat) : Place :=
  if offset ≤ p.offset then p.backBy (p.offset - offset)
  else p.advance (fun _ => true) (offset - p.offset)

/-- The place with the cursor on it. -/
def focused (p : Place) : Place := { p with cursor := p.offset }

/-- The place with a mark on it. Marks that are left out in front of it are empty. -/
def mark (p : Place) (index : Nat) : Place :=
  let here : Option Mark := some ⟨p.offset, p.after⟩
  { p with
    marks :=
      if index < p.marks.length then p.marks.set index here
      else p.marks ++ List.replicate (index - p.marks.length) none ++ [here] }

/-- The mark where a group begins, and the one where it ends. -/
def span? (p : Place) (group : Nat) : Option (Mark × Mark) :=
  match p.marks[2 * group - 2]?, p.marks[2 * group - 1]? with
  | some (some first), some (some last) => some (first, last)
  | _, _ => none

/-- The marks of a group that was left and has matched something. -/
def captureSpan? (p : Place) (group : Nat) : Option (Mark × Mark) :=
  (p.span? group).filter fun (first, last) => first.offset ≤ last.offset

/-- What a group that was left has matched. -/
def captured? (p : Place) (group : Nat) : Option (List Nat) :=
  (p.captureSpan? group).map fun (first, last) => first.after.take (last.offset - first.offset)

/-- Whether some group ends in front of where it begins. -/
def hasReversedSpan (p : Place) : Bool :=
  (List.range (p.marks.length / 2)).any fun index =>
    (p.span? (index + 1)).any fun (first, last) => last.offset < first.offset

/-- An attempt that fails at the place. -/
def fail (p : Place) : Attempt := .failed ⟨p.cursor, p.marks⟩

/-- The place again after a failed attempt. Inside a repetition the marks are as they were;
elsewhere those that the attempt added are dropped. -/
def resume (p : Place) (isRepeated : Bool) (trail : Trail) : Place :=
  { p with
    cursor := trail.cursor
    marks := if isRepeated then p.marks else trail.marks.take p.marks.length }

/-- Whether an anchor holds at the place. -/
def satisfies (p : Place) (flags : Flags) (anchor : Anchor) : Bool :=
  let isWord : Option Nat → Bool := fun c? => c?.any (Category.word.has (!flags.unicode))
  let atBoundary := isWord p.before.head? != isWord p.after.head?
  let isEmptyText := p.before.isEmpty && p.after.isEmpty
  match anchor with
  | .textStart => p.before.isEmpty
  | .textEnd => p.after.isEmpty
  | .lineStart => p.before.isEmpty || (flags.multiline && p.before.head? == some 10)
  | .lineEnd =>
    p.after.isEmpty || p.after == [10] || (flags.multiline && p.after.head? == some 10)
  | .boundary => !isEmptyText && atBoundary
  | .noBoundary => !isEmptyText && !atBoundary

end Place

/-- An attempt that leaves the cursor at an offset when it fails. -/
def Attempt.endingAt (offset : Nat) : Attempt → Attempt
  | .matched p => .matched p
  | .failed trail => .failed { trail with cursor := offset }

/-- What follows: an attempt to go on from a place. -/
abbrev Rest := Place → Attempt

end Stencil.Pattern
