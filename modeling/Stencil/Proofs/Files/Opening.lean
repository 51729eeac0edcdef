/-
# Files that are opened side by side

A path leads to a place by way of the directories in front of it. A file that is made at such a
place turns no directory into something else, so that whatever a path led to it still leads to, and
it stands in the way of no other file of its directory.
-/

import Stencil.Files.Disk

namespace Stencil.Files

namespace Disk

variable {d after : Disk} {p q here base place found : Path} {part other : String}
  {parts : List String}

/-- A disk with one more file, an empty one. -/
def withFile (d : Disk) (p : Path) : Disk := { d with files := d.files ++ [(p, [])] }

/-- A path can be opened as a file: it leads somewhere, to a file or to where nothing is. -/
def CanOpen (d : Disk) (p : Path) : Prop :=
  ∃ found, d.resolve p = .ok found ∧
    ((d.file? found).isSome = true ∨ d.isDirectory found = false)

theorem isDirectory_withFile :
    (d.withFile q).isDirectory p = (d.isDirectory p || isInside q p) := by
  simp only [isDirectory, withFile, List.any_append, List.any_cons, List.any_nil, Bool.or_false,
    Bool.or_assoc]

theorem file?_withFile_of_ne (apart : p ≠ q) : (d.withFile q).file? p = d.file? p := by
  have missed : [(q, ([] : List UInt8))].lookup p = none := by
    simp [List.lookup_cons, beq_eq_false_iff_ne.mpr apart]
  rw [file?, withFile, List.lookup_append, missed, Option.or_none]
  rfl

/-- A step is taken from a directory only, and by a part that is not too long. -/
theorem follow_cons_eq_ok :
    d.follow here (part :: parts) = .ok place ↔
      d.isDirectory here = true ∧ part.utf8ByteSize ≤ longestPart ∧
        d.follow (if part = ".." then above here else here.child part) parts = .ok place := by
  rw [follow]
  constructor
  · intro led
    split at led
    · split at led
      · cases led
      · exact ⟨‹_›, Nat.le_of_not_lt ‹_›, led⟩
    · split at led <;> cases led
  · rintro ⟨directory, short, led⟩
    rw [if_pos directory, if_neg (Nat.not_lt.mpr short)]
    exact led

/-- A path with one more part, which is no step up, leads one step further than the path. -/
theorem follow_append_singleton (down : part ≠ "..") :
    d.follow here (parts ++ [part]) = .ok place ↔
      ∃ base, d.follow here parts = .ok base ∧ d.isDirectory base = true ∧
        part.utf8ByteSize ≤ longestPart ∧ place = base.child part := by
  induction parts generalizing here with
  | nil =>
      rw [List.nil_append, follow_cons_eq_ok, if_neg down]
      simp only [follow, Except.ok.injEq, exists_eq_left', eq_comm]
  | cons first parts ih =>
      simp only [List.cons_append, follow_cons_eq_ok, ih, ← exists_and_left, and_assoc]

theorem follow_withFile (led : d.follow here parts = .ok place) :
    (d.withFile q).follow here parts = .ok place := by
  induction parts generalizing here with
  | nil => exact led
  | cons part parts ih =>
      obtain ⟨directory, short, led⟩ := follow_cons_eq_ok.mp led
      refine follow_cons_eq_ok.mpr ⟨?_, short, ih led⟩
      rw [isDirectory_withFile, directory, Bool.true_or]

/-- What a path led to, it leads to when there is one more file. -/
theorem resolve_withFile (led : d.resolve p = .ok place) :
    (d.withFile q).resolve p = .ok place := by
  rw [resolve] at led ⊢
  split at led
  · cases led
  · rw [if_neg ‹_›]
    exact follow_withFile led

/-- A path to a file leads to a place in the directory that the path in front leads to. -/
theorem resolve_child_eq_ok (down : part ≠ "..") :
    d.resolve (p.child part) = .ok place ↔
      (p.child part).toString.utf8ByteSize < pathBound ∧
        ∃ base, d.follow ⟨p.root, []⟩ p.parts = .ok base ∧ d.isDirectory base = true ∧
          part.utf8ByteSize ≤ longestPart ∧ place = base.child part := by
  rw [← follow_append_singleton down, resolve]
  split
  · rename_i long
    exact ⟨nofun, fun ⟨short, _⟩ => absurd long (Nat.not_le.mpr short)⟩
  · rename_i short
    exact ⟨fun led => ⟨Nat.not_le.mp short, led⟩, And.right⟩

/-- Opening a file leaves the disk as it is, or with the file as one more. -/
theorem of_touch (touched : d.touch p = .ok (found, after)) :
    d.resolve p = .ok found ∧ (after = d ∨ after = d.withFile found) := by
  rw [touch] at touched
  split at touched
  · cases touched
  · split at touched
    · cases touched
      exact ⟨‹_›, .inl rfl⟩
    · split at touched
      · cases touched
      · cases touched
        exact ⟨‹_›, .inr rfl⟩

/-- A path that can be opened is opened, and no other. -/
theorem exists_touch_iff : (∃ opened, d.touch p = .ok opened) ↔ d.CanOpen p := by
  unfold CanOpen touch
  cases d.resolve p with
  | error fault => simp
  | ok reached =>
      cases held : (d.file? reached).isSome <;> cases directory : d.isDirectory reached <;>
        simp [held, directory]

theorem resolve_of_touch (touched : d.touch q = .ok (found, after))
    (led : d.resolve p = .ok place) : after.resolve p = .ok place := by
  obtain ⟨-, rfl | rfl⟩ := of_touch touched
  · exact led
  · exact resolve_withFile led

theorem child_ne_child (apart : part ≠ other) : base.child part ≠ base.child other := by
  intro same
  have parts : base.parts ++ [part] = base.parts ++ [other] := congrArg Path.parts same
  exact apart (List.singleton_inj.mp (List.append_cancel_left parts))

/-- Of two files of one directory neither is inside the other. -/
theorem isInside_child_child : isInside (base.child part) (base.child other) = false := by
  simp only [isInside, Path.child, Bool.and_eq_false_iff, bne_eq_false_iff_eq]
  cases inFront : (base.parts ++ [other]).isPrefixOf (base.parts ++ [part]) with
  | false => exact .inl (.inr rfl)
  | true =>
      refine .inr ((List.isPrefixOf_iff_prefix.mp inFront).eq_of_length ?_).symm
      simp only [List.length_append, List.length_singleton]

/-- A file that is opened stands in the way of no other file of its directory. -/
theorem canOpen_sibling_iff (touched : d.touch (p.child part) = .ok (found, after))
    (down : part ≠ "..") (otherDown : other ≠ "..") (apart : part ≠ other) :
    after.CanOpen (p.child other) ↔ d.CanOpen (p.child other) := by
  obtain ⟨led, rfl | rfl⟩ := of_touch touched
  · rfl
  obtain ⟨-, base, toBase, directory, -, rfl⟩ := (resolve_child_eq_ok down).mp led
  have same (place : Path) : (d.withFile (base.child part)).resolve (p.child other) = .ok place ↔
      d.resolve (p.child other) = .ok place := by
    rw [resolve_child_eq_ok otherDown, resolve_child_eq_ok otherDown, toBase,
      follow_withFile toBase]
    simp only [Except.ok.injEq, exists_eq_left', isDirectory_withFile, directory, Bool.true_or]
  refine exists_congr fun place => ?_
  rw [same]
  refine and_congr_right fun led => ?_
  obtain ⟨-, base', toBase', -, -, rfl⟩ := (resolve_child_eq_ok otherDown).mp led
  cases toBase.symm.trans toBase'
  rw [file?_withFile_of_ne (child_ne_child apart.symm), isDirectory_withFile,
    isInside_child_child, Bool.or_false]

/-- Two files of one directory are opened at two places. -/
theorem ne_of_resolve_child (led : d.resolve (p.child part) = .ok found)
    (otherLed : d.resolve (p.child other) = .ok place) (down : part ≠ "..")
    (otherDown : other ≠ "..") (apart : part ≠ other) : found ≠ place := by
  obtain ⟨-, base, toBase, -, -, rfl⟩ := (resolve_child_eq_ok down).mp led
  obtain ⟨-, base', toBase', -, -, rfl⟩ := (resolve_child_eq_ok otherDown).mp otherLed
  cases toBase.symm.trans toBase'
  exact child_ne_child apart

end Disk

end Stencil.Files
