/-
# Single characters

A node that matches one character is repeated without a search of its own: the longest
run of characters is taken at once. What a sequence begins with can be tested on the
next character, so that a search which has to fail there is not begun.
-/

import Stencil.Pattern.Character

namespace Stencil.Pattern

/-- A test for one character. The cursor goes along a run of characters if the test
folds letter case by a set. -/
structure Single where
  test : Nat → Bool
  dragsCursor : Bool

/-- Whether a character counts as equal to others than its two cases. -/
def Flags.hasEquals (flags : Flags) (code : Nat) : Bool :=
  flags.ignoreCase && flags.isCased code && 1 < (flags.equals (flags.lower code)).length

/-- Whether letter case matters to a set. -/
def Flags.foldsSet (flags : Flags) (items : List SetItem) : Bool :=
  flags.ignoreCase && items.any (·.isCased flags)

mutual

/-- The test of a node that matches one character. -/
def Node.single? (flags : Flags) : Node → Option Single
  | .char c => some ⟨isChar flags c, flags.hasEquals c⟩
  | .notChar c => some ⟨fun code => !isChar flags c code, flags.hasEquals c⟩
  | .any => some ⟨fun code => flags.dotAll || code != 10, false⟩
  | .set negated items =>
    some ⟨fun code => inSet flags items code != negated, flags.foldsSet items⟩
  | .group none add drop body => sequenceSingle? (flags.inside add drop) body
  | _ => none

/-- The test of a sequence that matches one character. -/
def sequenceSingle? (flags : Flags) : List Node → Option Single
  | [node] => node.single? flags
  | _ => none

end

/-- A test that the next character has to pass before a sequence can match: by one
character or by a set. -/
structure Lead where
  isLiteral : Bool
  test : Nat → Bool

mutual

/-- The lead of a node in front of others. -/
def Node.lead? (flags : Flags) (after : Unit → Option Lead) : Node → Option Lead
  | .char c =>
    if flags.ignoreCase && flags.isCased c then none else some ⟨true, fun code => code == c⟩
  | .set negated items =>
    if flags.foldsSet items then none
    else some ⟨false, fun code => inSet flags items code != negated⟩
  | .group none add drop body => sequenceLead? (flags.inside add drop) after body
  | _ => none

/-- The lead of a sequence in front of others. -/
def sequenceLead? (flags : Flags) (after : Unit → Option Lead) : List Node → Option Lead
  | [] => after ()
  | node :: rest => node.lead? flags fun _ => sequenceLead? flags after rest

end

end Stencil.Pattern
