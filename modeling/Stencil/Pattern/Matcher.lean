/-
# Matching patterns

A node is matched at a place in the text and hands every place where it can end to
what follows, in order of preference. The first place from which all that follows
succeeds decides, so that what follows is a function and no list of alternatives is
ever built. A possessive repetition ends where its last run that did not fail does, or,
with a matcher that keeps the cursor, where the run that failed has left it.
-/

import Stencil.Machine
import Stencil.Pattern.Place
import Stencil.Pattern.Refusal
import Stencil.Pattern.Single

namespace Stencil.Pattern

/-- Where a node stands: the options in force, whether the matcher keeps the cursor of a
run that failed, whether a repetition goes on around the node, and the lead of what
follows it. -/
structure Scope where
  flags : Flags
  keepsCursor : Bool
  isRepeated : Bool := false
  next : Unit → Option Lead := fun _ => none

/-- The scope of a part that nothing follows directly. -/
def Scope.closed (scope : Scope) : Scope := { scope with next := fun _ => none }

/-- Whether the next character passes a lead, if there is one. -/
def Place.passes (p : Place) (lead : Option Lead) : Bool :=
  lead.all fun lead => p.after.head?.any lead.test

/-- Takes a place as the end of a part that is matched for itself. -/
def finish : Rest := fun p => .matched p.focused

/-- Gives the characters of a run back one after the other until what follows matches.
Places that do not pass the lead of what follows are passed over. -/
def giveBack (isRepeated : Bool) (lead : Option Lead) (rest : Rest) : Nat → Place → Attempt
  | spare, p =>
    let tried : Attempt := if p.passes lead then rest p.focused else p.fail
    match tried with
    | .matched q => .matched q
    | .failed trail =>
      let p := p.resume isRepeated trail
      match spare with
      | 0 => p.fail
      | spare + 1 => giveBack isRepeated lead rest spare p.back

/-- Takes one character after the other until what follows matches. -/
def takeMore (isRepeated : Bool) (single : Single) (rest : Rest) : Nat → Place → Attempt
  | spare, p =>
    match rest p.focused with
    | .matched q => .matched q
    | .failed trail =>
      let p := (p.resume isRepeated trail).focused
      match p.step? single.test with
      | none => p.fail
      | some q =>
        let q := if single.dragsCursor then q.focused else q
        match spare with
        | 0 => q.fail
        | spare + 1 => takeMore isRepeated single rest spare q

/-- Repeats a single character. -/
def repeatSingle (scope : Scope) (greed : Greed) (single : Single) (least : Nat)
    (greatest : Option Nat) (p : Place) (rest : Rest) : Attempt :=
  if p.left < least then p.fail
  else
    let most := min p.left (greatest.getD p.left)
    let wanted := if greed = .lazy then least else most
    let q := p.focused.advance single.test wanted
    let q := if single.dragsCursor then q.focused else q
    if q.offset < p.offset + least then q.fail
    else
      match greed with
      | .greedy =>
        giveBack scope.isRepeated ((scope.next ()).filter (·.isLiteral)) rest
          (q.offset - p.offset - least) q
      | .lazy => takeMore scope.isRepeated single rest (most - least) q
      | .possessive => rest q

/-- Repeats a body in greedy order. `count` runs are done and the last run beyond the
least count began at `last`; a run that begins where the one before began is not
tried again. -/
def repeatGreedy (body : Place → Rest → Attempt) (least : Nat) (greatest : Option Nat)
    (rest : Rest) : Nat → Nat → Option Nat → Place → Attempt
  | 0, _, _, p => rest p
  | fuel + 1, count, last, p =>
    let p := p.focused
    if count < least then
      (body p fun q => repeatGreedy body least greatest rest fuel (count + 1) last q).endingAt
        p.offset
    else if greatest.all (count < ·) && last != some p.offset then
      match body p fun q =>
          repeatGreedy body least greatest rest fuel (count + 1) (some p.offset) q with
      | .matched done => .matched done
      | .failed _ => (rest p).endingAt p.offset
    else (rest p).endingAt p.offset

/-- Repeats a body in lazy order. -/
def repeatLazy (isRepeated : Bool) (body : Place → Rest → Attempt) (least : Nat)
    (greatest : Option Nat) (rest : Rest) : Nat → Nat → Option Nat → Place → Attempt
  | 0, _, _, p => rest p
  | fuel + 1, count, last, p =>
    let p := p.focused
    if count < least then
      (body p fun q =>
        repeatLazy isRepeated body least greatest rest fuel (count + 1) last q).endingAt p.offset
    else
      match rest p with
      | .matched done => .matched done
      | .failed trail =>
        let p := (p.resume isRepeated trail).focused
        if greatest.all (count < ·) && last != some p.offset then
          (body p fun q =>
            repeatLazy isRepeated body least greatest rest fuel (count + 1) (some p.offset)
              q).endingAt p.offset
        else p.fail

/-- Repeats a body as often as it goes, never taking a run back. The repetition began at
`start`; a run that fails when enough are done ends it, where this run began or where it
has left the cursor. -/
def repeatPossessive (keepsCursor : Bool) (body : Place → Rest → Attempt) (start least : Nat)
    (greatest : Option Nat) : Nat → Nat → Place → Attempt
  | 0, _, p => .matched p
  | fuel + 1, count, p =>
    let p := p.focused
    if count < least then
      match body p finish with
      | .failed trail => .failed { trail with cursor := start }
      | .matched q =>
        repeatPossessive keepsCursor body start least greatest fuel (count + 1) q
    else if greatest.all (count < ·) then
      match body p finish with
      | .failed trail =>
        .matched (if keepsCursor then (p.moveTo trail.cursor).focused else p)
      | .matched q =>
        if q.offset == p.offset then .matched q
        else repeatPossessive keepsCursor body start least greatest fuel (count + 1) q
    else .matched p

/-- Goes on after an attempt. -/
def Attempt.andThen (x : Attempt) (rest : Rest) : Attempt :=
  match x with
  | .matched p => rest p
  | .failed trail => .failed trail

/-- Goes on after one character of a kind. -/
def Place.take (p : Place) (isMember : Nat → Bool) (rest : Rest) : Attempt :=
  match p.step? isMember with
  | some q => rest q
  | none => p.fail

mutual

/-- Matches a node at a place with what follows it. -/
def Node.run (scope : Scope) (node : Node) (p : Place) (rest : Rest) : Attempt :=
  match node with
  | .char c => p.take (isChar scope.flags c) rest
  | .notChar c => p.take (fun code => !isChar scope.flags c code) rest
  | .any => p.take (fun code => scope.flags.dotAll || code != 10) rest
  | .set negated items => p.take (fun code => inSet scope.flags items code != negated) rest
  | .anchor anchor => if p.satisfies scope.flags anchor then rest p else p.fail
  | .choice branches => runBranches scope.closed branches p rest
  | .group none add drop body =>
    runSequence { scope with flags := scope.flags.inside add drop } body p rest
  | .group (some index) add drop body =>
    runSequence { scope.closed with flags := scope.flags.inside add drop } body
      (p.mark (2 * index - 2)) fun q => rest (q.mark (2 * index - 1))
  | .atomic body =>
    ((runSequence scope.closed body p.focused finish).endingAt p.offset).andThen rest
  | .look behind negated body =>
    let width := behind.elim 0 Width.least
    if p.offset < width then if negated then rest p else p.fail
    else
      match runSequence scope.closed body (p.backBy width).focused finish, negated with
      | .matched q, false => rest { p with cursor := q.cursor, marks := q.marks }
      | .matched q, true => q.fail
      | .failed trail, false => .failed trail
      | .failed trail, true => rest (p.resume scope.isRepeated trail)
  | .repeated greed least greatest body =>
    match sequenceSingle? scope.flags body with
    | some single => repeatSingle scope greed single least greatest p rest
    | none =>
      let fuel := least + p.left + 2
      match greed with
      | .greedy =>
        repeatGreedy (runSequence { scope.closed with isRepeated := true } body) least greatest
          rest fuel 0 none p
      | .lazy =>
        repeatLazy scope.isRepeated
          (runSequence { scope.closed with isRepeated := true } body) least greatest rest fuel 0
          none p
      | .possessive =>
        (repeatPossessive scope.keepsCursor (runSequence scope.closed body) p.offset least
          greatest fuel 0 p).andThen rest
  | .backreference group =>
    let flags := scope.flags
    let same (a b : Nat) : Bool :=
      if flags.ignoreCase then flags.lower a == flags.lower b else a == b
    match (p.captured? group).bind fun text => p.skip? same text with
    | some q => rest q
    | none => p.fail
  | .conditional group yes no =>
    match no with
    | none => if (p.captureSpan? group).isSome then runSequence scope yes p rest else rest p
    | some [] => if (p.captureSpan? group).isSome then runSequence scope yes p rest else rest p
    | some no =>
      if (p.captureSpan? group).isSome then runSequence scope.closed yes p rest
      else runSequence scope no p rest

/-- Matches a sequence. -/
def runSequence (scope : Scope) (nodes : List Node) (p : Place) (rest : Rest) : Attempt :=
  match nodes with
  | [] => rest p
  | node :: others =>
    node.run { scope with next := fun _ => sequenceLead? scope.flags scope.next others } p
      fun q => runSequence scope others q rest

/-- Matches the first branch from which all that follows succeeds. Branches that the next
character rules out are passed over. -/
def runBranches (scope : Scope) (branches : List (List Node)) (p : Place) (rest : Rest) :
    Attempt :=
  match branches with
  | [] => p.fail
  | branch :: others =>
    if p.passes (sequenceLead? scope.flags scope.next branch) then
      match runSequence scope branch p.focused rest with
      | .matched done => .matched done
      | .failed trail => runBranches scope others (p.resume scope.isRepeated trail) rest
    else runBranches scope others p rest

end

/-- The attempt to match a whole text. -/
def Expression.attempt [Machine] (pattern : Expression) (text : List Nat) : Attempt :=
  let start := Place.start text
  if start.left < pattern.width.least then start.fail
  else
    let scope : Scope := { flags := pattern.flags, keepsCursor := Machine.keepsCursor }
    runSequence scope pattern.body start fun p => if p.after.isEmpty then finish p else p.fail

/-- Whether a pattern matches a text from its first to its last character; a text shorter
than the pattern is no match. A match with a group that ends in front of where it begins
is refused. -/
def Expression.matchesWhole [Machine] (pattern : Expression) (text : String) :
    Except Refusal Bool :=
  match pattern.attempt (text.toList.map Char.toNat) with
  | .failed _ => .ok false
  | .matched p => if p.hasReversedSpan then .error .spanReversed else .ok true

end Stencil.Pattern
