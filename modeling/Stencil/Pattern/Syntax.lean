/-
# The syntax of patterns

A pattern is a sequence of nodes over code points. Groups are numbered from one in
the order in which they open. Besides the tree, this module computes how many
characters a sequence can match, which decides whether it may look behind.
-/

namespace Stencil.Pattern

/-- The options under which a part of a pattern is read and matched. -/
structure Flags where
  ignoreCase : Bool
  multiline : Bool
  dotAll : Bool
  verbose : Bool
  ascii : Bool
  unicode : Bool
  template : Bool
  deriving DecidableEq, Repr

namespace Flags

/-- No option. -/
def empty : Flags := ⟨false, false, false, false, false, false, false⟩

/-- The options in either set. -/
def union (a b : Flags) : Flags :=
  ⟨a.ignoreCase || b.ignoreCase, a.multiline || b.multiline, a.dotAll || b.dotAll,
   a.verbose || b.verbose, a.ascii || b.ascii, a.unicode || b.unicode,
   a.template || b.template⟩

/-- The options in the first set and not in the second. -/
def without (a b : Flags) : Flags :=
  ⟨a.ignoreCase && !b.ignoreCase, a.multiline && !b.multiline, a.dotAll && !b.dotAll,
   a.verbose && !b.verbose, a.ascii && !b.ascii, a.unicode && !b.unicode,
   a.template && !b.template⟩

/-- Whether some option is in both sets. -/
def meets (a b : Flags) : Bool :=
  (a.ignoreCase && b.ignoreCase) || (a.multiline && b.multiline) || (a.dotAll && b.dotAll) ||
  (a.verbose && b.verbose) || (a.ascii && b.ascii) || (a.unicode && b.unicode) ||
  (a.template && b.template)

/-- The options inside a group that adds some and drops others. The character set is
replaced, not added. -/
def inside (flags add drop : Flags) : Flags :=
  let base :=
    if add.ascii || add.unicode then { flags with ascii := false, unicode := false } else flags
  (base.union add).without drop

end Flags

/-- The classes of characters. -/
inductive Category
  | digit | space | word
  deriving DecidableEq, Repr

/-- A member of a set of characters. -/
inductive SetItem
  | char (code : Nat)
  | range (first last : Nat)
  | category (kind : Category) (negated : Bool)
  deriving DecidableEq, Repr

/-- A condition on a place in the text. -/
inductive Anchor
  | lineStart | lineEnd | textStart | textEnd | boundary | noBoundary
  deriving DecidableEq, Repr

/-- In which order a repetition tries its counts; a possessive one keeps the first
that it reaches. -/
inductive Greed
  | greedy | lazy | possessive
  deriving DecidableEq, Repr

/-- The least and the greatest count of characters that something matches. -/
structure Width where
  least : Nat
  greatest : Nat
  deriving DecidableEq, Repr

namespace Width

/-- Greatest counts are not told apart from this one on. -/
def unbounded : Nat := 0xFFFFFFFF

/-- Least counts are not told apart from this one on. -/
def longestLeast : Nat := unbounded - 1

/-- The width of nothing. -/
def zero : Width := ⟨0, 0⟩

/-- The width of one after the other. -/
def add (a b : Width) : Width := ⟨a.least + b.least, a.greatest + b.greatest⟩

/-- The width of one or the other. -/
def either (a b : Width) : Width := ⟨min a.least b.least, max a.greatest b.greatest⟩

/-- The width with counts beyond the bounds taken for the bounds. -/
def capped (a : Width) : Width := ⟨min a.least longestLeast, min a.greatest unbounded⟩

/-- The width of a repetition. -/
def repeated (a : Width) (least : Nat) (greatest : Option Nat) : Width :=
  ⟨a.least * least, a.greatest * greatest.getD unbounded⟩

/-- The least width that is too great to look behind. -/
def behindBound : Nat := 0x80000000

end Width

/-- A node of a pattern. A node that looks behind keeps the width of its body, which
has to be a single count. -/
inductive Node
  | char (code : Nat)
  | notChar (code : Nat)
  | any
  | set (negated : Bool) (items : List SetItem)
  | anchor (anchor : Anchor)
  | choice (branches : List (List Node))
  | group (index : Option Nat) (add drop : Flags) (body : List Node)
  | atomic (body : List Node)
  | look (behind : Option Width) (negated : Bool) (body : List Node)
  | repeated (greed : Greed) (min : Nat) (max : Option Nat) (body : List Node)
  | backreference (group : Nat)
  | conditional (group : Nat) (yes : List Node) (no : Option (List Node))
  deriving Repr, BEq

mutual

/-- The width of a node, given the widths of the groups closed so far. -/
def Node.width (groups : List (Option Width)) : Node → Width
  | .char _ | .notChar _ | .any | .set .. => ⟨1, 1⟩
  | .anchor _ | .look .. => .zero
  | .choice branches => branchesWidth groups branches
  | .group _ _ _ body => sequenceWidth groups body
  | .atomic body => sequenceWidth groups body
  | .repeated _ least greatest body => (sequenceWidth groups body).repeated least greatest
  | .backreference group => ((groups[group]?).bind id).getD .zero
  | .conditional _ yes none => ⟨0, (sequenceWidth groups yes).greatest⟩
  | .conditional _ yes (some no) =>
    (sequenceWidth groups yes).either (sequenceWidth groups no)

/-- The width of a sequence. -/
def sequenceWidth (groups : List (Option Width)) : List Node → Width
  | [] => .zero
  | node :: rest => ((node.width groups).add (sequenceWidth groups rest)).capped

/-- The width of a choice between sequences. -/
def branchesWidth (groups : List (Option Width)) : List (List Node) → Width
  | [] => ⟨Width.longestLeast, 0⟩
  | branch :: rest => (sequenceWidth groups branch).either (branchesWidth groups rest)

end

mutual

/-- Whether a node and all nodes inside it pass a check. -/
def Node.everywhere (check : Node → Bool) (node : Node) : Bool :=
  check node &&
    match node with
    | .choice branches => branchesEverywhere check branches
    | .group _ _ _ body => sequenceEverywhere check body
    | .atomic body => sequenceEverywhere check body
    | .look _ _ body => sequenceEverywhere check body
    | .repeated _ _ _ body => sequenceEverywhere check body
    | .conditional _ yes none => sequenceEverywhere check yes
    | .conditional _ yes (some no) => sequenceEverywhere check yes && sequenceEverywhere check no
    | _ => true

/-- Whether all nodes of a sequence pass a check. -/
def sequenceEverywhere (check : Node → Bool) : List Node → Bool
  | [] => true
  | node :: rest => node.everywhere check && sequenceEverywhere check rest

/-- Whether all nodes of branches pass a check. -/
def branchesEverywhere (check : Node → Bool) : List (List Node) → Bool
  | [] => true
  | branch :: rest => sequenceEverywhere check branch && branchesEverywhere check rest

end

/-- Whether a node looks behind by one width only, and is no repetition when repetition is
switched off. -/
def Node.isSound (template : Bool) : Node → Bool
  | .look (some width) _ _ => width.least == width.greatest
  | .repeated .. => !template
  | _ => true

/-- Whether a node does not look too far behind. -/
def Node.looksNear : Node → Bool
  | .look (some width) _ _ => width.least < Width.behindBound
  | _ => true

/-- A pattern that can be matched, with its width. -/
structure Expression where
  flags : Flags
  body : List Node
  width : Width
  deriving Repr

end Stencil.Pattern
