/-
# Checked results

A checked result is accepted, or refused with its issues. Checks of the parts of a
whole do not depend on each other, so all of them run and their issues add up in
order; the whole is accepted exactly when every part is.
-/

import Stencil.Schema.Issue
import Stencil.Value.Basic

namespace Stencil.Schema

/-- The result of a check. -/
inductive Checked (α : Type)
  | accepted (a : α)
  | refused (issues : List Issue)
  deriving DecidableEq, Repr

namespace Checked

variable {α β : Type}

/-- The issues of a result. -/
def issues : Checked α → List Issue
  | .accepted _ => []
  | .refused issues => issues

/-- Both parts are checked and their issues add up. -/
def apply (f : Checked (α → β)) (x : Checked α) : Checked β :=
  match f, x with
  | .accepted f, .accepted a => .accepted (f a)
  | .accepted _, .refused issues => .refused issues
  | .refused issues, x => .refused (issues ++ x.issues)

instance : Applicative Checked where
  pure := .accepted
  seq f x := f.apply (x ())

/-- A result refused for one reason at the place itself. -/
def refuse (cause : Cause) : Checked α := .refused [⟨[], cause⟩]

/-- A result with its issues placed one step further in. -/
def within (step : Step) : Checked α → Checked α
  | .accepted a => .accepted a
  | .refused issues => .refused (issues.map fun issue => ⟨step :: issue.location, issue.cause⟩)

/-- Checks a further condition on an accepted result. -/
def andThen (x : Checked α) (check : α → Checked β) : Checked β :=
  match x with
  | .accepted a => check a
  | .refused issues => .refused issues

/-- Checks every item of a list, each at its position. -/
def items (check : Value → Checked α) : Nat → List Value → Checked (List α)
  | _, [] => .accepted []
  | index, v :: rest =>
    List.cons <$> (check v).within (.position index) <*> items check (index + 1) rest

end Checked

end Stencil.Schema
