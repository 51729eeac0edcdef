/-
# Paths

A path is kept in a normal form: its parts without empty ones and without dots,
joined by single slashes. Two slashes in front are kept apart from one.
-/

import Stencil.Text.Parts

namespace Stencil.Files

/-- A path: what is in front of its parts, and the parts. -/
structure Path where
  root : String
  parts : List String
  deriving DecidableEq, Repr

namespace Path

/-- What is in front of the parts of a path. -/
def rootOf : List Char → String
  | ['/', '/'] => "//"
  | '/' :: '/' :: c :: _ => if c = '/' then "/" else "//"
  | '/' :: _ => "/"
  | _ => ""

/-- The path that a text names. -/
def ofString (s : String) : Path where
  root := rootOf s.toList
  parts := ((Text.parts '/' s.toList).map String.ofList).filter fun part => part ≠ "" && part ≠ "."

/-- The text of a path. -/
def toString (p : Path) : String :=
  if p.root = "" && p.parts.isEmpty then "." else p.root ++ "/".intercalate p.parts

/-- A path with one more part. -/
def child (p : Path) (part : String) : Path := { p with parts := p.parts ++ [part] }

end Path

end Stencil.Files
