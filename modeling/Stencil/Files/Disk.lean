/-
# Disks

A disk holds files and directories under paths. A path is followed part by part from
where it starts, so that a step up leads back only from a directory that is there.
-/

import Stencil.Failure
import Stencil.Files.Path

namespace Stencil.Files

/-- The files of a disk and the directories that hold none. -/
structure Disk where
  files : List (Path × List UInt8) := []
  directories : List Path := []

namespace Disk

/-- The bytes of a file. -/
def file? (d : Disk) (p : Path) : Option (List UInt8) := d.files.lookup p

/-- Whether a path lies inside another one. -/
def isInside (inner outer : Path) : Bool :=
  inner.root == outer.root && outer.parts.isPrefixOf inner.parts && inner.parts != outer.parts

/-- Whether there is a directory under a path. Where paths start and what lies above
is one. -/
def isDirectory (d : Disk) (p : Path) : Bool :=
  p.parts.all (· == "..") || d.directories.contains p ||
    d.directories.any (fun other => isInside other p) ||
    d.files.any fun (other, _) => isInside other p

/-- The path one step up. -/
def above (p : Path) : Path :=
  if p.parts.all (· == "..") then if p.root = "" then p.child ".." else p
  else { p with parts := p.parts.dropLast }

/-- The greatest number of bytes in a part of a path. -/
def longestPart : Nat := 255

/-- The least number of bytes that no path has. -/
def pathBound : Nat := 4096

/-- Follows parts from a path. -/
def follow (d : Disk) : Path → List String → Except PathFault Path
  | here, [] => .ok here
  | here, part :: rest =>
    if d.isDirectory here then
      if longestPart < part.utf8ByteSize then .error .nameTooLong
      else follow d (if part = ".." then above here else here.child part) rest
    else if (d.file? here).isSome then .error .notDirectory
    else .error .notFound

/-- The path that a path leads to, without steps up. -/
def resolve (d : Disk) (p : Path) : Except PathFault Path :=
  if pathBound ≤ p.toString.utf8ByteSize then .error .nameTooLong
  else d.follow ⟨p.root, []⟩ p.parts

/-- Whether a path leads to a directory. -/
def leadsToDirectory (d : Disk) (p : Path) : Bool :=
  match d.resolve p with
  | .ok found => d.isDirectory found
  | .error _ => false

/-- Whether a path has a null character, which no path on a disk can have. -/
def hasNull (p : Path) : Bool := p.parts.any fun part => part.toList.contains '\x00'

/-- The bytes that a path leads to. -/
def read (d : Disk) (p : Path) : Except Failure (List UInt8) :=
  if hasNull p then .error .pathHasNull
  else
    match d.resolve p with
    | .error fault => .error (.path fault p.toString)
    | .ok found =>
      match d.file? found with
      | some bytes => .ok bytes
      | none =>
        .error (.path (if d.isDirectory found then .isDirectory else .notFound) p.toString)

/-- Makes one directory. -/
def makeDirectory (d : Disk) (p : Path) : Except PathFault Disk :=
  match d.resolve p with
  | .error fault => .error fault
  | .ok found =>
    if d.isDirectory found || (d.file? found).isSome then .error .exists
    else .ok { d with directories := d.directories ++ [found] }

/-- Makes a directory unless it is there. -/
def ensureDirectory (d : Disk) (p : Path) : Except (PathFault × Path) Disk :=
  match d.makeDirectory p with
  | .ok made => .ok made
  | .error fault => if d.leadsToDirectory p then .ok d else .error (fault, p)

/-- Makes a directory and those above it; the parts are given from the last to the
first. -/
def ensureDirectories (d : Disk) (root : String) :
    List String → Except (PathFault × Path) Disk
  | [] => d.ensureDirectory ⟨root, []⟩
  | last :: above =>
    let p : Path := ⟨root, (last :: above).reverse⟩
    match d.makeDirectory p with
    | .error .notFound =>
      (ensureDirectories d root above).bind fun made => made.ensureDirectory p
    | _ => d.ensureDirectory p

/-- Makes the directories of a path. -/
def makeDirectories (d : Disk) (p : Path) : Except Failure Disk :=
  if hasNull p then .error .pathHasNull
  else (d.ensureDirectories p.root p.parts.reverse).mapError fun (fault, place) =>
    .path fault place.toString

/-- Makes an empty file unless there is one, and tells where it is. -/
def touch (d : Disk) (p : Path) : Except Failure (Path × Disk) :=
  match d.resolve p with
  | .error fault => .error (.path fault p.toString)
  | .ok found =>
    if (d.file? found).isSome then .ok (found, d)
    else if d.isDirectory found then .error (.path .isDirectory p.toString)
    else .ok (found, { d with files := d.files ++ [(found, [])] })

end Disk

end Stencil.Files
