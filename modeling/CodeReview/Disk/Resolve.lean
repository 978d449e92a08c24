import CodeReview.Disk.Node
import CodeReview.Text.Search

/-!
# Following a path

A disk is reached by the paths at or below its mount; any other path leads past it.  A path leads
from where it starts through directories and links to a place.  `advance` goes as far as it can
without following a link; `Disk.follow` follows links, at most `maxLinks` of them, and so always
ends.

A file may be made at the end of a path, unless a slash stands behind its name: that asks for a
directory.
-/

set_option autoImplicit false

namespace CodeReview

/-- A disk: a tree of files, and the path it is mounted at. -/
structure Disk where
  mount : String
  root : Disk.Node
  deriving Inhabited

namespace Disk

/-- The place of the mount.  It is in a directory that no path names, since no part of a path holds
a slash. -/
def mountPlace (d : Disk) : Place := ["/", (Path.parts d.mount).getLastD ""]

/-- Where a path starts, and the parts to go from there: at the mount, or at the root. -/
def origin (d : Disk) (path : String) : Place × List String :=
  if path = d.mount then (d.mountPlace, [])
  else match Text.after? (d.mount ++ "/").toList path.toList with
    | some rest => (d.mountPlace, Path.parts (String.ofList rest))
    | none => ([], Path.parts path)

/-- How far a path leads without a link. -/
inductive Stretch where
  /-- to a place -/
  | arrived (place : Place)
  /-- to a directory that has no entry of the last name -/
  | absent (directory : Place) (name : String)
  /-- to a link in a directory, with this much of the path behind it -/
  | link (directory : Place) (target : String) (rest : List String)
  /-- nowhere -/
  | refused (cause : Cause)
  deriving Repr, DecidableEq

/-- The longest name, in bytes. -/
def maxNameBytes : Nat := 255

/-- Nothing but slashes is behind the last name. -/
def asksForDirectory (rest : List String) : Bool := !rest.isEmpty && rest.all (· == "")

/-- Go on from a place, along the parts of a path; `making` tells that a file may be made at its
end. -/
def advance (root : Node) (making : Bool) : Place → List String → Stretch
  | here, [] => .arrived here
  | here, p :: ps =>
    match root.at? here with
    | none => .refused .noEntry
    | some n =>
      if !n.isDir then .refused .notDirectory
      else if Path.isIdle p then advance root making here ps
      else if p = ".." then advance root making here.dropLast ps
      else if making && asksForDirectory ps then .refused .isDirectory
      else if maxNameBytes < p.utf8ByteSize then .refused .nameTooLong
      else match n.child? p with
        | none => if ps.isEmpty then .absent here p else .refused .noEntry
        | some (.link target) => .link here target ps
        | some _ => advance root making (here ++ [p]) ps

/-- Where a path leads: to a place, or to a name that is free in a directory. -/
inductive Target where
  | found (place : Place)
  | free (directory : Place) (name : String)
  deriving Repr, DecidableEq

/-- The most links that are followed. -/
def maxLinks : Nat := 40

/-- Go on from a place, along the parts of a path, with so many links still to be followed. -/
def follow (d : Disk) (making : Bool) : (links : Nat) → Place → List String → Except Cause Target
  | links, here, ps =>
    match advance d.root making here ps with
    | .arrived place => .ok (.found place)
    | .absent directory name => .ok (.free directory name)
    | .refused cause => .error cause
    | .link directory target rest =>
      match links with
      | 0 => .error .tooManyLinks
      | links + 1 =>
        if target = "" then .error .noEntry
        else
          let (start, way) :=
            if Path.isAbsolute target then d.origin target else (directory, Path.parts target)
          d.follow making links start (way ++ rest)

/-- The longest path, in bytes. -/
def maxPathBytes : Nat := 4095

/-- Where a path leads; `making` tells that a file may be made at its end. -/
def resolve (d : Disk) (making : Bool) (path : String) : Except Cause Target :=
  if path = "" then .error .noEntry
  else if maxPathBytes < path.utf8ByteSize then .error .nameTooLong
  else
    let (start, way) := d.origin path
    d.follow making maxLinks start way

/-- The place a path leads to. -/
def locate (d : Disk) (path : String) : Except Cause Place :=
  match d.resolve false path with
  | .ok (.found place) => .ok place
  | .ok (.free _ _) => .error .noEntry
  | .error cause => .error cause

/-- What is at the end of a path. -/
def node? (d : Disk) (path : String) : Option Node :=
  match d.locate path with
  | .ok place => d.root.at? place
  | .error _ => none

end Disk
end CodeReview
