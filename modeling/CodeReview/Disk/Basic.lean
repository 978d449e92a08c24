import CodeReview.Disk.Resolve
import CodeReview.Text.Lines

/-!
# Reading and writing files

A disk is a tree of files, and files are reached by paths.  A file is read as text: its bytes have
to be UTF-8, and every line end becomes a line feed.  A text is written as its UTF-8 bytes; the
directory has to be there, the file need not be.
-/

set_option autoImplicit false

namespace CodeReview

namespace Disk

/-- The path names no place on any disk. -/
def hasNul (path : String) : Bool := path.toList.contains '\x00'

/-- Something is at the end of the path. -/
def isThere (d : Disk) (path : String) : Bool := !hasNul path && (d.node? path).isSome

/-- A file is at the end of the path. -/
def isFile (d : Disk) (path : String) : Bool :=
  !hasNul path && (d.node? path).any Node.isFile

/-- A directory is at the end of the path. -/
def isDir (d : Disk) (path : String) : Bool :=
  !hasNul path && (d.node? path).any Node.isDir

/-- The size of the file at the end of a path.  A directory has none here, though a file system may
give it one: the path of a file leads to a directory only if `..` stands behind a link in it and
normalizing the path takes both away. -/
def size? (d : Disk) (path : String) : Option Nat :=
  if hasNul path then none
  else
    match d.node? path with
    | some (.file bytes) => some bytes.size
    | _ => none

/-- The text of a file. -/
def textOf (bytes : ByteArray) : Except Text.Undecodable String :=
  (Text.decode bytes).map fun cs => String.ofList (Text.unifyLineEnds cs)

/-- The text of the file at the end of a path. -/
def read (d : Disk) (path : String) : Except Fault String :=
  if hasNul path then .error .nulInPath
  else
    let path := Path.tidy path
    match d.locate path with
    | .error cause => .error (.refused cause path)
    | .ok place =>
      match d.root.at? place with
      | some (.file bytes) => (textOf bytes).mapError .undecodable
      | some (.dir _) => .error (.refused .isDirectory path)
      | _ => .error (.refused .noEntry path)

/-- The disk with a file at a place. -/
def putAt (d : Disk) (place : Place) (bytes : ByteArray) : Disk :=
  { d with root := d.root.insert place (.file bytes) }

/-- The disk with the bytes in the file at the end of a path. -/
def writeBytes (d : Disk) (path : String) (bytes : ByteArray) : Except Cause Disk :=
  match d.resolve true path with
  | .error cause => .error cause
  | .ok (.free directory name) => .ok (d.putAt (directory ++ [name]) bytes)
  | .ok (.found place) =>
    if (d.root.at? place).any Node.isDir then .error .isDirectory else .ok (d.putAt place bytes)

/-- The disk with these bytes in the file at the end of a path, or the disk as it was. -/
def overwrite (d : Disk) (path : String) (bytes : ByteArray) : Except Fault Unit × Disk :=
  match d.writeBytes path bytes with
  | .ok d => (.ok (), d)
  | .error cause => (.error (.refused cause path), d)

/-- Write a text to the file at the end of a path.  The file is emptied first, and stays so if the
text has no bytes. -/
def write [Text.Spare] (d : Disk) (path text : String) : Except Fault Unit × Disk :=
  if hasNul path then (.error .nulInPath, d)
  else
    let path := Path.tidy path
    match Text.encode text with
    | .ok bytes => d.overwrite path bytes
    | .error u =>
      let (written, d) := d.overwrite path .empty
      (written.bind fun () => .error (.unencodable u), d)

/-! ## Preparing a disk -/

/-- The place that a path means when no link is followed. -/
def placeOf (d : Disk) (path : String) : Place :=
  let (start, way) := d.origin path
  start ++ Path.climb [] way

/-- The disk with a node at the place of a path; directories that are missing are made. -/
def plant (d : Disk) (path : String) (n : Node) : Disk :=
  { d with root := d.root.insert (d.placeOf path) n }

/-- The disk with a file; directories that are missing are made. -/
def put (d : Disk) (path : String) (bytes : ByteArray) : Disk :=
  match d.writeBytes path bytes with
  | .ok d => d
  | .error _ => d.plant path (.file bytes)

/-- The disk with a link; directories that are missing are made. -/
def putLink (d : Disk) (path target : String) : Disk := d.plant path (.link target)

/-- The disk with a directory, and with those around it. -/
def makeDir (d : Disk) (path : String) : Disk :=
  if d.isThere path then d else d.plant path .empty

/-- The disk without what a path leads to; a link is removed, not what it leads to. -/
def remove (d : Disk) (path : String) : Disk := { d with root := d.root.erase (d.placeOf path) }

/-- An empty disk with this mount. -/
def empty (mount : String) : Disk := (⟨mount, .empty⟩ : Disk).plant mount .empty

end Disk
end CodeReview
