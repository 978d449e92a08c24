import CodeReview.Disk.Basic
import CodeReview.Fault
import CodeReview.Text.LowerCase
import CodeReview.Text.Search

/-!
# Which files are reviewed

Below a directory all files count that have one of the extensions asked for, in any case, and are
not too large; directories of tools and of generated code are left out, and so is minified code.
A link to a file counts under its own name, a link to a directory is not followed, and one that
leads nowhere has no size and does not count.  A path to a file is that file, whatever its name
and size.

The directory asked for is the exception to two of these rules: it may be a link, and it may have
any name.
-/

set_option autoImplicit false

namespace CodeReview.Disk

/-- The extensions of the files to review, unless others are asked for. -/
def defaultExtensions : List String := [".ts", ".tsx", ".js", ".jsx"]

/-- The directories left out. -/
def excludedDirs : List String :=
  [".git", "node_modules", ".venv", "dist", "build", "__pycache__"]

/-- The ending of minified code. -/
def excludedEnding : String := ".min.js"

/-- The extension of a file name, in lower case. -/
def extensionOf (name : String) : String :=
  String.ofList (Text.lower (Path.extension name).toList)

/-- The name is one of a file to review. -/
def isWanted (extensions : List String) (name : String) : Bool :=
  !Text.endsWith excludedEnding.toList name.toList && extensions.contains (extensionOf name)

/-- The entry of a directory is a directory, perhaps by way of a link. -/
def leadsToDir (d : Disk) (here : Place) (name : String) : Node → Bool
  | .dir _ => true
  | .file _ => false
  | .link _ =>
    match d.follow false maxLinks here [name] with
    | .ok (.found place) => (d.root.at? place).any Node.isDir
    | _ => false

mutual

/-- The paths of the files and of the links that do not lead to a directory, at or below a node that
is at `here` and is shown as `path`. -/
def filesIn (d : Disk) (here : Place) (path : String) : Node → List String
  | .dir entries => filesAmong d here path entries
  | _ => []

/-- The same for the entries of a directory. -/
def filesAmong (d : Disk) (here : Place) (path : String) :
    List (String × Node) → List String
  | [] => []
  | (name, node) :: rest =>
    let found :=
      if leadsToDir d here name node then
        if excludedDirs.contains name then []
        else filesIn d (here ++ [name]) (Path.join path name) node
      else [Path.join path name]
    found ++ filesAmong d here path rest

end

/-- The last name of a path. -/
def nameOf (path : String) : String := (Path.parts path).getLastD ""

/-- The file at a path is small enough. -/
def fits (d : Disk) (maxBytes : Int) (path : String) : Bool :=
  (d.size? path).any fun n => (n : Int) ≤ maxBytes

/-- Texts in the order of their characters, each once. -/
def inOrder (paths : List String) : List String :=
  paths.eraseDups.mergeSort fun a b => decide (a ≤ b)

/-- The files below a directory that are to be reviewed. -/
def discoverBelow (d : Disk) (path : String) (extensions : List String) (maxBytes : Int) :
    List String :=
  match d.locate path with
  | .error _ => []
  | .ok place =>
    let found := ((d.root.at? place).elim [] (filesIn d place path)).filter fun p =>
      isWanted extensions (nameOf p)
    inOrder ((found.map Path.normalize).filter (d.fits maxBytes))

/-- The files to review at or below a path. -/
def discover (d : Disk) (path : String) (extensions : List String) (maxBytes : Int) :
    Except CodeReview.Fault (List String) :=
  if maxBytes ≤ 0 then .error (.argument (.notPositive "max_bytes"))
  else if d.isFile path then .ok [Path.normalize path]
  else if hasNul path then .error (.disk .nulInPath)
  else .ok (d.discoverBelow path extensions maxBytes)

end CodeReview.Disk
