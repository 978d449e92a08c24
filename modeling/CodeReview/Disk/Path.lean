/-!
# Paths

A path is a text whose parts stand between slashes.  What is done here is done to the text alone,
no disk is asked: `Path.normalize` makes a path absolute and resolves its dots, `Path.tidy` drops
what means nothing, `Path.relativeTo` leads from one place to another.  The current directory is
the root.

Two slashes at the start of a path are kept, three or more count as one.
-/

set_option autoImplicit false

namespace CodeReview.Path

/-- The parts of a path; empty ones stand for doubled slashes and for slashes at the ends. -/
def parts (path : String) : List String :=
  (path.toList.splitOn '/').map String.ofList

/-- A path from the root. -/
def isAbsolute (path : String) : Bool := path.toList.head? == some '/'

/-- The slashes a path starts with, as they count: none, one or two. -/
def rootSlashes (path : String) : String :=
  match (path.toList.takeWhile (· == '/')).length with
  | 0 => ""
  | 2 => "//"
  | _ => "/"

/-- A part that leads nowhere. -/
def isIdle (part : String) : Bool := part == "" || part == "."

/-- The parts of an absolute path, without idle ones and with each `..` taking back the part before
it.  `taken` holds the parts so far, the last one first. -/
def climb : (taken : List String) → List String → List String
  | taken, [] => taken.reverse
  | taken, p :: ps =>
    if isIdle p then climb taken ps
    else if p = ".." then climb taken.tail ps
    else climb (p :: taken) ps

/-- The path of a name in a directory. -/
def join (directory name : String) : String :=
  if isAbsolute name then name
  else if directory = "" || directory.toList.getLast? == some '/' then directory ++ name
  else directory ++ "/" ++ name

/-- The path from the root, with no idle part and no `..`. -/
def normalize (path : String) : String :=
  let path := join "/" path
  rootSlashes path ++ String.intercalate "/" (climb [] (parts path))

/-- The path without idle parts; a path that leads nowhere is a point. -/
def tidy (path : String) : String :=
  let tidied := rootSlashes path
    ++ String.intercalate "/" ((parts path).filter fun p => !isIdle p)
  if tidied = "" then "." else tidied

/-- The parts that two lists start with in common are dropped from both. -/
def dropCommon : List String → List String → List String × List String
  | p :: ps, q :: qs => if p = q then dropCommon ps qs else (p :: ps, q :: qs)
  | ps, qs => (ps, qs)

/-- The way from a directory to a path: up as often as needed, and down. -/
def relativeTo (base path : String) : String :=
  let (up, down) := dropCommon (climb [] (parts (join "/" base))) (climb [] (parts (join "/" path)))
  let way := List.replicate up.length ".." ++ down
  if way.isEmpty then "." else String.intercalate "/" way

/-- The extension of a file name: from its last point on, unless nothing but points stands before
that one. -/
def extension (name : String) : String :=
  let stem := name.toList.dropWhile (· == '.')
  if stem.contains '.' then
    String.ofList ('.' :: (stem.reverse.takeWhile (· != '.')).reverse)
  else ""

example : normalize "/w/./sub/../sub/" = "/w/sub" := by decide +kernel
example : tidy "/w//a/./b/" = "/w/a/b" := by decide +kernel
example : relativeTo "/w/src" "/w/lib/a.js" = "../lib/a.js" := by decide +kernel
example : extension "a.test.TS" = ".TS" := by decide +kernel
example : extension "..js" = "" := by decide +kernel

end CodeReview.Path
