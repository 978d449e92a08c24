/-!
# Lines

Three ways to see the lines of a text.  `lines` cuts at line feeds only and keeps every other
character, so joining gives the text back.  `unifyLineEnds` turns the three line ends of text
files (LF, CR LF, CR) into line feeds.  `logicalLines` cuts at every line boundary of Unicode.
-/

set_option autoImplicit false

namespace CodeReview.Text

/-- The lines between the line feeds; a text without one is a single line. -/
def lines (cs : List Char) : List (List Char) := cs.splitOn '\n'

/-- Lines with a line feed between each two. -/
def unlines (ls : List (List Char)) : List Char := ['\n'].intercalate ls

@[simp] theorem unlines_lines (cs : List Char) : unlines (lines cs) = cs :=
  List.intercalate_splitOn '\n'

/-- CR LF and CR become LF. -/
def unifyLineEnds : List Char → List Char
  | [] => []
  | '\r' :: '\n' :: cs => '\n' :: unifyLineEnds cs
  | '\r' :: cs => '\n' :: unifyLineEnds cs
  | c :: cs => c :: unifyLineEnds cs

/-- The line boundaries of Unicode, and the separators U+001C, U+001D and U+001E. -/
def isLineBoundary (c : Char) : Bool :=
  let n := c.toNat
  (10 ≤ n && n ≤ 13) || (0x1C ≤ n && n ≤ 0x1E) || n == 0x85 || n == 0x2028 || n == 0x2029

/-- The lines between the line boundaries, CR LF counting as one; a boundary at the end closes the
last line and opens none. -/
def logicalLines (cs : List Char) : List (List Char) :=
  let parts := (dropCarriage cs).splitOnP isLineBoundary
  if parts.getLast? = some [] then parts.dropLast else parts
where
  /-- The carriage return of a CR LF is dropped. -/
  dropCarriage : List Char → List Char
    | [] => []
    | '\r' :: '\n' :: cs => '\n' :: dropCarriage cs
    | c :: cs => c :: dropCarriage cs

end CodeReview.Text
