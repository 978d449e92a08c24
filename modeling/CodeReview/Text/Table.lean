import CodeReview.Text.Search

/-!
# Tables of characters

A property of characters that no rule tells is given by a table.  A table is a list of runs, and is
written as a text: hexadecimal code points, the runs between blanks.  `41` is a run of one
character, `41-5A` one of twenty-six, and `100-12E/2` has every second one.  Behind `>` stands what
the first character of the run is written as, so that `41-5A>61` gives capital letters their small
ones; the image of a single character may have several parts, as in `DF>73+73`.
-/

set_option autoImplicit false

namespace CodeReview.Text

/-- A run of characters: `first`, `first + step`, … up to `last`.  The image of a character is that
of the first one, its first part moved on by as much as the character is. -/
structure Run where
  first : Nat
  last : Nat
  step : Nat
  image : List Nat
  deriving Repr, DecidableEq, Inhabited

namespace Run

/-- The character is in the run. -/
def holds (r : Run) (c : Char) : Bool :=
  r.first ≤ c.toNat && c.toNat ≤ r.last && (c.toNat - r.first) % r.step == 0

/-- What a character of the run is written as. -/
def imageOf (r : Run) (c : Char) : List Char :=
  match r.image with
  | [] => []
  | n :: ns => Char.ofNat (n + (c.toNat - r.first)) :: ns.map Char.ofNat

/-- The value of a hexadecimal digit, letters being capitals. -/
def digit (c : Char) : Nat := if c.isDigit then c.toNat - 48 else c.toNat - 55

/-- The number that hexadecimal digits spell. -/
def number (ds : List Char) : Nat := ds.foldl (fun n d => 16 * n + digit d) 0

/-- The run that a word describes. -/
def ofWord (word : List Char) : Run :=
  let (characters, image) := cutAt '>' word
  let (characters, step) := cutAt '/' characters
  let (first, last) := cutAt '-' characters
  { first := number first
    last := number (last.getD first)
    step := (step.map number).getD 1
    image := image.elim [] fun parts => (parts.splitOn '+').map number }

end Run

/-- A table. -/
abbrev Table := List Run

namespace Table

/-- The table that a text describes. -/
def ofText (text : String) : Table :=
  ((text.toList.splitOnP fun c => c == ' ' || c == '\n').filter (!·.isEmpty)).map Run.ofWord

/-- The character is in the table. -/
def holds (t : Table) (c : Char) : Bool := t.any fun r => r.holds c

/-- What a character of the table is written as. -/
def image? (t : Table) (c : Char) : Option (List Char) :=
  (t.find? fun r => r.holds c).map fun r => r.imageOf c

/-- **Just the characters of the table have an image.** -/
theorem isSome_image? (t : Table) (c : Char) : (t.image? c).isSome = t.holds c := by
  rw [Bool.eq_iff_iff]
  simp [image?, holds]

example : ofText "41-5A>61 DF>73+73" = [⟨65, 90, 1, [97]⟩, ⟨223, 223, 1, [115, 115]⟩] := by
  decide +kernel

example : (ofText "100-12E/2>101").image? 'Ă' = some ['ă'] := by decide +kernel

end Table
end CodeReview.Text
