import CodeReview.Text.Canonical
import CodeReview.Text.Direction
import CodeReview.Text.Joining

/-!
# Labels of names

Two rules that the characters of a label have to keep together.  A joiner stands only where it can
be seen: behind a sign that suppresses a vowel, or between letters that join
(`joinerFits`).  And a label is written in one direction: it begins with a letter, holds what runs
along with that letter, and ends with a letter or a number (`directionFlaw?`).
-/

set_option autoImplicit false

namespace CodeReview.Address

open CodeReview.Text (Direction Table combiningClass)

/-- The label is in ASCII. -/
def isAscii (label : List Char) : Bool := label.all fun c => c.toNat < 128

/-! ## Joiners -/

/-- The joiner and the character that keeps letters from joining. -/
def joiner : Char := '\u200d'
def nonJoiner : Char := '\u200c'

/-- The combining class of the signs that suppress a vowel. -/
def viramaClass : Nat := 9

/-- The first letter behind those characters that letters join across passes the test. -/
def meetsJoining (through : Table) (test : Char → Bool) (cs : List Char) : Bool :=
  ((cs.dropWhile through.holds).head?).any test

/-- The letter joins the one behind it. -/
def joinsOnward (c : Char) : Bool := Text.joinsAfter.holds c || Text.joinsBothSides.holds c

/-- The letter joins the one before it. -/
def joinsBack (c : Char) : Bool := Text.joinsBefore.holds c || Text.joinsBothSides.holds c

/-- A joiner of either kind can be seen where it stands: `before` is what stands before it, the
nearest character first, `after` what follows, and `through` what letters join across. -/
def joinerFits (through : Table) (before : List Char) (c : Char) (after : List Char) : Bool :=
  before.head?.any (fun b => combiningClass b == viramaClass)
    || (c == nonJoiner && meetsJoining through joinsOnward before
      && meetsJoining through joinsBack after)

/-- Every joiner behind `before` can be seen. -/
def joinersFitBehind (through : Table) : (before : List Char) → List Char → Bool
  | _, [] => true
  | before, c :: cs =>
    ((c != joiner && c != nonJoiner) || joinerFits through before c cs)
      && joinersFitBehind through (c :: before) cs

/-- Every joiner of a label can be seen. -/
def joinersFit (through : Table) (label : List Char) : Bool := joinersFitBehind through [] label

/-! ## Direction -/

/-- What is wrong with the direction of a label; positions count from one. -/
inductive DirectionFlaw where
  /-- it does not begin with a letter -/
  | beginning
  /-- the character at this position does not run along -/
  | stray (rightToLeft : Bool) (position : Nat)
  /-- it holds numbers of two kinds -/
  | mixedNumbers
  /-- it does not end with a letter or a number -/
  | ending
  deriving Repr, DecidableEq, Inhabited

/-- The character belongs to a text from right to left. -/
def runsLeftward (d : Direction) : Bool :=
  d == .rightToLeft || d == .arabicLetter || d == .arabicNumber

/-- The label holds something that runs from right to left. -/
def holdsLeftward (label : List Char) : Bool :=
  label.any fun c => runsLeftward (Direction.ofChar c)

/-- The character may stand in a label of either direction. -/
def isCommon (d : Direction) : Bool :=
  [.europeanNumber, .numberSeparator, .commonSeparator, .numberTerminator, .neutral, .boundary,
    .nonspacing].contains d

/-- The character may stand in a label. -/
def mayStand (rightToLeft : Bool) (d : Direction) : Bool :=
  isCommon d || if rightToLeft then runsLeftward d else d == .leftToRight

/-- The character may end a label. -/
def mayEnd (rightToLeft : Bool) (d : Direction) : Bool :=
  d == .europeanNumber || if rightToLeft then runsLeftward d else d == .leftToRight

/-- The character is of a kind of number. -/
def isNumeral (d : Direction) : Bool := d == .arabicNumber || d == .europeanNumber

/-- What is wrong with a label from a position on: `ends` tells whether what is before it may end a
label, and `number` is the kind of the numbers in it. -/
def directionFlawFrom (rightToLeft : Bool) :
    (position : Nat) → (ends : Bool) → (number : Option Direction) → List Direction →
    Option DirectionFlaw
  | _, ends, _, [] => if ends then none else some .ending
  | position, ends, number, d :: ds =>
    if !mayStand rightToLeft d then some (.stray rightToLeft position)
    else
      let ends := mayEnd rightToLeft d || (ends && d == .nonspacing)
      if rightToLeft && isNumeral d then
        if number.any (· != d) then some .mixedNumbers
        else directionFlawFrom rightToLeft (position + 1) ends (some d) ds
      else directionFlawFrom rightToLeft (position + 1) ends number ds

/-- What is wrong with the direction of a label. -/
def directionFlaw? (label : List Char) : Option DirectionFlaw :=
  let ds := label.map Direction.ofChar
  match ds.head? with
  | some .leftToRight => directionFlawFrom false 1 false none ds
  | some .rightToLeft => directionFlawFrom true 1 false none ds
  | some .arabicLetter => directionFlawFrom true 1 false none ds
  | _ => some .beginning

end CodeReview.Address
