import CodeReview.Text.Canonical

/-!
# The composed form of a text

Texts that differ only in how accented letters are written have one composed form (normalization
form C): every character is taken apart, marks that may stand in any order are put in the order of
their combining classes, and then letters and marks are put together again wherever one character
stands for both.  The syllables of Hangul follow a rule of arithmetic instead of a table.
-/

set_option autoImplicit false

namespace CodeReview.Text

/-! ## Hangul -/

/-- The first syllable, the first leading consonant, the first vowel, and the place before the first
trailing consonant. -/
def syllableBase : Nat := 0xAC00
def leadBase : Nat := 0x1100
def vowelBase : Nat := 0x1161
def tailBase : Nat := 0x11A7

/-- The parts of a syllable. -/
def dismantleSyllable? (c : Char) : Option (List Char) :=
  let n := c.toNat - syllableBase
  if syllableBase ≤ c.toNat ∧ n < 19 * 21 * 28 then
    let tail := n % 28
    some (Char.ofNat (leadBase + n / 588) :: Char.ofNat (vowelBase + n % 588 / 28)
      :: if tail = 0 then [] else [Char.ofNat (tailBase + tail)])
  else none

/-- The syllable of a leading consonant and a vowel, or of a syllable and a trailing consonant. -/
def composeSyllable? (a b : Char) : Option Char :=
  let lead := a.toNat - leadBase
  let vowel := b.toNat - vowelBase
  let syllable := a.toNat - syllableBase
  let tail := b.toNat - tailBase
  if leadBase ≤ a.toNat ∧ lead < 19 ∧ vowelBase ≤ b.toNat ∧ vowel < 21 then
    some (Char.ofNat (syllableBase + (lead * 21 + vowel) * 28))
  else if syllableBase ≤ a.toNat ∧ syllable < 19 * 21 * 28 ∧ syllable % 28 = 0
      ∧ tailBase < b.toNat ∧ tail < 28 then
    some (Char.ofNat (a.toNat + tail))
  else none

/-! ## Taking apart -/

/-- The two parts of a composed character. -/
def parts? (c : Char) : Option (Char × Char) :=
  match composites.image? c with
  | some [a, b] => some (a, b)
  | _ => none

/-- The most composed characters that are the first part of one another. -/
def maxComposed : Nat := 4

/-- A character taken apart, and its first part again, so many times. -/
def dismantle : (times : Nat) → Char → List Char
  | 0, c => [c]
  | times + 1, c =>
    match parts? c with
    | some (a, b) => dismantle times a ++ [b]
    | none => ((dismantleSyllable? c).or (dismantled.image? c)).getD [c]

/-- A mark before a text in which marks are in order: it passes those of lower classes. -/
def insertMark (c : Char) : List Char → List Char
  | [] => [c]
  | d :: ds =>
    if combiningClass d = 0 ∨ combiningClass c ≤ combiningClass d then c :: d :: ds
    else d :: insertMark c ds

/-- A text with its marks in order. -/
def orderMarks : List Char → List Char
  | [] => []
  | c :: cs => if combiningClass c = 0 then c :: orderMarks cs else insertMark c (orderMarks cs)

/-- A text with every character taken apart. -/
def decomposed (cs : List Char) : List Char := orderMarks (cs.flatMap (dismantle maxComposed))

/-! ## Putting together -/

/-- The run of a table, of one character, with this image. -/
def composite? (a b : Char) : Option Char :=
  (composites.find? fun r => r.image == [a.toNat, b.toNat]).map fun r => Char.ofNat r.first

/-- The character that two others make. -/
def compose? (a b : Char) : Option Char := (composeSyllable? a b).or (composite? a b)

/-- Put marks together with the letter before them.  `kept` holds the marks behind the letter that
stayed, the last one first, and `last` is the class of the last one: a mark reaches the letter only
past marks of lower classes. -/
def composeFrom (letter : Char) (kept : List Char) (last : Nat) : List Char → List Char
  | [] => letter :: kept.reverse
  | c :: cs =>
    let k := combiningClass c
    let reached := kept.isEmpty || last < k
    match if reached then compose? letter c else none with
    | some composed => composeFrom composed kept last cs
    | none =>
      if k = 0 then letter :: kept.reverse ++ composeFrom c [] 0 cs
      else composeFrom letter (c :: kept) k cs

/-- The composed form of a text. -/
def composed (cs : List Char) : List Char :=
  match decomposed cs with
  | [] => []
  | c :: cs => composeFrom c [] 0 cs

/-- The text is its own composed form. -/
def isComposed (cs : List Char) : Bool := composed cs == cs

end CodeReview.Text
