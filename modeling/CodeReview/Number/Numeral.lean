import CodeReview.Number.Double
import CodeReview.Text.Blank
import CodeReview.Text.Digit

/-!
# Numerals in text

A reply may write a number as a string.  This file reads such strings: `readInt?` an integer and
`readDouble?` a real.  Both accept blanks around the numeral, a sign, decimal digits of any
script, and single underscores between digits.  An integer has at most 4300 digits, leading zeros
included; a real may have a point, an exponent, or be one of the words for infinity and NaN.

Of the ASCII characters only the space and U+0009 … U+000D count as blank here.
-/

set_option autoImplicit false

namespace CodeReview.Numeral

open CodeReview.Text

/-- The longest integer, in digits, that is read or written. -/
def maxDigits : Nat := 4300

/-- A character as the grammar of numerals sees it: digits of any script as ASCII digits, blanks
above ASCII as spaces, and no other character above U+007E. -/
def plainChar? (c : Char) : Option Char :=
  if c.toNat < 127 then some c
  else if isBlank c then some ' '
  else (digitValue? c).map Nat.digitChar

/-- Every character as the grammar sees it; a text of ASCII characters is left alone. -/
def plain? (cs : List Char) : Option (List Char) :=
  if cs.all fun c => c.toNat < 128 then some cs else cs.mapM plainChar?

/-- The space and U+0009 … U+000D. -/
def isPadding (c : Char) : Bool := c == ' ' || (9 ≤ c.toNat && c.toNat ≤ 13)

/-- A leading sign: whether it is a minus, and what follows. -/
def readSign : List Char → Bool × List Char
  | '-' :: cs => (true, cs)
  | '+' :: cs => (false, cs)
  | cs => (false, cs)

/-- The text without its underscores, if each of them stands between two digits. -/
def dropUnderscores? : List Char → Option (List Char) :=
  go none
where
  /-- `before` is the character before the text. -/
  go (before : Option Char) : List Char → Option (List Char)
    | [] => some []
    | '_' :: c :: cs =>
      if before.any Char.isDigit && c.isDigit then (go (some c) cs).map (c :: ·) else none
    | '_' :: [] => none
    | c :: cs => (go (some c) cs).map (c :: ·)

/-- The integer that a text spells. -/
def readInt? (s : String) : Option Int := do
  let cs ← plain? s.toList
  let (negative, cs) := readSign (trimBy isPadding cs)
  let digits ← dropUnderscores? cs
  if digits.isEmpty || !digits.all Char.isDigit || maxDigits < digits.length then none
  else
    let n : Int := digitsValue digits
    some (if negative then -n else n)

/-- Two texts are equal but for the case of ASCII letters. -/
def sameWord (word : String) (cs : List Char) : Bool := cs.map Char.toLower == word.toList

/-- The exponent of a real: nothing, or `e` and a signed run of digits. -/
def readExponent? (cs : List Char) : Option Int :=
  match cs with
  | [] => some 0
  | c :: cs =>
    if c == 'e' || c == 'E' then
      let (negative, ds) := readSign cs
      if ds.isEmpty || !ds.all Char.isDigit then none
      else some (if negative then -(digitsValue ds : Int) else digitsValue ds)
    else none

/-- A real without its sign: digits with at most one point among or beside them, and an
exponent. -/
def readUnsigned? (negative : Bool) (cs : List Char) : Option Double := do
  let whole := cs.takeWhile Char.isDigit
  let rest := cs.dropWhile Char.isDigit
  let (fraction, rest) := match rest with
    | '.' :: r => (r.takeWhile Char.isDigit, r.dropWhile Char.isDigit)
    | r => ([], r)
  if whole.isEmpty && fraction.isEmpty then none
  else
    let exponent ← readExponent? rest
    some (Double.ofDecimal negative (digitsValue (whole ++ fraction)) (exponent - fraction.length))

/-- A real with its sign, or one of the words for infinity and NaN in any case. -/
def readSigned? (cs : List Char) : Option Double :=
  let (negative, cs) := readSign cs
  if sameWord "inf" cs || sameWord "infinity" cs then some (.infinite negative)
  else if sameWord "nan" cs then some .nan
  else readUnsigned? negative cs

/-- The real that a text spells, rounded to binary64. -/
def readDouble? (s : String) : Option Double := do
  let cs ← plain? s.toList
  readSigned? (← dropUnderscores? (trimBy isPadding cs))

end CodeReview.Numeral
