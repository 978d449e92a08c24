import CodeReview.Number.Numeral
import CodeReview.Record.Checked
import CodeReview.Text.Search

/-!
# Numerals in records

A record accepts a string where a number is asked for, by a grammar of its own: ASCII digits only,
white space around the numeral, single underscores inside.  An integer may carry leading zeros and
a fraction of zeros; a real is any decimal or one of the words for infinity and NaN.
-/

set_option autoImplicit false

namespace CodeReview.Record

open CodeReview.Text

/-- A text without its underscores, if it has some, none at an end and no two together. -/
def dropUnderscores? (cs : List Char) : Option (List Char) :=
  if cs.head? == some '_' || cs.getLast? == some '_' || !cs.contains '_'
      || occursIn ['_', '_'] cs then none
  else some (cs.filter (· != '_'))

/-- The integer that a plain numeral stands for: perhaps a minus, then digits without an idle zero
in front.  Too many digits are told apart from a text that is no numeral; the minus is none of
them. -/
def plainInt (cs : List Char) : Except Kind Int :=
  let (negative, ds) := match cs with
    | '-' :: ds => (true, ds)
    | ds => (false, ds)
  let digits := ds.takeWhile Char.isDigit
  if digits.isEmpty || hasIdleZero digits then .error .intParsing
  else if Numeral.maxDigits < digits.length then .error .intParsingSize
  else if digits.length < ds.length then .error .intParsing
  else
    let n : Int := digitsValue digits
    .ok (if negative then -n else n)
where
  /-- A zero with a digit behind it. -/
  hasIdleZero : List Char → Bool
    | '0' :: _ :: _ => true
    | _ => false

/-- What is left of a numeral that started with a zero, `last` being the character just passed:
zeros and underscores go, a digit or a minus keeps the rest, a point keeps the zero before it. -/
def dropLeadingZeros? (last : Char) : List Char → Option (List Char)
  | [] => some [last]
  | c :: cs =>
    if c = '0' ∨ c = '_' then dropLeadingZeros? c cs
    else if c.isDigit || c = '-' then some (c :: cs)
    else if c = '.' then some (last :: c :: cs)
    else none

/-- A numeral from its first significant character on. -/
def significant? : List Char → Option (List Char)
  | [] => none
  | c :: cs =>
    if c = '0' then dropLeadingZeros? '0' cs
    else if c.isDigit || c = '-' then some (c :: cs)
    else none

/-- A numeral without a point and zeros at its end. -/
def dropZeroFraction (cs : List Char) : List Char :=
  let fraction := (cs.dropWhile (· != '.')).drop 1
  if !fraction.isEmpty && fraction.all (· == '0') then cs.takeWhile (· != '.') else cs

/-- A sign, and the numeral behind it; a plus has no minus behind it. -/
def splitSign? : List Char → Option (List Char × List Char)
  | '+' :: '-' :: _ => none
  | '+' :: cs => some ([], cs)
  | '-' :: cs => some (['-'], cs)
  | cs => some ([], cs)

/-- A numeral without the liberties a string may take: blanks around it, a plus, zeros in front, a
fraction of zeros, underscores. -/
def tidyInt? (s : String) : Option (List Char) := do
  let (sign, cs) ← splitSign? (trimBy isWhiteSpace s.toList)
  let cs := dropZeroFraction (← significant? cs)
  some (sign ++ (dropUnderscores? cs).getD cs)

/-- The integer a string stands for: a plain numeral, or one that is plain once it is tidied.  Only
a string that takes no liberties has too many digits; any other is then no numeral at all. -/
def parseInt (s : String) : Checked Int :=
  match plainInt s.toList with
  | .ok n => .valid n
  | .error .intParsingSize => .fail .intParsingSize
  | .error _ =>
    match (tidyInt? s).map plainInt with
    | some (.ok n) => .valid n
    | _ => .fail .intParsing

/-- The real a string stands for. -/
def parseDouble (s : String) : Checked Double :=
  let plain := Numeral.readSigned? (trimBy isWhiteSpace s.toList)
  let spaced := (dropUnderscores? s.toList).bind Numeral.readSigned?
  match plain.or spaced with
  | some x => .valid x
  | none => .fail .floatParsing

/-- The truth value a string stands for. -/
def parseBool (s : String) : Checked Bool :=
  let word := s.toList.map Char.toLower
  if ["1", "t", "true", "y", "yes", "on"].any (·.toList == word) then .valid true
  else if ["0", "f", "false", "n", "no", "off"].any (·.toList == word) then .valid false
  else .fail .boolParsing

end CodeReview.Record
