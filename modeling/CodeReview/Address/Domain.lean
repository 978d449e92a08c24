import CodeReview.Address.Label
import CodeReview.Address.Mapping
import CodeReview.Address.Punycode
import CodeReview.Text.Composition
import CodeReview.Text.Mark
import CodeReview.Text.Search

/-!
# Names as browsers read them

A browser takes a name in whatever way it is written and looks up its ASCII form
(`Domain.toAscii?`).  Characters that count as others are replaced, the whole is composed
(`plain?`), and each label that is not in ASCII yet is written in Punycode behind `xn--`.  A label
that comes with `xn--` already has to stand for characters that the first two steps would have left
alone.

Against a registry a browser is lenient: hyphens may stand anywhere, and a label may hold any
character that is kept.
-/

set_option autoImplicit false

namespace CodeReview.Address.Domain

open CodeReview.Text (isMark composed isComposed startsWith after?)

/-! ## Characters -/

/-- What a character of a name is taken as; none if it is in no name. -/
def plainChar? (c : Char) : Option (List Char) :=
  if kept.holds c then some [c]
  else if ignored.holds c then some []
  else mapped.image? c

/-- A name in its plain form: each character replaced by what it is taken as, and all of it
composed. -/
def plain? (name : List Char) : Option (List Char) :=
  (name.mapM plainChar?).map fun cs => composed cs.flatten

/-! ## Labels -/

/-- The longest label that is encoded and the longest code that is decoded. -/
def maxEncoded : Nat := 1000
def maxDecoded : Nat := 2000

/-- The characters are such as a code stands for: some are not in ASCII, none would be taken as
another, and they are no code themselves. -/
def needsCode (label : List Char) : Bool :=
  !isAscii label && label.all kept.holds && isComposed label && !startsWith Punycode.mark label

/-- The characters that a code stands for. -/
def decodeLabel? (code : List Char) : Option (List Char) :=
  if maxDecoded < code.length || code.getLast? == some '-' then none
  else if code.head? == some '-' && !code.tail.contains '-' then none
  else (Punycode.decode? code).filter needsCode

/-- The characters of a label; one that comes in Punycode is decoded. -/
def readLabel? (label : List Char) : Option (List Char) :=
  match after? Punycode.mark label with
  | none => some label
  | some code => if isAscii code then decodeLabel? code else none

/-- The label does not begin with a mark, and its joiners can be seen. -/
def isSoundLabel (label : List Char) : Bool :=
  !label.head?.any isMark && joinersFit Text.joinedThrough label

/-- The labels run in one direction each, if one of them runs from right to left. -/
def runsStraight (labels : List (List Char)) : Bool :=
  !labels.any holdsLeftward || labels.all fun l => l.isEmpty || (directionFlaw? l).isNone

/-- A label in ASCII. -/
def encodeLabel? (label : List Char) : Option (List Char) :=
  if isAscii label then some label
  else if maxEncoded < label.length then none
  else some (Punycode.mark ++ Punycode.encode label)

/-- A name in ASCII. -/
def toAscii? (name : List Char) : Option (List Char) := do
  let labels ← ((← plain? name).splitOn '.').mapM readLabel?
  if labels.all isSoundLabel && runsStraight labels then
    (labels.mapM encodeLabel?).map ['.'].intercalate
  else none

end CodeReview.Address.Domain
