import CodeReview.Address.Label
import CodeReview.Address.Punycode
import CodeReview.Address.Repertoire
import CodeReview.Text.Composition
import CodeReview.Text.LowerCase
import CodeReview.Text.Mark
import CodeReview.Text.Quoted
import CodeReview.Text.Search

/-!
# Names as they are registered

A registered name is kept in ASCII, and every label of it in letters, digits and hyphens; a label
with other characters is written in Punycode behind `xn--`.  `Registry.encode` finds that form of a
name, and `Registry.decode` the characters that it stands for.  Both go by the rules of
registration: a label is composed, keeps its hyphens to the middle, does not begin with a mark,
holds permitted characters only, and runs in one direction.  Unlike a browser, a registry takes
nothing for something else.  Of the ways to spell a label in Punycode it takes the one that
`Punycode.encodePoints` gives, and looks at that before it looks at the label.
-/

set_option autoImplicit false

namespace CodeReview.Address.Registry

open CodeReview.Text (isPrintable isMark isComposed)

/-- A code point as it is named: at least four digits. -/
def pointName (n : Nat) : String :=
  let ds := (Nat.toDigits 16 n).map Char.toUpper
  "U+" ++ String.ofList (List.replicate (4 - ds.length) '0' ++ ds)

/-- A label by its code points, some of which may be no characters. -/
abbrev Label := List Nat

namespace Label

/-- The label of some characters. -/
def ofChars (cs : List Char) : Label := cs.map Char.toNat

/-- The characters of a label.  A code point that is none counts as NUL, which no label may hold
either. -/
def chars (label : Label) : List Char := label.map Char.ofNat

/-- The name of the code point at a position, which counts from one. -/
def pointAt (label : Label) (position : Nat) : String :=
  pointName ((label[position - 1]?).getD 0)

end Label

/-- Why a name cannot be registered; positions count from one. -/
inductive Flaw where
  | emptyName
  | nameTooLong
  | emptyLabel
  | labelTooLong
  | notComposed
  | reservedHyphens
  | outerHyphen
  | leadingMark
  /-- this character is not permitted -/
  | notPermitted (position : Nat) (label : Label)
  /-- this character is not permitted beside its neighbours -/
  | outOfContext (position : Nat) (label : Label)
  /-- this joiner cannot be seen -/
  | idleJoiner (position : Nat) (label : Label)
  /-- what this joiner stands behind has no name -/
  | strangeJoiner (position : Nat) (label : Label)
  /-- the direction of this character is not known -/
  | unknownDirection (position : Nat) (label : Label)
  /-- the label does not run in one direction -/
  | direction (f : DirectionFlaw) (label : Label)
  /-- nothing is behind `xn--` -/
  | nothingEncoded
  /-- an encoded label ends with a hyphen -/
  | encodedHyphen
  /-- what is behind `xn--` is no Punycode -/
  | notEncoded
  /-- what is behind `xn--` is not how its label is written in Punycode -/
  | encodedOtherwise
  deriving Repr, DecidableEq, Inhabited

/-- The wording of a wrong direction. -/
def directionMessage (label : Label) : DirectionFlaw → String
  | .beginning =>
    "First codepoint in label " ++ Text.quotedPoints label ++ " must be directionality L, R or AL"
  | .stray rightToLeft position =>
    let way := if rightToLeft then "right-to-left" else "left-to-right"
    s!"Invalid direction for codepoint at position {position} in a {way} label"
  | .mixedNumbers => "Can not mix numeral types in a right-to-left label"
  | .ending => "Label ends with illegal codepoint directionality"

/-- The wording. -/
def Flaw.message : Flaw → String
  | emptyName => "Empty domain"
  | nameTooLong => "Domain too long"
  | emptyLabel => "Empty Label"
  | labelTooLong => "Label too long"
  | notComposed => "Label must be in Normalization Form C"
  | reservedHyphens => "Label has disallowed hyphens in 3rd and 4th position"
  | outerHyphen => "Label must not start or end with a hyphen"
  | leadingMark => "Label begins with an illegal combining character"
  | notPermitted position label =>
    s!"Codepoint {label.pointAt position} at position {position} of "
      ++ Text.quotedPoints label ++ " not allowed"
  | outOfContext position label =>
    s!"Codepoint {label.pointAt position} not allowed at position {position} in "
      ++ Text.quotedPoints label
  | idleJoiner position label =>
    s!"Joiner {label.pointAt position} not allowed at position {position} in "
      ++ Text.quotedPoints label
  | strangeJoiner position label =>
    s!"Unknown codepoint adjacent to joiner {label.pointAt position} at position {position} in "
      ++ Text.quotedPoints label
  | unknownDirection position label =>
    "Unknown directionality in label " ++ Text.quotedPoints label ++ s!" at position {position}"
  | direction f label => directionMessage label f
  | nothingEncoded => "Malformed A-label, no Punycode eligible content found"
  | encodedHyphen => "A-label must not end with a hyphen"
  | notEncoded => "Invalid A-label"
  | encodedOtherwise => "A-label is not the canonical Punycode encoding of its U-label"

/-! ## Limits -/

/-- The longest label in ASCII, the longest name, and the longest that is looked at at all. -/
def maxLabel : Nat := 63
def maxName : Nat := 253
def maxInput : Nat := 1024

/-- Go on if a condition holds. -/
def require (holds : Bool) (f : Flaw) : Except Flaw Unit := if holds then .ok () else .error f

/-! ## Rules of a label -/

/-- The character is known: it is a joiner or prints. -/
def isKnown (c : Char) : Bool := isPrintable c || Repertoire.joiners.holds c

/-- The two quads, blanks that each have another name. -/
def isQuad (c : Char) : Bool := c.toNat == 0x2000 || c.toNat == 0x2001

/-- The label is composed.  A character that is not known combines with nothing. -/
def checkComposed (label : List Char) : Except Flaw Unit :=
  require (isComposed (label.map fun c => if isKnown c || isQuad c then c else '\x00')) .notComposed

/-- The rules of hyphens. -/
def checkHyphens (label : List Char) : Except Flaw Unit := do
  require ((label.drop 2).take 2 != ['-', '-']) .reservedHyphens
  require (label.head? != some '-' && label.getLast? != some '-') .outerHyphen

/-- The label does not begin with a mark. -/
def checkBeginning (label : List Char) : Except Flaw Unit :=
  require (!label.head?.any fun c => isMark c && isKnown c) .leadingMark

/-- A digit of the Arabic script, and one of its other set of digits. -/
def isArabicDigit (c : Char) : Bool := 0x660 ≤ c.toNat && c.toNat ≤ 0x669
def isOtherArabicDigit (c : Char) : Bool := 0x6F0 ≤ c.toNat && c.toNat ≤ 0x6F9

/-- A character of the scripts of Japanese. -/
def isJapanese (c : Char) : Bool :=
  Repertoire.hiragana.holds c || Repertoire.katakana.holds c || Repertoire.han.holds c

/-- A character that needs certain neighbours has them. -/
def contextFits (label before : List Char) (c : Char) (after : List Char) : Bool :=
  if c = '·' then before.head? == some 'l' && after.head? == some 'l'
  else if c.toNat = 0x375 then after.head?.any Repertoire.greek.holds
  else if c.toNat = 0x5F3 || c.toNat = 0x5F4 then before.head?.any Repertoire.hebrew.holds
  else if c.toNat = 0x30FB then label.any fun d => d != c && isJapanese d
  else if isArabicDigit c then !label.any isOtherArabicDigit
  else if isOtherArabicDigit c then !label.any isArabicDigit
  else false

/-- The character is known by a name. -/
def isNamed (c : Char) : Bool := isKnown c && !Repertoire.nameless.holds c

/-- A joiner stands behind a character that has a name and can be seen. -/
def checkJoiner (label : Label) (before : List Char) (c : Char) (after : List Char) :
    Except Flaw Unit := do
  let position := before.length + 1
  require (before.head?.all isNamed) (.strangeJoiner position label)
  require (joinerFits Text.joinsThrough before c after) (.idleJoiner position label)

/-- A character of a label is permitted where it stands. -/
def checkChar (label : Label) (before : List Char) (c : Char) (after : List Char) :
    Except Flaw Unit :=
  let position := before.length + 1
  if Repertoire.permitted.holds c then .ok ()
  else if Repertoire.joiners.holds c then checkJoiner label before c after
  else if Repertoire.contextual.holds c then
    require (contextFits label.chars before c after) (.outOfContext position label)
  else .error (.notPermitted position label)

/-- The characters of a label behind `before` are permitted. -/
def checkCharsBehind (label : Label) : (before : List Char) → List Char → Except Flaw Unit
  | _, [] => .ok ()
  | before, c :: cs => do
    checkChar label before c cs
    checkCharsBehind label (c :: before) cs

/-- The label runs in one direction; one without letters from right to left does. -/
def checkDirection (label : Label) : Except Flaw Unit :=
  match label.chars.findIdx? fun c => !isKnown c with
  | some i => .error (.unknownDirection (i + 1) label)
  | none =>
    if holdsLeftward label.chars then
      match directionFlaw? label.chars with
      | some f => .error (.direction f label)
      | none => .ok ()
    else .ok ()

/-- A label keeps all rules. -/
def checkLabel (label : Label) : Except Flaw Unit := do
  require (label.length ≤ maxInput) .labelTooLong
  require (!label.isEmpty) .emptyLabel
  require (label.length ≤ maxName + 1) .labelTooLong
  checkComposed label.chars
  checkHyphens label.chars
  checkBeginning label.chars
  checkCharsBehind label [] label.chars
  checkDirection label

/-! ## The two forms of a name -/

/-- The characters that a label in ASCII stands for.  They have one form in Punycode, and what is
behind `xn--` has to be that one. -/
def decodeLabel (label : List Char) : Except Flaw (List Char) := do
  let label := label.map Char.toLower
  match Text.after? Punycode.mark label with
  | none =>
    checkLabel (.ofChars label)
    .ok label
  | some code =>
    require (!code.isEmpty) .nothingEncoded
    require (code.getLast? != some '-') .encodedHyphen
    match Punycode.decodePoints? code with
    | none => .error .notEncoded
    | some decoded =>
      require (Punycode.encodePoints decoded == code) .encodedOtherwise
      checkLabel decoded
      .ok (Label.chars decoded)

/-- The form of a label in ASCII. -/
def encodeLabel (label : List Char) : Except Flaw (List Char) := do
  require (label.length ≤ maxInput) .labelTooLong
  if isAscii label then
    discard (decodeLabel label)
    require (label.length ≤ maxLabel) .labelTooLong
    .ok label
  else
    checkLabel (.ofChars label)
    let encoded := Punycode.mark ++ Punycode.encode label
    require (encoded.length ≤ maxLabel) .labelTooLong
    .ok encoded

/-- The character stands between labels. -/
def isDot (c : Char) : Bool := [0x2E, 0x3002, 0xFF0E, 0xFF61].contains c.toNat

/-- A name with another form of each of its labels; a dot at its end stays. -/
def mapLabels (form : List Char → Except Flaw (List Char)) (name : List Char) :
    Except Flaw (List Char) := do
  require (name.length ≤ maxName + 1) .nameTooLong
  require (!name.isEmpty) .emptyName
  let labels := name.splitOnP isDot
  let endsInDot := labels.getLast? == some []
  let forms ← (if endsInDot then labels.dropLast else labels).mapM form
  let name := ['.'].intercalate forms
  .ok (if endsInDot then name ++ ['.'] else name)

/-- The form of a name in ASCII. -/
def encode (name : List Char) : Except Flaw (List Char) := do
  let encoded ← mapLabels encodeLabel name
  require (encoded.length ≤ if encoded.getLast? = some '.' then maxName + 1 else maxName)
    .nameTooLong
  .ok encoded

/-- The characters that a name in ASCII stands for. -/
def decode (name : List Char) : Except Flaw (List Char) := mapLabels decodeLabel name

end CodeReview.Address.Registry
