import CodeReview.Json.Fault
import CodeReview.Json.Value
import CodeReview.Number.Numeral
import CodeReview.Text.Surrogate

/-!
# Reading JSON

`Json.read` reads one value that fills a text.  The grammar is JSON's, with the three words `NaN`,
`Infinity` and `-Infinity` as further numbers.  Integers of more than `Numeral.maxDigits` digits
and containers inside more than `maxDepth` others meet a limit.

Every reader takes the text from its place on and returns what it leaves, so a place is known by
how much text is left there; only `read` turns that into an offset (`Stop.toObstacle`).

## What is here

* `readString` — the characters of a string literal, stand-ins for unpaired surrogates included;
* `readNumber` — a number, integers and reals told apart;
* `readItems`, `readFields` — the inside of a container, given a reader for the values in it;
* `readValue` — a value; its first argument is the number of containers that may still be opened;
* `read` — a whole text;
* `spareFor` — the characters that may stand in for unpaired surrogates.
-/

set_option autoImplicit false

namespace CodeReview.Json

open CodeReview.Text

/-- Why a reader stopped; `left` is the length of the text from the faulty place on. -/
inductive Stop where
  | fault (cause : Cause) (left : Nat)
  | limit (l : Limit)
  deriving Repr, DecidableEq, Inhabited

/-- What a reader returns: a result and the text it leaves. -/
abbrev Reader (α : Type) := List Char → Except Stop (α × List Char)

/-- The blanks between tokens. -/
def isSpace (c : Char) : Bool := c == ' ' || c == '\t' || c == '\n' || c == '\r'

/-- The text from its first token on. -/
def skipSpace (cs : List Char) : List Char := cs.dropWhile isSpace

theorem length_skipSpace_le (cs : List Char) : (skipSpace cs).length ≤ cs.length :=
  (List.dropWhile_sublist isSpace).length_le

/-! ## Strings -/

/-- The value of a hexadecimal digit. -/
def hexValue? (c : Char) : Option Nat :=
  if c.isDigit then some (c.toNat - 48)
  else if 'a' ≤ c ∧ c ≤ 'f' then some (c.toNat - 87)
  else if 'A' ≤ c ∧ c ≤ 'F' then some (c.toNat - 55)
  else none

/-- The code unit that four hexadecimal digits spell. -/
def codeUnit? (a b c d : Char) : Option Nat := do
  some (((← hexValue? a) * 16 + (← hexValue? b)) * 256 + (← hexValue? c) * 16 + (← hexValue? d))

/-- The character a short escape stands for. -/
def shortEscape? : Char → Option Char
  | '"' => some '"'
  | '\\' => some '\\'
  | '/' => some '/'
  | 'b' => some '\x08'
  | 'f' => some '\x0c'
  | 'n' => some '\n'
  | 'r' => some '\r'
  | 't' => some '\t'
  | _ => none

/-- A unicode escape from its `u` on.  Four hexadecimal digits are needed and a character behind
them; the escape of a lead surrogate takes the escape behind it along if that completes the
pair. -/
def readUnicodeEscape [Spare] (cs : List Char) : Except Stop (Char × List Char) :=
  match cs with
  | _ :: a :: b :: c :: d :: x :: rest =>
    match codeUnit? a b c d with
    | none => .error (.fault .badUnicodeEscape cs.length)
    | some unit =>
      if isLeadUnit unit then
        match x :: rest with
        | '\\' :: 'u' :: a' :: b' :: c' :: d' :: y :: rest' =>
          match codeUnit? a' b' c' d' with
          | none => .error (.fault .badUnicodeEscape (x :: rest).tail.length)
          | some unit' =>
            if isTrailUnit unit' then .ok (pairChar unit unit', y :: rest')
            else .ok (unitChar unit, x :: rest)
        | _ => .ok (unitChar unit, x :: rest)
      else .ok (unitChar unit, x :: rest)
  | _ => .error (.fault .badUnicodeEscape cs.length)

theorem length_readUnicodeEscape_lt [Spare] {cs rest : List Char} {c : Char}
    (h : readUnicodeEscape cs = .ok (c, rest)) : rest.length < cs.length := by
  unfold readUnicodeEscape at h
  repeat' split at h
  all_goals simp_all
  all_goals
    obtain ⟨_, rfl⟩ := h
    simp
    try omega

/-- The characters of a string literal from behind its opening quote to its closing quote;
`opening` is the text from the opening quote on. -/
def readString [Spare] (opening : List Char) (spelled : List Char) (cs : List Char) :
    Except Stop (String × List Char) :=
  match cs with
  | [] => .error (.fault .stringNotClosed opening.length)
  | '"' :: rest => .ok (String.ofList spelled.reverse, rest)
  | '\\' :: rest =>
    match rest with
    | [] => .error (.fault .stringNotClosed opening.length)
    | e :: more =>
      if e = 'u' then
        match _h : readUnicodeEscape (e :: more) with
        | .error stop => .error stop
        | .ok (c, rest) => readString opening (c :: spelled) rest
      else
        match shortEscape? e with
        | some c => readString opening (c :: spelled) more
        | none => .error (.fault .unknownEscape cs.length)
  | c :: rest =>
    if c.toNat < 32 then .error (.fault .controlCharacter cs.length)
    else readString opening (c :: spelled) rest
termination_by cs.length
decreasing_by
  all_goals
    first
      | (have shorter := length_readUnicodeEscape_lt (by assumption); simp_all; omega)
      | (simp_all; try omega)

/-! ## Numbers -/

/-- The digits behind a point, if a point and a digit come next. -/
def readFraction (cs : List Char) : Option (List Char) × List Char :=
  match cs with
  | '.' :: d :: rest =>
    if d.isDigit then
      (some (d :: rest.takeWhile Char.isDigit), rest.dropWhile Char.isDigit)
    else (none, cs)
  | _ => (none, cs)

/-- The exponent, if `e`, perhaps a sign, and a digit come next. -/
def readExponent (cs : List Char) : Option Int × List Char :=
  match cs with
  | c :: rest =>
    if c = 'e' ∨ c = 'E' then
      let (negative, rest) := Numeral.readSign rest
      let ds := rest.takeWhile Char.isDigit
      if ds.isEmpty then (none, cs)
      else
        let n : Int := digitsValue ds
        (some (if negative then -n else n), rest.dropWhile Char.isDigit)
    else (none, cs)
  | [] => (none, cs)

/-- The digits before the point: a single zero, or digits that do not start with one. -/
def readWhole (cs : List Char) : Option (List Char × List Char) :=
  match cs with
  | '0' :: rest => some (['0'], rest)
  | c :: rest =>
    if c.isDigit then some (c :: rest.takeWhile Char.isDigit, rest.dropWhile Char.isDigit)
    else none
  | [] => none

/-- A number: without fraction and exponent an integer, else a real. -/
def readNumber (cs : List Char) : Except Stop (Value × List Char) :=
  let (negative, unsigned) := match cs with
    | '-' :: rest => (true, rest)
    | _ => (false, cs)
  match readWhole unsigned with
  | none => .error (.fault .valueExpected cs.length)
  | some (whole, rest) =>
    let (fraction, rest) := readFraction rest
    let (exponent, rest) := readExponent rest
    match fraction, exponent with
    | none, none =>
      if Numeral.maxDigits < whole.length then .error (.limit (.digits whole.length))
      else
        let n : Int := digitsValue whole
        .ok (.int (if negative then -n else n), rest)
    | _, _ =>
      let tail := fraction.getD []
      .ok (.real (Double.ofDecimal negative (digitsValue (whole ++ tail))
        (exponent.getD 0 - tail.length)), rest)

/-! ## Containers -/

/-- The items of an array from behind a bracket or a comma, given a reader of values.  `bound` is a
text no shorter than the one read: every item takes a character at least, so it never runs out. -/
def readItems (value : Reader Value) : (bound : List Char) → (items : List Value) →
    List Char → Except Stop (List Value × List Char)
  | [], _, cs => .error (.fault .valueExpected cs.length)
  | _ :: bound, items, cs =>
    match value cs with
    | .error stop => .error stop
    | .ok (v, rest) =>
      match skipSpace rest with
      | ']' :: rest => .ok ((v :: items).reverse, rest)
      | ',' :: rest => readItems value bound (v :: items) (skipSpace rest)
      | rest => .error (.fault .commaExpected rest.length)

/-- One field from its name on: the name, the colon and the value. -/
def readField [Spare] (value : Reader Value) : Reader (String × Value) := fun cs =>
  match cs with
  | '"' :: rest =>
    match readString cs [] rest with
    | .error stop => .error stop
    | .ok (name, rest) =>
      match skipSpace rest with
      | ':' :: rest =>
        match value (skipSpace rest) with
        | .error stop => .error stop
        | .ok (v, rest) => .ok ((name, v), rest)
      | rest => .error (.fault .colonExpected rest.length)
  | _ => .error (.fault .nameExpected cs.length)

/-- The fields of an object from behind a brace or a comma, given a reader of values; `bound` is as
for `readItems`. -/
def readFields [Spare] (value : Reader Value) : (bound : List Char) → (fields : Fields) →
    List Char → Except Stop (Fields × List Char)
  | [], _, cs => .error (.fault .nameExpected cs.length)
  | _ :: bound, fields, cs =>
    match readField value cs with
    | .error stop => .error stop
    | .ok ((name, v), rest) =>
      match skipSpace rest with
      | '}' :: rest => .ok (fields.put name v, rest)
      | ',' :: rest => readFields value bound (fields.put name v) (skipSpace rest)
      | rest => .error (.fault .commaExpected rest.length)

/-- The array behind an opening bracket. -/
def readArray (value : Reader Value) (cs : List Char) : Except Stop (Value × List Char) :=
  match skipSpace cs with
  | ']' :: rest => .ok (.arr [], rest)
  | rest =>
    match readItems value cs [] rest with
    | .error stop => .error stop
    | .ok (items, rest) => .ok (.arr items, rest)

/-- The object behind an opening brace. -/
def readObject [Spare] (value : Reader Value) (cs : List Char) : Except Stop (Value × List Char) :=
  match skipSpace cs with
  | '}' :: rest => .ok (.obj [], rest)
  | rest =>
    match readFields value cs [] rest with
    | .error stop => .error stop
    | .ok (fields, rest) => .ok (.obj fields, rest)

/-! ## Values -/

/-- A value that is neither a string nor a container. -/
def readPlain (cs : List Char) : Except Stop (Value × List Char) :=
  match cs with
  | 'n' :: 'u' :: 'l' :: 'l' :: rest => .ok (.null, rest)
  | 't' :: 'r' :: 'u' :: 'e' :: rest => .ok (.bool true, rest)
  | 'f' :: 'a' :: 'l' :: 's' :: 'e' :: rest => .ok (.bool false, rest)
  | 'N' :: 'a' :: 'N' :: rest => .ok (.real .nan, rest)
  | 'I' :: 'n' :: 'f' :: 'i' :: 'n' :: 'i' :: 't' :: 'y' :: rest =>
    .ok (.real (.infinite false), rest)
  | '-' :: 'I' :: 'n' :: 'f' :: 'i' :: 'n' :: 'i' :: 't' :: 'y' :: rest =>
    .ok (.real (.infinite true), rest)
  | _ => readNumber cs

/-- A value, with at most `depth` further containers opened inside one another. -/
def readValue [Spare] : (depth : Nat) → Reader Value
  | depth, cs =>
    match cs with
    | '"' :: rest =>
      match readString cs [] rest with
      | .error stop => .error stop
      | .ok (s, rest) => .ok (.str s, rest)
    | '{' :: rest =>
      match depth with
      | 0 => .error (.limit (.nesting .object))
      | depth + 1 => readObject (readValue depth) rest
    | '[' :: rest =>
      match depth with
      | 0 => .error (.limit (.nesting .array))
      | depth + 1 => readArray (readValue depth) rest
    | _ => readPlain cs

/-- The number of containers that may be open at once. -/
def maxDepth [spare : Spare] : Nat := spare.room.depth

theorem le_maxDepth [spare : Spare] {n : Nat} (h : n ≤ 500) : n ≤ maxDepth :=
  Nat.le_trans h spare.room.enough

theorem maxDepth_eq_succ [Spare] : maxDepth = maxDepth - 1 + 1 :=
  (Nat.sub_add_cancel (le_maxDepth (by decide))).symm

/-- The obstacle a stop means, in the text that was read. -/
def Stop.toObstacle (text : List Char) : Stop → Obstacle
  | fault cause left => .fault (.at cause (text.length - left) text)
  | limit l => .limit l

/-- The text does not start with the mark that bytes may start with to tell their encoding. -/
def refuseMark (cs : List Char) : Except Stop Unit :=
  if cs.head? = some '\ufeff' then .error (.fault .byteOrderMark cs.length) else .ok ()

/-- The value that fills a text. -/
def readChars [Spare] (cs : List Char) : Except Stop Value := do
  refuseMark cs
  match readValue maxDepth (skipSpace cs) with
  | .error stop => .error stop
  | .ok (v, rest) =>
    match skipSpace rest with
    | [] => .ok v
    | rest => .error (.fault .textAfterValue rest.length)

/-- The value that fills a text, or what stands in its way. -/
def read [Spare] (text : String) : Except Obstacle Value :=
  match readChars text.toList with
  | .ok v => .ok v
  | .error stop => .error (stop.toObstacle text.toList)

/-! ## Spare characters -/

/-- The character that a text starts to spell by the escapes of a pair. -/
def escapedPair? : List Char → Option Char
  | '\\' :: 'u' :: a :: b :: c :: d :: '\\' :: 'u' :: a' :: b' :: c' :: d' :: _ => do
    let lead ← codeUnit? a b c d
    let trail ← codeUnit? a' b' c' d'
    if isLeadUnit lead && isTrailUnit trail then some (pairChar lead trail) else none
  | _ => none

/-- The characters that a text spells anywhere by the escapes of a pair, and those found before. -/
def escapedPairs (found : List Char) : List Char → List Char
  | [] => found
  | c :: cs => escapedPairs ((escapedPair? (c :: cs)).toList ++ found) cs

/-- Spare characters for reading some texts: neither in them nor spelled by them. -/
@[reducible] def spareFor [Room] (texts : List String) : Spare :=
  .avoiding (texts.flatMap fun t => escapedPairs t.toList t.toList)

end CodeReview.Json
