/-!
# Why a text is not read as JSON

Two kinds of obstacle.  A *fault* is a place where the text departs from the grammar
(`Json.Fault`): its cause, and the place as a character offset, a line and a column.  A *limit*
(`Json.Limit`) is met by text that follows the grammar: an integer with too many digits, or
containers nested too deep.  Faults invite a repair of the text; limits do not.
-/

set_option autoImplicit false

namespace CodeReview.Json

/-- The ways a text departs from the grammar. -/
inductive Cause where
  | byteOrderMark
  | valueExpected
  | nameExpected
  | colonExpected
  | commaExpected
  | textAfterValue
  | stringNotClosed
  | controlCharacter
  | unknownEscape
  | badUnicodeEscape
  deriving Repr, DecidableEq, Inhabited

/-- The two kinds of container. -/
inductive Container where
  | array
  | object
  deriving Repr, DecidableEq, Inhabited

/-- The limits on what is read. -/
inductive Limit where
  /-- an integer with this many digits, more than the most that are read -/
  | digits (count : Nat)
  /-- a container opened inside too many others -/
  | nesting (container : Container)
  deriving Repr, DecidableEq, Inhabited

/-- A departure from the grammar and its place: `offset` counts characters from zero, `line` and
`column` from one. -/
structure Fault where
  cause : Cause
  offset : Nat
  line : Nat
  column : Nat
  deriving Repr, DecidableEq, Inhabited

/-- Why reading ends without a value. -/
inductive Obstacle where
  | fault (f : Fault)
  | limit (l : Limit)
  deriving Repr, DecidableEq, Inhabited

/-- The wording of a cause. -/
def Cause.message : Cause → String
  | byteOrderMark => "Unexpected UTF-8 BOM (decode using utf-8-sig)"
  | valueExpected => "Expecting value"
  | nameExpected => "Expecting property name enclosed in double quotes"
  | colonExpected => "Expecting ':' delimiter"
  | commaExpected => "Expecting ',' delimiter"
  | textAfterValue => "Extra data"
  | stringNotClosed => "Unterminated string starting at"
  | controlCharacter => "Invalid control character at"
  | unknownEscape => "Invalid \\escape"
  | badUnicodeEscape => "Invalid \\uXXXX escape"

/-- The wording of a fault. -/
def Fault.message (f : Fault) : String :=
  s!"{f.cause.message}: line {f.line} column {f.column} (char {f.offset})"

/-- The word for a container. -/
def Container.word : Container → String
  | array => "array"
  | object => "object"

/-- The wording of a limit. -/
def Limit.message : Limit → String
  | digits count =>
    s!"Exceeds the limit (4300 digits) for integer string conversion: value has {count} digits; "
      ++ "use sys.set_int_max_str_digits() to increase the limit"
  | nesting container =>
    s!"maximum recursion depth exceeded while decoding a JSON {container.word} "
      ++ "from a unicode string"

/-- The fault at an offset of a text: lines end at line feeds. -/
def Fault.at (cause : Cause) (offset : Nat) (text : List Char) : Fault :=
  let before := text.take offset
  { cause, offset
    line := before.count '\n' + 1
    column := (before.reverse.takeWhile (· ≠ '\n')).length + 1 }

end CodeReview.Json
