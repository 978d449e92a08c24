import CodeReview.Json.Writer

/-!
# Values shown in prose

A second notation for values, for the rare place where a value that should have been a text is
turned into one: words for null and the truth values with a capital, strings as quoted text, the
items of a container behind commas.
-/

set_option autoImplicit false

namespace CodeReview.Json

mutual

/-- A value in the notation of prose. -/
def Value.shown : Value → String
  | .null => "None"
  | .bool b => if b then "True" else "False"
  | .int n => toString n
  | .real x => x.text
  | .str s => Text.quoted s
  | .arr [] => "[]"
  | .arr (v :: vs) => "[" ++ v.shown ++ shownItems vs ++ "]"
  | .obj [] => "\x7b\x7d"
  | .obj ((name, v) :: fields) =>
    "\x7b" ++ Text.quoted name ++ ": " ++ v.shown ++ shownFields fields ++ "\x7d"

/-- The further items of an array. -/
def shownItems : List Value → String
  | [] => ""
  | v :: vs => ", " ++ v.shown ++ shownItems vs

/-- The further fields of an object. -/
def shownFields : List (String × Value) → String
  | [] => ""
  | (name, v) :: fields => ", " ++ Text.quoted name ++ ": " ++ v.shown ++ shownFields fields

end

end CodeReview.Json
