import CodeReview.Json.Value
import CodeReview.Number.Shortest
import CodeReview.Text.Quoted

/-!
# Writing JSON

A value is written on one line, with a blank behind each comma and colon (`Layout.inline`) or with
none (`Layout.compact`), or over many (`Layout.indented`: one item a line, two blanks for each
container around it).  In strings the quote, the backslash and the characters below U+0020 are
escaped; every other character stands for itself.
-/

set_option autoImplicit false

namespace CodeReview.Json

open CodeReview.Text

/-- How the parts of a container are spaced.  A `step` of `none` puts them on one line, `some n`
each on a line of its own with `n` blanks for every container around it; `isLoose` tells whether a
blank stands behind colons, and behind commas within a line. -/
structure Layout where
  step : Option Nat
  isLoose : Bool
  deriving Repr, DecidableEq

/-- One line. -/
def Layout.inline : Layout := ⟨none, true⟩

/-- One line without blanks. -/
def Layout.compact : Layout := ⟨none, false⟩

/-- One item a line, two blanks for each level. -/
def Layout.indented : Layout := ⟨some 2, true⟩

/-- What stands behind an opening and before a closing bracket. -/
def Layout.edge (layout : Layout) (level : Nat) : List Char :=
  match layout.step with
  | none => []
  | some n => '\n' :: List.replicate (n * level) ' '

/-- What stands behind a colon. -/
def Layout.behindColon (layout : Layout) : List Char := if layout.isLoose then [' '] else []

/-- What stands behind a comma. -/
def Layout.behindComma (layout : Layout) (level : Nat) : List Char :=
  match layout.step with
  | none => layout.behindColon
  | some n => '\n' :: List.replicate (n * level) ' '

/-- A character of a string literal. -/
def literalChar (c : Char) : List Char :=
  if c = '"' ∨ c = '\\' then ['\\', c]
  else if c = '\n' then ['\\', 'n']
  else if c = '\r' then ['\\', 'r']
  else if c = '\t' then ['\\', 't']
  else if c = '\x08' then ['\\', 'b']
  else if c = '\x0c' then ['\\', 'f']
  else if c.toNat < 32 then '\\' :: 'u' :: hexDigits 4 c.toNat
  else [c]

/-- A string literal. -/
def literal (s : String) : List Char := '"' :: s.toList.flatMap literalChar ++ ['"']

/-- A real: the shortest decimal that reads back, or one of the three words. -/
def realChars : Double → List Char
  | .nan => "NaN".toList
  | .infinite negative => (if negative then "-Infinity" else "Infinity").toList
  | x => x.text.toList

mutual

/-- A value at a level. -/
def Value.chars (layout : Layout) (level : Nat) : Value → List Char
  | .null => "null".toList
  | .bool b => (if b then "true" else "false").toList
  | .int n => (toString n).toList
  | .real x => realChars x
  | .str s => literal s
  | .arr [] => "[]".toList
  | .arr (v :: vs) =>
    '[' :: layout.edge (level + 1) ++ Value.chars layout (level + 1) v
      ++ itemsChars layout (level + 1) vs ++ layout.edge level ++ [']']
  | .obj [] => ['\x7b', '\x7d']
  | .obj ((name, v) :: fields) =>
    '\x7b' :: layout.edge (level + 1) ++ literal name ++ ':' :: layout.behindColon
      ++ Value.chars layout (level + 1) v ++ fieldsChars layout (level + 1) fields
      ++ layout.edge level ++ ['\x7d']

/-- The further items of an array, each behind a comma. -/
def itemsChars (layout : Layout) (level : Nat) : List Value → List Char
  | [] => []
  | v :: vs =>
    ',' :: layout.behindComma level ++ Value.chars layout level v ++ itemsChars layout level vs

/-- The further fields of an object, each behind a comma. -/
def fieldsChars (layout : Layout) (level : Nat) : List (String × Value) → List Char
  | [] => []
  | (name, v) :: fields =>
    ',' :: layout.behindComma level ++ literal name ++ ':' :: layout.behindColon
      ++ Value.chars layout level v ++ fieldsChars layout level fields

end

/-- A value on one line. -/
def Value.inline (v : Value) : String := String.ofList (v.chars .inline 0)

/-- A value on one line without blanks. -/
def Value.compact (v : Value) : String := String.ofList (v.chars .compact 0)

/-- A value over many lines. -/
def Value.indented (v : Value) : String := String.ofList (v.chars .indented 0)

/-! ## What cannot be written -/

mutual

/-- The value has no NaN and no infinity, which JSON proper has no words for. -/
def Value.isFinite : Value → Bool
  | .real .nan => false
  | .real (.infinite _) => false
  | .arr items => areFinite items
  | .obj fields => haveFinite fields
  | _ => true

/-- All of some values are finite. -/
def areFinite : List Value → Bool
  | [] => true
  | v :: vs => v.isFinite && areFinite vs

/-- The values of all fields are finite. -/
def haveFinite : List (String × Value) → Bool
  | [] => true
  | (_, v) :: fields => v.isFinite && haveFinite fields

end

end CodeReview.Json
