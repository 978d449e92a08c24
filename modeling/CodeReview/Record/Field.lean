import CodeReview.Json.Value
import CodeReview.Record.Numeral

/-!
# The values of fields

Readers of single values, generous where no meaning is lost: a whole real or a numeral in a string
is an integer, the integers 0 and 1 are truth values.  Then readers of fields: required, or with a
default.
-/

set_option autoImplicit false

namespace CodeReview.Record

open CodeReview.Json

/-- A reader of one value. -/
abbrev ValueReader (α : Type) := Value → Checked α

/-- A text. -/
def text : ValueReader String
  | .str s => .valid s
  | _ => .fail .stringType

/-- The least and the greatest integer, exclusively, that a real may stand for. -/
def realBound : Int := Double.pow2 63

/-- A real as an integer. -/
def intOfReal (x : Double) : Checked Int :=
  match x.truncate? with
  | none => .fail .finiteNumber
  | some n =>
    if !x.isInteger then .fail .intFromFloat
    else if -realBound < n ∧ n < realBound then .valid n
    else .fail .intParsingSize

/-- An integer. -/
def int : ValueReader Int
  | .int n => .valid n
  | .bool b => .valid (if b then 1 else 0)
  | .real x => intOfReal x
  | .str s => parseInt s
  | _ => .fail .intType

/-- A truth value from an integer. -/
def boolOfInt (n : Int) : Checked Bool :=
  if n = 0 then .valid false else if n = 1 then .valid true else .fail .boolParsing

/-- A truth value. -/
def bool : ValueReader Bool
  | .bool b => .valid b
  | .int n => if -realBound ≤ n ∧ n < realBound then boolOfInt n else .fail .boolType
  | .real x =>
    match intOfReal x with
    | .valid n => boolOfInt n
    | .faulty _ => .fail .boolType
  | .str s => parseBool s
  | _ => .fail .boolType

/-- A real. -/
def double : ValueReader Double
  | .real x => .valid x
  | .int n => if Double.overflowedBy n then .fail .floatType else .valid (Double.ofInt n)
  | .bool b => .valid (Double.ofInt (if b then 1 else 0))
  | .str s => parseDouble s
  | _ => .fail .floatType

/-- One of some texts, each standing for a value. -/
def oneOf {α : Type} (words : List (String × α)) : ValueReader α
  | .str s => (words.lookup s).elim (.fail .literal) .valid
  | _ => .fail .literal

/-- Null, or a value. -/
def nullable {α : Type} (read : ValueReader α) : ValueReader (Option α)
  | .null => .valid none
  | v => (read v).map some

/-- A list; a fault's path holds the position of the item. -/
def list {α : Type} (read : ValueReader α) : ValueReader (List α)
  | .arr items => .all (items.zipIdx.map fun (v, i) => (read v).under (toString i))
  | _ => .fail .listType

/-- An object whose fields are read together. -/
def model {α : Type} (read : Fields → Checked α) : ValueReader α
  | .obj fields => read fields
  | _ => .fail .modelType

/-! ## Fields -/

/-- A field that must be there. -/
def required {α : Type} (fields : Fields) (name : String) (read : ValueReader α) : Checked α :=
  match fields.get? name with
  | some v => (read v).under name
  | none => (Checked.fail .missing).under name

/-- A field with a default. -/
def optional {α : Type} (fields : Fields) (name : String) (default : α) (read : ValueReader α) :
    Checked α :=
  match fields.get? name with
  | some v => (read v).under name
  | none => .valid default

end CodeReview.Record
