/-!
# Records read from untyped values

A record is read from a JSON object field by field, and a reader that finds fault goes on, so that
all faults are reported, in the order of the fields.  `Checked` is the result: the record, or its
faults.  Combining two results keeps the faults of both (`Checked.faults_seq`).
-/

set_option autoImplicit false

namespace CodeReview.Record

/-- What can be wrong with a value. -/
inductive Kind where
  | missing
  | stringType
  | intType
  | intParsing
  | intParsingSize
  | intFromFloat
  | finiteNumber
  | floatType
  | floatParsing
  | boolType
  | boolParsing
  | literal
  | greaterThan
  | greaterThanEqual
  | lessThanEqual
  | listType
  | modelType
  | modelAttributesType
  | jsonInvalid
  | urlTooLong
  | urlParsing
  | urlScheme
  deriving Repr, DecidableEq, Inhabited

/-- The word for a kind of fault. -/
def Kind.word : Kind → String
  | missing => "missing"
  | stringType => "string_type"
  | intType => "int_type"
  | intParsing => "int_parsing"
  | intParsingSize => "int_parsing_size"
  | intFromFloat => "int_from_float"
  | finiteNumber => "finite_number"
  | floatType => "float_type"
  | floatParsing => "float_parsing"
  | boolType => "bool_type"
  | boolParsing => "bool_parsing"
  | literal => "literal_error"
  | greaterThan => "greater_than"
  | greaterThanEqual => "greater_than_equal"
  | lessThanEqual => "less_than_equal"
  | listType => "list_type"
  | modelType => "model_type"
  | modelAttributesType => "model_attributes_type"
  | jsonInvalid => "json_invalid"
  | urlTooLong => "url_too_long"
  | urlParsing => "url_parsing"
  | urlScheme => "url_scheme"

/-- A fault: the names and positions that lead to the value, outermost first, and what is wrong. -/
structure Fault where
  path : List String
  kind : Kind
  deriving Repr, DecidableEq, Inhabited

/-- The path with points between its parts. -/
def Fault.location (f : Fault) : String := String.intercalate "." f.path

/-- A record, or its faults. -/
inductive Checked (α : Type) where
  | valid (a : α)
  | faulty (faults : List Fault)
  deriving Repr

namespace Checked

variable {α β : Type}

/-- The faults of a result. -/
def faults : Checked α → List Fault
  | valid _ => []
  | faulty fs => fs

/-- One fault at the value itself. -/
def fail (kind : Kind) : Checked α := faulty [⟨[], kind⟩]

/-- The value, mapped. -/
def map (f : α → β) : Checked α → Checked β
  | valid a => valid (f a)
  | faulty fs => faulty fs

/-- A function applied to an argument; the faults of both are kept, in order. -/
def seq (f : Checked (α → β)) (x : Checked α) : Checked β :=
  match f, x with
  | valid f, valid a => valid (f a)
  | f, x => faulty (f.faults ++ x.faults)

instance : Functor Checked := ⟨map, fun a => map (fun _ => a)⟩

instance : Pure Checked := ⟨valid⟩

instance : Seq Checked := ⟨fun f x => seq f (x ())⟩

/-- **No fault is lost.** -/
theorem faults_seq (f : Checked (α → β)) (x : Checked α) :
    (seq f x).faults = f.faults ++ x.faults := by
  cases f <;> cases x <;> rfl

/-- A further test of the value. -/
def ensure (test : α → Bool) (kind : Kind) : Checked α → Checked α
  | valid a => if test a then valid a else fail kind
  | faulty fs => faulty fs

/-- The faults seen from one level further out. -/
def under (name : String) : Checked α → Checked α
  | valid a => valid a
  | faulty fs => faulty (fs.map fun f => { f with path := name :: f.path })

/-- All results of a list, or the faults of all of them. -/
def all : List (Checked α) → Checked (List α)
  | [] => valid []
  | x :: xs => seq (map List.cons x) (all xs)

/-- The value, if there is no fault. -/
def toOption : Checked α → Option α
  | valid a => some a
  | faulty _ => none

/-- The value, or the faults. -/
def toExcept : Checked α → Except (List Fault) α
  | valid a => .ok a
  | faulty fs => .error fs

end Checked
end CodeReview.Record
