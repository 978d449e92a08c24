import CodeReview.Json.Reader
import CodeReview.Json.Writer
import CodeReview.Record.Field
import CodeReview.Session.Basic
import CodeReview.Text.Units

/-!
# Requests and responses

What an HTTP interface of the library takes and gives.  The body of a request is JSON; a body that
is missing, is no JSON, or does not make the record that is asked for is refused with its faults
(`refuse`), and a response never says more about them than where they are.

A refusal shows the sender the values at fault, so one that cannot be shown as JSON (a NaN, an
infinity, an unpaired surrogate) becomes a failure of the server.  So does any other response with
such a value.
-/

set_option autoImplicit false

namespace CodeReview.Http

open CodeReview.Json (Value Fields)
open CodeReview.Record (Checked)

/-- A request; an empty body counts as none. -/
structure Request where
  method : String
  path : String
  body : List UInt8
  deriving Repr, DecidableEq, Inhabited

/-- The body of a response. -/
inductive Body where
  | json (v : Value)
  | text (s : String)
  /-- what is wrong with the body of the request -/
  | faults (fs : List Record.Fault)
  deriving Repr, Inhabited

/-- A response. -/
structure Response where
  status : Nat
  body : Body
  deriving Repr, Inhabited

namespace Response

/-- A success. -/
def ok (v : Value) : Response := ⟨200, .json v⟩

/-- A failure of the request, in words. -/
def detail (status : Nat) (words : String) : Response :=
  ⟨status, .json (.obj [("detail", .str words)])⟩

/-- A failure of the server. -/
def broken : Response := ⟨500, .text "Internal Server Error"⟩

end Response

/-! ## Values that can be shown -/

/-- The value can be written as JSON text. -/
def canShow [Text.Spare] (v : Value) : Bool := v.isFinite && Text.isWritable v.compact

/-- The value at the end of a path, or the last one on the way that is there. -/
def valueAt : Value → List String → Value
  | v, [] => v
  | .obj fields, name :: path =>
    match fields.lookup name with
    | some v => valueAt v path
    | none => .obj fields
  | .arr items, name :: path =>
    match name.toNat?.bind fun i => items[i]? with
    | some v => valueAt v path
    | none => .arr items
  | v, _ => v

/-! ## The body of a request -/

/-- The response to a body with faults. -/
def refuse [Text.Spare] (body : Value) (faults : List Record.Fault) : Response :=
  if faults.all fun f => canShow (valueAt body f.path) then
    ⟨422, .faults (faults.map fun f => { f with path := "body" :: f.path })⟩
  else .broken

/-- The record that an object makes; nothing but an object makes one. -/
def record {α : Type} (read : Fields → Checked α) : Record.ValueReader α
  | .obj fields => read fields
  | _ => .fail .modelAttributesType

/-- The body is no JSON text, and it cannot be told where. -/
def unreadable : Response := .detail 400 "There was an error parsing the body"

/-- The record that a JSON text makes, or the response that refuses it. -/
def readText [Text.Spare] {α : Type} (read : Fields → Checked α) (text : List Char) :
    Except Response α :=
  match Json.read (String.ofList text) with
  | .error (.fault f) => .error (refuse .null [⟨[toString f.offset], .jsonInvalid⟩])
  | .error (.limit _) => .error unreadable
  | .ok v =>
    match record read v with
    | .valid a => .ok a
    | .faulty faults => .error (refuse v faults)

/-- The record that a body makes, or the response that refuses it. -/
def readRecord [Text.Spare] {α : Type} (read : Fields → Checked α) (body : List UInt8) :
    Except Response α :=
  if body.isEmpty then .error (refuse .null [⟨[], .missing⟩])
  else
    match Text.decodeAny? body with
    | none => .error unreadable
    | some text => readText read text

end CodeReview.Http
