import CodeReview.Address.Reference
import CodeReview.Disk.Fault
import CodeReview.Json.Fault
import CodeReview.Record.Checked

/-!
# Faults

Every way an operation of the library ends without its result, as a cause, and the wording of each
(`Fault.message`).  Which faults an operation lets out and which it records and survives is said
where the operation is defined.
-/

set_option autoImplicit false

namespace CodeReview

/-- An argument out of its range. -/
inductive ArgumentFault where
  /-- the named number has to be positive -/
  | notPositive (name : String)
  /-- the named number must not be negative -/
  | negative (name : String)
  /-- a path that has to be relative to another is empty -/
  | emptyPath
  deriving Repr, DecidableEq, Inhabited

/-- The wording. -/
def ArgumentFault.message : ArgumentFault → String
  | notPositive name => s!"{name} must be > 0"
  | negative name => s!"{name} must be >= 0"
  | emptyPath => "no path specified"

/-- What the stand-in service cannot answer. -/
inductive StandInFault where
  | noUserMessage
  | noPathLine
  deriving Repr, DecidableEq, Inhabited

/-- The wording. -/
def StandInFault.message : StandInFault → String
  | noUserMessage => "Mock server expects at least one user message"
  | noPathLine => "Cannot find `path: ...` in analysis prompt"

/-- A chat answer of an unexpected shape: what was done to which kind of value. -/
inductive ShapeFault where
  /-- an item was asked of a value of this kind, which has none -/
  | notIndexable (kind : String)
  /-- the first item was asked of an empty container of this kind -/
  | noItems (container : String)
  /-- the first entry was asked of an object, which has no positions -/
  | noKey
  /-- a field was asked of a value of this kind -/
  | noField (kind name : String)
  /-- the length was asked of a value of this kind -/
  | noLength (kind : String)
  deriving Repr, DecidableEq, Inhabited

/-- The wording. -/
def ShapeFault.message : ShapeFault → String
  | notIndexable kind => s!"'{kind}' object is not subscriptable"
  | noItems container => s!"{container} index out of range"
  | noKey => "0"
  | noField kind name => s!"'{kind}' object has no attribute '{name}'"
  | noLength kind => s!"object of type '{kind}' has no len()"

/-- The causes for which an operation ends without its result. -/
inductive Fault where
  /-- the completion service failed and said this -/
  | service (text : String)
  /-- a completion service was asked where there is none -/
  | serviceAbsent
  /-- the chat service answered with a status that is no success -/
  | status (code : Nat)
  /-- the chat service could not be reached -/
  | unreachable
  /-- the chat service answered without content -/
  | noContent
  /-- the chat service's answer has an unexpected shape -/
  | shape (f : ShapeFault)
  /-- there is no key for the chat service -/
  | keyMissing
  /-- a text is no reference -/
  | reference (f : Reference.Flaw)
  /-- a host cannot be asked -/
  | host (f : Reference.HostFlaw)
  /-- a request has a text that cannot be written -/
  | unencodable (u : Text.Unencodable)
  /-- a request has a number that cannot be written -/
  | notFinite
  /-- an answer came from a reference that leads nowhere by itself -/
  | nowhere (text : String)
  /-- the stand-in service cannot answer -/
  | standIn (f : StandInFault)
  /-- a reply meets a limit of the JSON reader -/
  | limit (l : Json.Limit)
  /-- a reply states a confidence or quality too large for a number -/
  | numberTooLarge
  /-- values do not make the named record -/
  | invalid (record : String) (faults : List Record.Fault)
  /-- an argument is out of range -/
  | argument (f : ArgumentFault)
  /-- a path or a file cannot be used -/
  | disk (f : Disk.Fault)
  /-- an explanation was asked for and no service is configured -/
  | serviceMissing
  /-- required settings are missing or empty -/
  | settingsMissing (names : List String)
  deriving Repr, DecidableEq, Inhabited

/-- The wording of faulty record values: their number, and each with its place. -/
def invalidMessage (record : String) (faults : List Record.Fault) : String :=
  let count := faults.length
  let noun := if count = 1 then "error" else "errors"
  let each := faults.map fun f => s!"{f.location} {f.kind.word}"
  s!"{count} validation {noun} for {record}: " ++ String.intercalate ", " each

/-- The wording of a fault. -/
def Fault.message : Fault → String
  | service text => text
  | serviceAbsent => "'NoneType' object is not callable"
  | status code => s!"Error code: {code}"
  | unreachable => "Connection error."
  | noContent => "LLM returned None content"
  | shape f => f.message
  | keyMissing =>
    "Missing credentials. Please pass an \x60api_key\x60, \x60workload_identity\x60, "
      ++ "\x60admin_api_key\x60, or set the \x60OPENAI_API_KEY\x60 or \x60OPENAI_ADMIN_KEY\x60 "
      ++ "environment variable."
  | reference f => f.message
  | host f => f.message
  | unencodable u => u.message
  | notFinite => "Out of range float values are not JSON compliant"
  | nowhere text => "unknown url type: " ++ Text.quoted text
  | standIn f => f.message
  | limit l => l.message
  | numberTooLarge => "int too large to convert to float"
  | invalid record faults => invalidMessage record faults
  | argument f => f.message
  | disk f => f.message
  | serviceMissing => "AI explanation requires a configured LLM"
  | settingsMissing names =>
    "Missing required env vars: " ++ String.intercalate ", " names

end CodeReview
