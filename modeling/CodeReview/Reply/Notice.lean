import CodeReview.Fault

/-!
# What is noticed while a reply is read

Reading a reply almost never fails; it notices (`Notice`) and goes on with what is left.
`Reading` carries the notices, in order, next to the result.  The few obstacles that do end a
reading are faults: the limits of the JSON reader and numbers beyond binary64.
-/

set_option autoImplicit false

namespace CodeReview.Reply

/-- Why an entry of a list of issues is skipped. -/
inductive Skip where
  | notObject
  | invalid (faults : List Record.Fault)
  | unknownSeverity (word : Option String)
  | noMessage
  deriving Repr, DecidableEq, Inhabited

/-- The wording. -/
def Skip.message [Text.Spare] : Skip → String
  | notObject => "not an object"
  | invalid faults => invalidMessage "RawIssue" faults
  | unknownSeverity (some w) => "unknown severity " ++ Text.quotedPoints (Text.points w)
  | unknownSeverity none => "unknown severity None"
  | noMessage => "missing message"

/-- Something worth telling about a reply. -/
inductive Notice where
  /-- the reply holds no braces with something between them -/
  | noObject
  /-- the text between the braces is no JSON, and a repair follows -/
  | notJson (f : Json.Fault)
  /-- the repaired text is no JSON either -/
  | notRepaired (f : Json.Fault)
  /-- the text is JSON, but of this kind -/
  | notAnObject (kind : String)
  /-- the issues in the reply about this file are no list -/
  | issuesNotAList (path : String)
  /-- an issue in the reply about this file is left out -/
  | issueSkipped (index : Nat) (path : String) (reason : Skip)
  deriving Repr, DecidableEq, Inhabited

/-- The wording. -/
def Notice.message [Text.Spare] : Notice → String
  | noObject => "No JSON object found in service reply"
  | notJson f => "Initial JSON parse failed (" ++ f.message ++ "), attempting repair"
  | notRepaired f => "JSON repair failed: " ++ f.message
  | notAnObject kind => "Expected a JSON object, got " ++ kind
  | issuesNotAList path => "`issues` is not a list in reply for " ++ path
  | issueSkipped index path reason => s!"Skipping issue #{index} in {path}: " ++ reason.message

/-- What reading gives: the notices and the result. -/
structure Reading (α : Type) where
  notices : List Notice
  result : Except Fault α

namespace Reading

variable {α β : Type}

/-- One reading after another; the notices of both are kept. -/
def bind (x : Reading α) (f : α → Reading β) : Reading β :=
  match x.result with
  | .error e => ⟨x.notices, .error e⟩
  | .ok a => ⟨x.notices ++ (f a).notices, (f a).result⟩

instance : Monad Reading where
  pure a := ⟨[], .ok a⟩
  bind := bind

/-- Tell something. -/
def notice (n : Notice) : Reading Unit := ⟨[n], .ok ()⟩

/-- End the reading. -/
def fail (e : Fault) : Reading α := ⟨[], .error e⟩

/-- A result that was found without a notice. -/
def ofExcept (r : Except Fault α) : Reading α := ⟨[], r⟩

@[simp] theorem notices_pure (a : α) : (pure a : Reading α).notices = [] := rfl

@[simp] theorem result_pure (a : α) : (pure a : Reading α).result = .ok a := rfl

@[simp] theorem notices_notice (n : Notice) : (notice n).notices = [n] := rfl

@[simp] theorem result_notice (n : Notice) : (notice n).result = .ok () := rfl

theorem bind_of_ok {x : Reading α} {a : α} (f : α → Reading β) (h : x.result = .ok a) :
    x >>= f = ⟨x.notices ++ (f a).notices, (f a).result⟩ := by
  show bind x f = _
  rw [bind, h]

theorem bind_of_error {x : Reading α} {e : Fault} (f : α → Reading β)
    (h : x.result = .error e) : x >>= f = ⟨x.notices, .error e⟩ := by
  show bind x f = _
  rw [bind, h]

end Reading
end CodeReview.Reply
