import CodeReview.Finding.Basic
import CodeReview.Reply.Lenient
import CodeReview.Reply.Notice

/-!
# An issue of a reply

A service describes each defect by an object.  `Issue.ofFields` reads one: places and the flag are
taken if they can be read and are absent otherwise, while a text field has to be a text.
`Issue.toFinding?` makes a finding of it, which needs a severity that is known and a message; it
never invents either.
-/

set_option autoImplicit false

namespace CodeReview.Reply

open CodeReview.Json (Value Fields)
open CodeReview.Record (Checked optional nullable text)

/-- A defect as a service describes it. -/
structure Issue where
  line : Option Int
  column : Option Int
  severity : Option String
  category : Option String
  message : Option String
  suggestedFix : Option String
  autoFixable : Bool
  deriving Repr, DecidableEq, Inhabited

namespace Issue

/-- An issue from the fields of an object. -/
def ofFields (fields : Fields) : Checked Issue :=
  pure (Issue.mk (intOf? (fields.get? "line")) (intOf? (fields.get? "column")))
    <*> optional fields "severity" none (nullable text)
    <*> optional fields "category" none (nullable text)
    <*> optional fields "message" none (nullable text)
    <*> optional fields "suggestedFix" none (nullable text)
    <*> pure (isTrue ["true", "yes"] (fields.get? "autoFixable"))

/-- The severity an issue states. -/
def severity? (issue : Issue) : Option Severity :=
  Severity.ofWord? (plainWord (issue.severity.getD ""))

/-- The line an issue is at: the first one if it states none. -/
def lineOrFirst (issue : Issue) : Nat :=
  match issue.line with
  | some n => if 1 ≤ n then n.toNat else 1
  | none => 1

/-- The finding an issue makes in a file. -/
def toFinding? (path : String) (issue : Issue) : Except Skip Finding :=
  match issue.severity? with
  | none => .error (.unknownSeverity issue.severity)
  | some severity =>
    match issue.message.filter (· ≠ "") with
    | none => .error .noMessage
    | some message => .ok
      { kind := severity.kind
        severity := severity
        category := (issue.category.filter (· ≠ "")).getD "General"
        message := message
        file := path
        line := issue.lineOrFirst
        column := issue.column.filter (1 ≤ ·)
        snippet := none
        suggestedFix := issue.suggestedFix
        autoFixable := issue.autoFixable }

/-- The finding an entry of a list of issues makes. -/
def findingOf? (path : String) : Value → Except Skip Finding
  | .obj fields =>
    match ofFields fields with
    | .faulty faults => .error (.invalid faults)
    | .valid issue => issue.toFinding? path
  | _ => .error .notObject

/-- The findings of a list of issues, the first of which has this index; each entry that makes no
finding is noticed. -/
def findings (path : String) : (index : Nat) → List Value → Reading (List Finding)
  | _, [] => pure []
  | index, v :: vs =>
    match findingOf? path v with
    | .ok f => do
      let fs ← findings path (index + 1) vs
      pure (f :: fs)
    | .error reason => do
      Reading.notice (.issueSkipped index path reason)
      findings path (index + 1) vs

/-- **Reading a list of issues always gives findings:** those of its entries that make one. -/
theorem result_findings (path : String) (index : Nat) (vs : List Value) :
    (findings path index vs).result = .ok (vs.filterMap fun v => (findingOf? path v).toOption) := by
  induction vs generalizing index with
  | nil => rfl
  | cons v vs ih =>
    rw [findings]
    split
    · rename_i f hf
      rw [Reading.bind_of_ok _ (ih _)]
      simp [hf, Except.toOption]
    · rename_i reason hr
      rw [Reading.bind_of_ok _ (Reading.result_notice _)]
      simp [hr, ih, Except.toOption]

/-- The line of a finding counts from one. -/
theorem one_le_lineOrFirst (issue : Issue) : 1 ≤ issue.lineOrFirst := by
  unfold lineOrFirst
  split <;> (try split) <;> omega

end Issue
end CodeReview.Reply
