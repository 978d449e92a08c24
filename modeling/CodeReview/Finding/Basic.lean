import CodeReview.Fault
import CodeReview.Record.Field

/-!
# Findings

A finding is one defect at a line of a file.  Its severity orders it in a report and decides who
may repair it; its kind is how a reader is told.  Two findings are the same defect when file, line
and message agree (`Finding.key`), whatever severity they were given.
-/

set_option autoImplicit false

namespace CodeReview

/-- How a finding is presented. -/
inductive Kind where
  | error
  | warning
  | info
  deriving Repr, DecidableEq, Inhabited

/-- How much a finding matters. -/
inductive Severity where
  | critical
  | high
  | medium
  | low
  deriving Repr, DecidableEq, Inhabited

namespace Kind

/-- The word for a kind. -/
def word : Kind → String
  | error => "error"
  | warning => "warning"
  | info => "info"

/-- The kinds by their words. -/
def words : List (String × Kind) := [error, warning, info].map fun k => (k.word, k)

end Kind

namespace Severity

/-- The word for a severity. -/
def word : Severity → String
  | critical => "critical"
  | high => "high"
  | medium => "medium"
  | low => "low"

/-- The word in capitals. -/
def heading : Severity → String
  | critical => "CRITICAL"
  | high => "HIGH"
  | medium => "MEDIUM"
  | low => "LOW"

/-- The severities, the gravest first. -/
def all : List Severity := [critical, high, medium, low]

/-- The severities by their words. -/
def words : List (String × Severity) := all.map fun s => (s.word, s)

/-- The severity a word names. -/
def ofWord? (w : String) : Option Severity := words.lookup w

/-- The place in the order of a report, the gravest first. -/
def rank : Severity → Nat
  | critical => 0
  | high => 1
  | medium => 2
  | low => 3

/-- The kind of a finding that was given a severity only. -/
def kind : Severity → Kind
  | critical | high => .error
  | medium | low => .warning

/-- The severities a completion service is asked to repair. -/
def isGrave : Severity → Bool
  | critical | high => true
  | medium | low => false

@[simp] theorem ofWord?_word (s : Severity) : ofWord? s.word = some s := by
  cases s <;> decide

theorem ofWord?_eq_some_iff {w : String} {s : Severity} : ofWord? w = some s ↔ w = s.word := by
  constructor
  · intro h
    simp only [ofWord?, words, all, List.map_cons, List.map_nil, List.lookup_cons,
      List.lookup_nil] at h
    repeat' split at h
    all_goals simp_all
  · rintro rfl
    exact ofWord?_word s

/-- The rank a word is given: an unknown word ranks behind every severity. -/
def rankOfWord (w : String) : Nat := (ofWord? w).elim all.length rank

/-- The kind a word is given: an unknown word is presented as a warning. -/
def kindOfWord (w : String) : Kind := (ofWord? w).elim .warning kind

end Severity

/-- One defect.  Lines and columns count from one; `snippet` is the line as it stands, trimmed. -/
structure Finding where
  kind : Kind
  severity : Severity
  category : String
  message : String
  file : String
  line : Nat
  column : Option Int
  snippet : Option String
  suggestedFix : Option String
  autoFixable : Bool
  deriving Repr, DecidableEq, Inhabited

namespace Finding

/-- What makes two findings the same defect. -/
abbrev Key := String × Nat × String

/-- The file, the line and the message. -/
def key (f : Finding) : Key := (f.file, f.line, f.message)

open Record in
/-- A finding from its fields. -/
def ofFields (fields : Json.Fields) : Checked Finding :=
  pure Finding.mk
    <*> required fields "kind" (oneOf Kind.words)
    <*> required fields "severity" (oneOf Severity.words)
    <*> required fields "category" text
    <*> required fields "message" text
    <*> required fields "file" text
    <*> required fields "line"
      (fun v => ((int v).ensure (1 ≤ ·) .greaterThanEqual).map Int.toNat)
    <*> optional fields "column" none (nullable int)
    <*> optional fields "snippet" none (nullable text)
    <*> optional fields "suggested_fix" none (nullable text)
    <*> optional fields "auto_fixable" false bool

/-- A finding from a value. -/
def ofValue? (v : Json.Value) : Except Fault Finding :=
  match Record.model ofFields v with
  | .valid f => .ok f
  | .faulty fs => .error (.invalid "Finding" fs)

end Finding
end CodeReview
