import CodeReview.Reply.Issue
import CodeReview.Reply.Load

/-!
# The reply to a request for findings

`readAnalysis` makes an `Analysis` of any reply: findings, a summary, suggestions, insights, and
whether this was the last page.  A reply that holds no object is an empty last page.
-/

set_option autoImplicit false

namespace CodeReview

open CodeReview.Json (Value Fields)

/-- What a service says about a file; `complete` tells that nothing more is to come. -/
structure Analysis where
  findings : List Finding
  summary : String
  suggestions : List String
  insights : List String
  complete : Bool
  deriving Repr, DecidableEq, Inhabited

namespace Analysis

/-- Nothing found. -/
def empty (complete : Bool) : Analysis := ⟨[], "", [], [], complete⟩

end Analysis

namespace Reply

/-- The summary of a reply, trimmed. -/
def summaryOf : Option Value → String
  | some (.str s) => Text.trimString s
  | _ => ""

/-- The findings under `issues`. -/
def issuesOf (path : String) : Option Value → Reading (List Finding)
  | some (.arr items) => Issue.findings path 0 items
  | none | some .null => pure []
  | some _ => do
    Reading.notice (.issuesNotAList path)
    pure []

/-- The analysis of a file from the fields of a reply and the findings in it. -/
def analysisOf (fields : Fields) (findings : List Finding) : Analysis where
  findings := findings
  summary := summaryOf (fields.get? "summary")
  suggestions := texts (fields.get? "suggestions")
  insights := texts (fields.get? "architecturalInsights")
  complete := !isTrue ["true"] (fields.get? "hasMore")

/-- The analysis of the file at this path that a reply holds. -/
def readAnalysis [Text.Spare] (text path : String) : Reading Analysis := do
  match ← load text with
  | none => pure (.empty true)
  | some fields => do
    pure (analysisOf fields (← issuesOf path (fields.get? "issues")))

end Reply
end CodeReview
