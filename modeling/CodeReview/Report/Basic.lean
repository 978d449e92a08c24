import CodeReview.Finding.Order
import CodeReview.Record.Field
import CodeReview.Reply.Architecture

/-!
# Reports

A report counts findings by severity and keeps them in the order in which they are given, together
with the number of files that were looked at, the time, and what the completion service remarked
about files and their architecture.
-/

set_option autoImplicit false

namespace CodeReview

open CodeReview.Json (Fields)
open CodeReview.Record (Checked required optional nullable text int list model)

/-- How many findings there are. -/
structure Summary where
  total : Nat
  critical : Nat
  high : Nat
  medium : Nat
  low : Nat
  autoFixable : Nat
  deriving Repr, DecidableEq, Inhabited

/-- What the service remarked about a file. -/
structure FileInsight where
  file : String
  insights : List String
  deriving Repr, DecidableEq, Inhabited

/-- What the service remarked. -/
structure Insights where
  architecture : Option Architecture
  files : List FileInsight
  deriving Repr, DecidableEq, Inhabited

/-- A report. -/
structure Report where
  summary : Summary
  findings : List Finding
  filesAnalyzed : Int
  timestamp : String
  insights : Option Insights
  deriving Repr, DecidableEq, Inhabited

namespace Summary

/-- The findings of one severity. -/
def countOf (s : Severity) (fs : List Finding) : Nat := fs.countP (·.severity == s)

/-- The counts of some findings. -/
def ofFindings (fs : List Finding) : Summary where
  total := fs.length
  critical := countOf .critical fs
  high := countOf .high fs
  medium := countOf .medium fs
  low := countOf .low fs
  autoFixable := fs.countP (·.autoFixable)

/-- **Every finding is counted under one severity.** -/
theorem total_ofFindings (fs : List Finding) :
    (ofFindings fs).total = (ofFindings fs).critical + (ofFindings fs).high
      + (ofFindings fs).medium + (ofFindings fs).low := by
  induction fs with
  | nil => rfl
  | cons f fs ih =>
    simp only [ofFindings, countOf, List.length_cons, List.countP_cons] at ih ⊢
    cases f.severity <;> simp <;> omega

end Summary

namespace Report

/-- The number of files a report is about, from a value. -/
def filesOfValue? (v : Json.Value) : Except Fault Int :=
  ((int v).under "files_analyzed").toExcept.mapError (.invalid "ReviewReport")

/-- The report of some findings. -/
def build (findings : List Finding) (filesAnalyzed : Int) (timestamp : String)
    (insights : Option Insights) : Report :=
  ⟨.ofFindings findings, findings, filesAnalyzed, timestamp, insights⟩

end Report

/-! ## Remarks from values -/

namespace Architecture

/-- A review of the architecture from its fields. -/
def ofFields (fields : Fields) : Checked Architecture :=
  pure Architecture.mk
    <*> optional fields "overall_quality" none (nullable int)
    <*> optional fields "insights" [] (list text)
    <*> optional fields "recommendations" [] (list text)
    <*> optional fields "security_concerns" [] (list text)

end Architecture

namespace FileInsight

/-- The remarks about a file from their fields. -/
def ofFields (fields : Fields) : Checked FileInsight :=
  pure FileInsight.mk
    <*> required fields "file" text
    <*> required fields "insights" (list text)

end FileInsight

namespace Insights

/-- Remarks from their fields. -/
def ofFields (fields : Fields) : Checked Insights :=
  pure Insights.mk
    <*> optional fields "architectural_review" none (nullable (model Architecture.ofFields))
    <*> optional fields "file_insights" [] (list (model FileInsight.ofFields))

/-- Remarks from a value. -/
def ofValue? (v : Json.Value) : Except Fault Insights :=
  (model ofFields v).toExcept.mapError (.invalid "AIInsights")

end Insights
end CodeReview
