import CodeReview.Json.Writer
import CodeReview.Report.Basic
import CodeReview.Session.Fixing

/-!
# Records as JSON

The value of each record that leaves the library: every field under its name, in the order of the
record, what is absent as null.  A report as text is its value over many lines.
-/

set_option autoImplicit false

namespace CodeReview

open CodeReview.Json (Value)

/-- A text that may be absent. -/
def Json.Value.ofText? (s : Option String) : Value := s.elim .null .str

/-- A list of texts. -/
def Json.Value.ofTexts (ss : List String) : Value := .arr (ss.map .str)

/-- A natural number. -/
def Json.Value.ofNat (n : Nat) : Value := .int n

namespace Finding

/-- The value of a finding. -/
def toValue (f : Finding) : Value :=
  .obj
    [("kind", .str f.kind.word), ("severity", .str f.severity.word),
      ("category", .str f.category), ("message", .str f.message), ("file", .str f.file),
      ("line", .ofNat f.line), ("column", f.column.elim .null .int),
      ("snippet", .ofText? f.snippet), ("suggested_fix", .ofText? f.suggestedFix),
      ("auto_fixable", .bool f.autoFixable)]

end Finding

namespace Architecture

/-- The value of a review of the architecture. -/
def toValue (a : Architecture) : Value :=
  .obj
    [("overall_quality", a.quality.elim .null .int), ("insights", .ofTexts a.insights),
      ("recommendations", .ofTexts a.recommendations),
      ("security_concerns", .ofTexts a.securityConcerns)]

end Architecture

namespace Insights

/-- The value of the remarks about a file. -/
def fileValue (f : FileInsight) : Value :=
  .obj [("file", .str f.file), ("insights", .ofTexts f.insights)]

/-- The value of all remarks. -/
def toValue (i : Insights) : Value :=
  .obj
    [("architectural_review", i.architecture.elim .null Architecture.toValue),
      ("file_insights", .arr (i.files.map fileValue))]

end Insights

namespace Summary

/-- The value of the counts. -/
def toValue (s : Summary) : Value :=
  .obj
    [("total_issues", .ofNat s.total), ("critical", .ofNat s.critical), ("high", .ofNat s.high),
      ("medium", .ofNat s.medium), ("low", .ofNat s.low), ("auto_fixable", .ofNat s.autoFixable)]

end Summary

namespace Report

/-- The value of a report. -/
def toValue (r : Report) : Value :=
  .obj
    [("summary", r.summary.toValue), ("findings", .arr (r.findings.map Finding.toValue)),
      ("files_analyzed", .int r.filesAnalyzed), ("timestamp", .str r.timestamp),
      ("ai_insights", r.insights.elim .null Insights.toValue)]

/-- A report as JSON text. -/
def json (r : Report) : String := r.toValue.indented

end Report

namespace Analysis

/-- The value of an analysis. -/
def toValue (a : Analysis) : Value :=
  .obj
    [("findings", .arr (a.findings.map Finding.toValue)), ("summary", .str a.summary),
      ("suggestions", .ofTexts a.suggestions), ("architectural_insights", .ofTexts a.insights),
      ("complete", .bool a.complete)]

end Analysis

namespace Proposal

/-- The value of a proposal. -/
def toValue (p : Proposal) : Value :=
  .obj
    [("original_text", .str p.before), ("patched_text", .str p.patched),
      ("explanation", .str p.explanation), ("confidence", .ofNat p.confidence)]

end Proposal

namespace FixDetail

/-- The value of a record of a fix. -/
def toValue (d : FixDetail) : Value :=
  .obj
    [("file", .str d.file), ("line", .ofNat d.line), ("finding", .str d.finding),
      ("confidence", .ofNat d.confidence), ("explanation", .str d.explanation)]

end FixDetail

namespace FixBatch

/-- The value of what became of a text. -/
def toValue (b : FixBatch) : Value :=
  .obj
    [("text", .str b.text), ("fixed", .ofNat b.fixed), ("failed", .ofNat b.failed),
      ("details", .arr (b.details.map FixDetail.toValue))]

end FixBatch
end CodeReview
