import CodeReview.Disk.Path
import CodeReview.Report.Basic

/-!
# Reports for readers

A report as Markdown: the counts, what was remarked about the architecture, and a section for every
file that has findings.  Sections stand in the order in which their files come up, and the findings
of a section keep the order of the report.  A file can be shown by its way from a base directory.
-/

set_option autoImplicit false

namespace CodeReview.Report

/-- The counts. -/
def summaryLines (r : Report) : List String :=
  ["# Code Review Report", "", s!"**Generated:** {r.timestamp}", "", "## Summary", "",
    s!"- **Total Issues:** {r.summary.total}", s!"- **Critical:** {r.summary.critical}",
    s!"- **High:** {r.summary.high}", s!"- **Medium:** {r.summary.medium}",
    s!"- **Low:** {r.summary.low}", s!"- **Auto-fixable:** {r.summary.autoFixable}",
    s!"- **Files Analyzed:** {r.filesAnalyzed}", ""]

/-- A titled list, if there is anything in it. -/
def titled (title : String) (items : List String) : List String :=
  if items.isEmpty then [] else s!"- **{title}:**" :: items.map ("  - " ++ ·)

/-- What was remarked about the architecture. -/
def architectureLines (a : Architecture) : List String :=
  let quality := a.quality.elim "n/a" fun n => toString n ++ "/100"
  ["## Architecture Review", "", "- **Quality Score:** " ++ quality]
    ++ titled "Insights" a.insights ++ titled "Security Concerns" a.securityConcerns
    ++ titled "Recommendations" a.recommendations ++ [""]

/-- A text that is there and not empty, on a line behind a label. -/
def labelled (before after : String) (s : Option String) : List String :=
  (s.filter (· ≠ "")).elim [] fun s => [before ++ s ++ after]

/-- A finding. -/
def findingLines (f : Finding) : List String :=
  [s!"- **Line {f.line}** [{f.severity.heading}] [{f.category}]", "  - " ++ f.message]
    ++ labelled "  - Code: `" "`" f.snippet ++ labelled "  - **Fix:** " "" f.suggestedFix
    ++ if f.autoFixable then ["  - Auto-fixable"] else []

/-- Findings under the headings they are shown with. -/
abbrev Sections := List (String × List Finding)

/-- A finding joins the section of its heading, or opens one. -/
def addTo (heading : String) (f : Finding) : Sections → Sections
  | [] => [(heading, [f])]
  | (h, fs) :: rest =>
    if h = heading then (h, fs ++ [f]) :: rest else (h, fs) :: addTo heading f rest

/-- The sections of some findings. -/
def sections (heading : Finding → String) (fs : List Finding) : Sections :=
  fs.foldl (fun ss f => addTo (heading f) f ss) []

/-- A section. -/
def sectionLines (part : String × List Finding) : List String :=
  ["### " ++ part.1, ""] ++ part.2.flatMap findingLines ++ [""]

/-- How a file is shown: by its way from a base directory, if there is one. -/
def heading (base : Option String) (f : Finding) : String :=
  match base with
  | none => f.file
  | some base => Path.relativeTo base f.file

/-- The findings. -/
def issueLines (base : Option String) (fs : List Finding) : List String :=
  if fs.isEmpty then ["No issues found."]
  else ["## Issues", ""] ++ (sections (heading base) fs).flatMap sectionLines

/-- The lines of a report. -/
def markdownLines (r : Report) (base : Option String) : List String :=
  r.summaryLines ++ (r.insights.bind (·.architecture)).elim [] architectureLines
    ++ issueLines base r.findings

/-- A report as Markdown.  An empty base directory counts as none; a file without a name has no way
from a base directory. -/
def markdown (r : Report) (base : Option String) : Except Fault String :=
  let base := base.filter (· ≠ "")
  if base.isSome && r.findings.any (·.file = "") then .error (.argument .emptyPath)
  else .ok (String.intercalate "\n" (r.markdownLines base))

end CodeReview.Report
