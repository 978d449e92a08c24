import CodeReview.Prompt.Analysis
import CodeReview.Reply.Analysis
import CodeReview.Session.Service

/-!
# Asking for all findings of a file

A service delivers findings page by page and says with each page whether more are to come.
`Paging.analyze` asks until it says no, until the bound on the number of pages is reached, or until
a request fails; whichever it is, what was delivered until then is the result, and the result
counts as complete because nobody will ask again.

A request tells how many findings were delivered so far, as they were counted here: entries that
made no finding do not count.
-/

set_option autoImplicit false

namespace CodeReview

/-- The most findings of a page and the most pages of a file. -/
structure Paging where
  pageSize : Nat
  maxChunks : Nat
  pageSize_pos : 0 < pageSize
  maxChunks_pos : 0 < maxChunks

/-- A file to be analysed, and what is known about the project. -/
structure Subject where
  text : String
  path : String
  projectType : Option String
  framework : Option String
  deriving Repr, DecidableEq, Inhabited

/-- What was delivered so far. -/
structure Progress where
  chunks : Nat
  analysis : Analysis
  deriving Repr, DecidableEq, Inhabited

namespace Progress

/-- Before the first page. -/
def start : Progress := ⟨0, .empty false⟩

/-- One page more: lists grow, and the last summary that is not empty stands. -/
def add (p : Progress) (page : Analysis) : Progress where
  chunks := p.chunks + 1
  analysis :=
    { findings := p.analysis.findings ++ page.findings
      summary := if page.summary = "" then p.analysis.summary else page.summary
      suggestions := p.analysis.suggestions ++ page.suggestions
      insights := p.analysis.insights ++ page.insights
      complete := page.complete }

/-- The summary of an analysis that was given none. -/
def defaultSummary : String := "AI analysis completed"

/-- The result when no more is asked for. -/
def result (p : Progress) : Analysis :=
  { p.analysis with
    summary := if p.analysis.summary = "" then defaultSummary else p.analysis.summary
    complete := true }

end Progress

namespace Paging

/-- 25 findings a page and ten pages. -/
def standard : Paging := ⟨25, 10, by decide, by decide⟩

/-- Bounds that were asked for; both have to be positive. -/
def ofBounds? (pageSize maxChunks : Int) : Except Fault Paging :=
  if hs : 0 < pageSize then
    if hc : 0 < maxChunks then
      .ok ⟨pageSize.toNat, maxChunks.toNat, by omega, by omega⟩
    else .error (.argument (.notPositive "max_chunks"))
  else .error (.argument (.notPositive "page_size"))

variable {σ : Type}

/-- The request for the page behind what was delivered. -/
def page (paging : Paging) (subject : Subject) (p : Progress) : Prompt.Page where
  content := subject.text
  path := subject.path
  chunk := p.chunks
  delivered := p.analysis.findings.length
  pageSize := paging.pageSize
  projectType := subject.projectType
  framework := subject.framework

/-- Ask for pages, at most `left` of them. -/
def pages [Text.Spare] (paging : Paging) (service : Service σ) (subject : Subject) :
    (left : Nat) → Progress → Run σ Progress
  | 0, p => pure p
  | left + 1, p => do
    match ← (Run.ask service (paging.page subject p).prompt).attempt with
    | .error e =>
      let chunk := p.chunks + 1
      Run.log .error
        (s!"Analysis request failed for {subject.path} (chunk {chunk}): " ++ e.message)
      pure p
    | .ok reply =>
      let p := p.add (← Run.ofReading (Reply.readAnalysis reply subject.path))
      if p.analysis.complete then pure p
      else
        let count := p.analysis.findings.length
        Run.log .info
          s!"Received chunk {p.chunks} for {subject.path} ({count} finding(s) so far)"
        paging.pages service subject left p

/-- The bound was reached before the service was done. -/
def isCutShort (paging : Paging) (p : Progress) : Bool :=
  !p.analysis.complete && paging.maxChunks ≤ p.chunks

/-- All that the service delivers about a file. -/
def analyze [Text.Spare] (paging : Paging) (service : Service σ) (subject : Subject) :
    Run σ Analysis := do
  let p ← paging.pages service subject paging.maxChunks .start
  if paging.isCutShort p then
    Run.log .warning
      (s!"Chunk limit ({paging.maxChunks}) reached for {subject.path}, "
        ++ "returning partial result")
  pure p.result

end Paging
end CodeReview
