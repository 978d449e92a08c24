import CodeReview.Report.Basic
import CodeReview.Rule.Default
import CodeReview.Session.Overview
import CodeReview.Session.Paging
import CodeReview.Session.Pause
import CodeReview.Session.Storage
import CodeReview.Settings.Basic

/-!
# Reviewing a tree of files

A review finds the files, applies the rules to each, asks the service about each, and merges what
both found with the rules in charge.  The mode says which of the two passes are made.  A file that
cannot be read is left out of a pass, and a request that fails costs only what it would have
brought.

The service sees at most as many files as the settings allow, counted by position, so a file that
is left out for its size uses up its place.
-/

set_option autoImplicit false

namespace CodeReview

/-- Who reviews: the settings, the service if there is one, the disk, and the extensions of the
files to review. -/
structure Reviewer (σ : Type) where
  settings : ReviewSettings
  service : Option (Service σ)
  storage : Storage σ
  extensions : List String

namespace Reviewer

variable {σ : Type}

/-- The files to review at or below a path. -/
def discover (r : Reviewer σ) (path : String) : Run σ (List String) :=
  Run.discover r.storage path r.extensions r.settings.maxFileBytes

/-- The text of a file, or what is wrong with it. -/
def readText (r : Reviewer σ) (path : String) : Run σ (Except String String) :=
  (Run.readText r.storage path).surviving

/-! ## The rules -/

/-- What the rules find in a file. -/
def ruleFindings (r : Reviewer σ) (path : String) : Run σ (List Finding) := do
  match ← r.readText path with
  | .error e =>
    Run.log .error (s!"Error analyzing {path}: " ++ e)
    pure []
  | .ok content =>
    let fs := Rule.scanText content path
    if !fs.isEmpty then
      let count := fs.length
      Run.log .info s!"{path}: {count} issue(s)"
    pure fs

/-- What the rules find in files, file by file. -/
def allRuleFindings (r : Reviewer σ) : List String → Run σ (List Finding)
  | [] => pure []
  | path :: paths => do
    let fs ← r.ruleFindings path
    let rest ← r.allRuleFindings paths
    pure (fs ++ rest)

/-- What the rules find in files, in report order. -/
def rulePass (r : Reviewer σ) (paths : List String) : Run σ (List Finding) := do
  pure (Finding.sort (← r.allRuleFindings paths))

/-! ## The service -/

/-- What the service found and remarked. -/
structure Gathered where
  findings : List Finding
  insights : List FileInsight
  deriving Repr, DecidableEq, Inhabited

namespace Gathered

/-- Nothing. -/
def none : Gathered := ⟨[], []⟩

/-- One file before others. -/
def append (a b : Gathered) : Gathered := ⟨a.findings ++ b.findings, a.insights ++ b.insights⟩

/-- What an analysis brings for a file. -/
def ofAnalysis (path : String) (a : Analysis) : Gathered :=
  ⟨a.findings, if a.insights.isEmpty then [] else [⟨path, a.insights⟩]⟩

end Gathered

/-- Ask the service about a file; with a pause before, unless it is the first one asked about. -/
def askAbout [Text.Spare] (r : Reviewer σ) (service : Service σ) (requested : Bool)
    (path content : String) : Run σ Gathered := do
  if requested then Run.pause r.settings.delaySeconds
  Run.log .info s!"AI analyzing {path}"
  let a ← Paging.standard.analyze service ⟨content, path, none, none⟩
  let count := a.findings.length
  Run.log .info s!"Found {count} AI-detected issue(s) in {path}"
  pure (.ofAnalysis path a)

/-- The text of a file that the service is asked about: one that can be read and is not too
long. -/
def suitableText (r : Reviewer σ) (path : String) : Run σ (Option String) := do
  match ← r.readText path with
  | .error e =>
    Run.log .error (s!"AI analysis error for {path}: " ++ e)
    pure none
  | .ok content =>
    if r.settings.maxFileChars < content.length then
      Run.log .info s!"Skipping {path} (too large for AI analysis)"
      pure none
    else pure (some content)

/-- Ask the service about files, `left` of them at most; `requested` tells whether it was asked
before. -/
def gather [Text.Spare] (r : Reviewer σ) (service : Service σ) : (left : Nat) → (requested : Bool) →
    List String → Run σ Gathered
  | _, _, [] => pure .none
  | 0, _, _ :: _ => do
    Run.log .info
      (s!"AI analysis limited to {r.settings.maxServiceFiles} file(s); "
        ++ "use static analysis for complete coverage")
    pure .none
  | left + 1, requested, path :: paths => do
    match ← r.suitableText path with
    | none => r.gather service left requested paths
    | some content =>
      let first ← r.askAbout service requested path content
      let rest ← r.gather service left true paths
      pure (first.append rest)

/-- What the service finds in files and remarks about them. -/
def servicePass [Text.Spare] (r : Reviewer σ) (service : Service σ) (paths : List String) :
    Run σ Gathered :=
  r.gather service r.settings.maxServiceFiles false paths

/-! ## The architecture -/

/-- The most files that are shown to the service together. -/
def maxArchitectureFiles : Nat := 10

/-- The files that can be read, with their texts. -/
def readable (r : Reviewer σ) : List String → Run σ (List (String × String))
  | [] => pure []
  | path :: paths => do
    match ← r.readText path with
    | .error e =>
      Run.log .error (s!"Error reading {path} for architecture review: " ++ e)
      r.readable paths
    | .ok content =>
      let rest ← r.readable paths
      pure ((path, content) :: rest)

/-- What the service says of the files together. -/
def architecturePass [Text.Spare] (r : Reviewer σ) (service : Service σ) (paths : List String) :
    Run σ Architecture := do
  let files ← r.readable (paths.take maxArchitectureFiles)
  let a ← reviewArchitecture service files none
  let quality := a.quality.elim "None" toString
  Run.log .info s!"Architecture quality score: {quality}"
  pure a

/-! ## The review -/

/-- What the rules find in files, if the mode applies them. -/
def findByRules (r : Reviewer σ) (mode : Mode) (paths : List String) : Run σ (List Finding) :=
  if mode.usesRules then r.rulePass paths else pure []

/-- What the rules found and what the service adds to it, if the mode asks for that. -/
def addByService [Text.Spare] (r : Reviewer σ) (mode : Mode) (paths : List String)
    (byRules : List Finding) : Run σ Gathered :=
  if mode.usesService then
    match r.service with
    | none => do
      Run.log .warning
        "AI analysis requested but no LLM is configured, skipping AI analysis"
      pure ⟨byRules, []⟩
    | some service => do
      let g ← r.servicePass service paths
      pure ⟨Finding.merge byRules g.findings, g.insights⟩
  else pure ⟨byRules, []⟩

/-- What is found in files: by the rules, by the service, or by both. -/
def findIn [Text.Spare] (r : Reviewer σ) (mode : Mode) (paths : List String) : Run σ Gathered := do
  let byRules ← r.findByRules mode paths
  r.addByService mode paths byRules

/-- The review of the architecture, if it is wanted and there is something to review. -/
def overview [Text.Spare] (r : Reviewer σ) (paths : List String) : Run σ (Option Architecture) :=
  match r.service with
  | some service =>
    if r.settings.reviewsArchitecture && !paths.isEmpty then do
      pure (some (← r.architecturePass service paths))
    else pure none
  | none => pure none

/-- The remarks of a report; there are none if nothing was remarked. -/
def remarks (architecture : Option Architecture) (files : List FileInsight) : Option Insights :=
  if architecture.isSome || !files.isEmpty then some ⟨architecture, files⟩ else none

/-- Review what is at or below a path; the mode is that of the settings unless another is given. -/
def review [Text.Spare] (r : Reviewer σ) (path : String) (mode : Option Mode) (timestamp : String) :
    Run σ Report := do
  let mode := mode.getD r.settings.mode
  Run.log .info s!"Starting {mode.word} code review of {path}"
  let paths ← r.discover path
  let count := paths.length
  Run.log .info s!"Found {count} file(s) to analyze"
  let found ← r.findIn mode paths
  let architecture ← r.overview paths
  pure (.build found.findings count timestamp (remarks architecture found.insights))

/-- Review a text that is at hand. -/
def reviewText [Text.Spare] (r : Reviewer σ) (text path : String) (mode : Option Mode) :
    Run σ (List Finding) := do
  let mode := mode.getD r.settings.mode
  let byRules := if mode.usesRules then Rule.scanText text path else []
  match r.service with
  | none => pure byRules
  | some service =>
    if mode = .fast then pure byRules
    else
      let a ← Paging.standard.analyze service ⟨text, path, none, none⟩
      pure (Finding.merge byRules a.findings)

end Reviewer
end CodeReview
