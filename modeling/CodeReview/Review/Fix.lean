import CodeReview.Prompt.Explain
import CodeReview.Review.Basic
import CodeReview.Rule.LocalFix
import CodeReview.Session.Fixing

/-!
# Fixing and explaining files

With a service: every file is analysed, its grave findings are fixed one after another, and the
file is written once, if its text changed.  Without one: the fixes of the rules are applied.  What
happens to one file does not stop the others.
-/

set_option autoImplicit false

namespace CodeReview

/-- What became of the findings in files.  `eligible` counts the findings that a service was to
fix. -/
structure FixRun where
  fixed : Nat
  failed : Nat
  eligible : Nat
  filesChanged : List String
  details : List FixDetail
  dryRun : Bool
  deriving Repr, DecidableEq, Inhabited

namespace FixRun

/-- Before the first file. -/
def start (dryRun : Bool) : FixRun := ⟨0, 0, 0, [], [], dryRun⟩

/-- One file more, in which so many findings are to be fixed. -/
def found (o : FixRun) (count : Nat) : FixRun := { o with eligible := o.eligible + count }

/-- So many more failures. -/
def fail (o : FixRun) (count : Nat) : FixRun := { o with failed := o.failed + count }

/-- What became of the findings of one file. -/
def add (o : FixRun) (b : FixBatch) : FixRun :=
  { o with
    fixed := o.fixed + b.fixed
    failed := o.failed + b.failed
    details := o.details ++ b.details }

/-- A file was changed. -/
def change (o : FixRun) (path : String) : FixRun :=
  { o with filesChanged := o.filesChanged ++ [path] }

end FixRun

namespace Reviewer

variable {σ : Type}

/-! ## With a service -/

/-- Write a file back if its text changed, and count what became of the findings in it. -/
def writeBack (r : Reviewer σ) (path content : String) (b : FixBatch) (o : FixRun) :
    Run σ FixRun := do
  if b.text = content then pure (o.add b)
  else
    match ← (Run.writeText r.storage path b.text).surviving with
    | .error e =>
      Run.log .error (s!"Error writing {path}: " ++ e)
      pure (o.fail (b.fixed + b.failed))
    | .ok () => pure ((o.change path).add b)

/-- Fix findings of a file and write it if its text changed. -/
def fixFile [Text.Spare] (r : Reviewer σ) (service : Service σ) (path content : String)
    (findings : List Finding) (o : FixRun) : Run σ FixRun := do
  let count := findings.length
  Run.log .info s!"Processing {path} ({count} fixable finding(s))"
  let b ← Fixing.applyFixes service Fixing.standardThreshold content path findings
  r.writeBack path content b o

/-- Analyse a file and fix its grave findings; a dry run only counts them. -/
def analyzeAndFix [Text.Spare] (r : Reviewer σ) (service : Service σ) (dryRun : Bool)
    (path content : String) (o : FixRun) : Run σ FixRun := do
  let a ← Paging.standard.analyze service ⟨content, path, none, none⟩
  let grave := Finding.selectGrave a.findings
  if grave.isEmpty then pure o
  else
    let o := o.found grave.length
    if dryRun then pure o else r.fixFile service path content grave o

/-- The files from a position on, with a pause before each but the first. -/
def fixFiles [Text.Spare] (r : Reviewer σ) (service : Service σ) (dryRun : Bool) : (index : Nat) →
    List String → FixRun → Run σ FixRun
  | _, [], o => pure o
  | index, path :: paths, o => do
    match ← r.readText path with
    | .error e =>
      Run.log .error (s!"Error reading {path}: " ++ e)
      r.fixFiles service dryRun (index + 1) paths (o.fail 1)
    | .ok content =>
      if 0 < index then Run.pause r.settings.delaySeconds
      let o ← r.analyzeAndFix service dryRun path content o
      r.fixFiles service dryRun (index + 1) paths o

/-- Fix what the service finds at or below a path. -/
def fix [Text.Spare] (r : Reviewer σ) (path : String) (dryRun : Bool) : Run σ FixRun :=
  match r.service with
  | none => do
    Run.log .error "AI fixes require a configured LLM"
    pure (.start dryRun)
  | some service => do
    let paths ← r.discover path
    r.fixFiles service dryRun 0 paths (.start dryRun)

/-! ## Without a service -/

/-- Apply the fixes of the rules to a file and write it if there were any; the result is their
number. -/
def fixLocally (r : Reviewer σ) (path : String) : Run σ Nat := do
  let content ← Run.readText r.storage path
  let (text, applied) := Rule.applyFixes content (Rule.scanText content path)
  if applied = 0 then pure 0
  else
    Run.writeText r.storage path text
    Run.log .info s!"Fixed {applied} issue(s) in {path}"
    pure applied

/-- Apply the fixes of the rules to files. -/
def fixAllLocally (r : Reviewer σ) : List String → FixRun → Run σ FixRun
  | [], o => pure o
  | path :: paths, o => do
    match ← (r.fixLocally path).surviving with
    | .error e =>
      Run.log .error (s!"Error fixing {path}: " ++ e)
      r.fixAllLocally paths (o.fail 1)
    | .ok 0 => r.fixAllLocally paths o
    | .ok applied =>
      r.fixAllLocally paths { o.change path with fixed := o.fixed + applied }

/-- Apply the fixes of the rules at or below a path. -/
def localFix (r : Reviewer σ) (path : String) : Run σ FixRun := do
  let paths ← r.discover path
  r.fixAllLocally paths (.start false)

/-! ## Explaining -/

/-- Have the service explain a file. -/
def explain (r : Reviewer σ) (path : String) : Run σ String :=
  match r.service with
  | none => Run.fail .serviceMissing
  | some service => do
    let content ← Run.readText r.storage path
    Run.ask service (Prompt.explain content path)

end Reviewer
end CodeReview
