import CodeReview.Prompt.Fix
import CodeReview.Reply.Patch
import CodeReview.Session.Service

/-!
# Fixing findings one after another

Each finding is shown to the service together with the text as the fixes before it left it.  A
proposal whose confidence is above the threshold replaces the text; any other, and a request that
fails for whatever reason, leaves it alone.  Nothing is written here: the text goes back to who
asked.
-/

set_option autoImplicit false

namespace CodeReview

/-- A record of an accepted fix. -/
structure FixDetail where
  file : String
  line : Nat
  finding : String
  confidence : Nat
  explanation : String
  deriving Repr, DecidableEq, Inhabited

/-- What became of a text and of the findings in it. -/
structure FixBatch where
  text : String
  fixed : Nat
  failed : Nat
  details : List FixDetail
  deriving Repr, DecidableEq, Inhabited

namespace FixBatch

/-- The text before the first fix. -/
def start (text : String) : FixBatch := ⟨text, 0, 0, []⟩

/-- A finding that was not fixed. -/
def reject (b : FixBatch) : FixBatch := { b with failed := b.failed + 1 }

/-- A finding that was fixed. -/
def accept (b : FixBatch) (path : String) (f : Finding) (p : Proposal) : FixBatch where
  text := p.patched
  fixed := b.fixed + 1
  failed := b.failed
  details := b.details ++ [⟨path, f.line, f.message, p.confidence, p.explanation⟩]

end FixBatch

namespace Fixing

variable {σ : Type}

/-- A proposal has to be surer than this, unless said otherwise. -/
def standardThreshold : Int := 70

/-- Ask for a fix of one finding. -/
def propose [Text.Spare] (service : Service σ) (text : String) (f : Finding)
    (context : Option String) : Run σ Proposal := do
  let reply ← Run.ask service (Prompt.fix text f context)
  Run.ofReading (Reply.readProposal reply text)

/-- One finding of a file. -/
def step [Text.Spare] (service : Service σ) (threshold : Int) (path : String) (b : FixBatch)
    (f : Finding) : Run σ FixBatch := do
  Run.log .info s!"Fixing {path}:{f.line}: {f.message}"
  match ← (propose service b.text f none).attempt with
  | .error e =>
    Run.log .error (s!"Fix request failed for {path}:{f.line}: " ++ e.message)
    pure b.reject
  | .ok p =>
    if p.confidence ≤ threshold then
      Run.log .warning
        s!"Skipped fix for {path}:{f.line} (confidence too low: {p.confidence}%)"
      pure b.reject
    else
      Run.log .info s!"Fixed {path}:{f.line} with {p.confidence}% confidence"
      pure (b.accept path f p)

/-- The findings of a file in order, from where the batch is. -/
def steps [Text.Spare] (service : Service σ) (threshold : Int) (path : String) :
    FixBatch → List Finding → Run σ FixBatch
  | b, [] => pure b
  | b, f :: fs => do
    let b ← step service threshold path b f
    steps service threshold path b fs

/-- The findings of a file in order. -/
def applyFixes [Text.Spare] (service : Service σ) (threshold : Int) (text path : String)
    (findings : List Finding) : Run σ FixBatch :=
  steps service threshold path (.start text) findings

end Fixing
end CodeReview
