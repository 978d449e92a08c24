import CodeReview.Prompt.Architecture
import CodeReview.Reply.Architecture
import CodeReview.Session.Service

/-!
# Asking for a review of the architecture

One request about several files.  If it fails, the review says nothing.
-/

set_option autoImplicit false

namespace CodeReview

/-- What a service says about the architecture of files, given by path and content. -/
def reviewArchitecture [Text.Spare] {σ : Type} (service : Service σ)
    (files : List (String × String)) (projectType : Option String) : Run σ Architecture := do
  match ← (Run.ask service (Prompt.architecture files projectType)).attempt with
  | .error e =>
    Run.log .error ("Architecture review request failed: " ++ e.message)
    pure .empty
  | .ok reply => Run.ofReading (Reply.readArchitecture reply)

end CodeReview
