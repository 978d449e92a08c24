import CodeReview.Reply.Analysis

/-!
# The reply to a request for a review of the architecture

`readArchitecture` makes an `Architecture` of any reply: a score and three lists of remarks.  A
reply that holds no object is a review that says nothing.
-/

set_option autoImplicit false

namespace CodeReview

open CodeReview.Json (Value Fields)

/-- A review of several files together. -/
structure Architecture where
  quality : Option Int
  insights : List String
  recommendations : List String
  securityConcerns : List String
  deriving Repr, DecidableEq, Inhabited

namespace Architecture

/-- A review that says nothing. -/
def empty : Architecture := ⟨none, [], [], []⟩

end Architecture

namespace Reply

/-- The score of a reply; there is none if it states none. -/
def qualityOf : Option Value → Except Fault (Option Int)
  | none | some .null => .ok none
  | some v => (percent v).map fun n => some (n : Int)

/-- The review that the fields of a reply make. -/
def architectureOf (fields : Fields) (quality : Option Int) : Architecture where
  quality := quality
  insights := texts (fields.get? "insights")
  recommendations := texts (fields.get? "recommendations")
  securityConcerns := texts (fields.get? "securityConcerns")

/-- The review of an architecture that a reply holds. -/
def readArchitecture [Text.Spare] (text : String) : Reading Architecture := do
  match ← load text with
  | none => pure .empty
  | some fields => do
    pure (architectureOf fields (← .ofExcept (qualityOf (fields.get? "overallQuality"))))

end Reply
end CodeReview
