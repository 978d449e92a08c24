import CodeReview.Reply.Analysis

/-!
# The reply to a request for a fix

`readProposal` makes a `Proposal` of any reply: the whole new text of the file, how sure the
service is of it, and why it made the change.  A reply without a new text proposes the text as it
was; a reply without an object proposes it without any confidence.
-/

set_option autoImplicit false

namespace CodeReview

open CodeReview.Json (Value Fields)

/-- A whole text proposed in place of another; the confidence is a percentage. -/
structure Proposal where
  before : String
  patched : String
  explanation : String
  confidence : Nat
  deriving Repr, DecidableEq, Inhabited

namespace Reply

/-- The string of a field, another text if it has none or an empty one. -/
def textOr (other : String) (v : Option Value) : String := (v.bind text?).getD other

/-- The proposal that the fields of a reply make for a text. -/
def proposalOf (before : String) (fields : Fields) (confidence : Nat) : Proposal where
  before := before
  patched := textOr before (fields.get? "fixedCode")
  explanation := textOr "No explanation provided" (fields.get? "explanation")
  confidence := confidence

/-- The proposal for a text that a reply holds. -/
def readProposal [Text.Spare] (text before : String) : Reading Proposal := do
  match ← load text with
  | none => pure ⟨before, before, "Failed to generate fix", 0⟩
  | some fields => do
    pure (proposalOf before fields
      (← .ofExcept (percent ((fields.get? "confidence").getD .null))))

end Reply
end CodeReview
