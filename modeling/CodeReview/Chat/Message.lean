import CodeReview.Fault
import CodeReview.Record.Field

/-!
# Chat messages

What a chat interface exchanges: a text and the role of who says it.
-/

set_option autoImplicit false

namespace CodeReview.Chat

open CodeReview.Json (Value Fields)
open CodeReview.Record (Checked required text model)

/-- A message. -/
structure Message where
  role : String
  content : String
  deriving Repr, DecidableEq, Inhabited

namespace Message

/-- A message of the user. -/
def ofUser (content : String) : Message := ⟨"user", content⟩

/-- A message from its fields. -/
def ofFields (fields : Fields) : Checked Message :=
  pure Message.mk <*> required fields "role" text <*> required fields "content" text

/-- A message from a value. -/
def ofValue? (v : Value) : Except Fault Message :=
  (model ofFields v).toExcept.mapError (.invalid "ChatMessage")

/-- The value of a message. -/
def toValue (m : Message) : Value := .obj [("role", .str m.role), ("content", .str m.content)]

end Message
end CodeReview.Chat
