import CodeReview.Chat.Client
import CodeReview.Chat.StandIn
import CodeReview.Disk.Discover
import CodeReview.Http.Reviewing
import CodeReview.Settings.Load

/-!
# Applications

Two applications put together.  The reviewing one takes its settings from an environment, asks the
chat interface they name, and adds a sign of life to the routes of its reviewer.  The other one is
the stand-in behind a chat interface.
-/

set_option autoImplicit false

namespace CodeReview.Http

open CodeReview.Json (Value Fields)
open CodeReview.Record (Checked required optional list text)

variable {σ : Type}

/-- The reviewer that settings make. -/
def reviewerOf [Text.Spare] (settings : Settings) (transport : Chat.Transport σ)
    (storage : Storage σ) : Except Fault (Reviewer σ) := do
  let client ← Chat.Client.ofSettings settings.service
  .ok ⟨settings.review, some (client.service transport), storage, Disk.defaultExtensions⟩

/-- The reviewing application. -/
def reviewApp [Text.Spare] (env : Environment) (transport : Chat.Transport σ) (storage : Storage σ)
    (timestamp : String) : Except Fault (App σ) := do
  let settings ← Settings.load env
  let reviewer ← reviewerOf settings transport storage
  .ok (healthRoute :: reviewRoutes reviewer timestamp)

/-- What is asked of a chat interface: a model and a conversation. -/
structure ChatRequest where
  model : String
  messages : List Chat.Message

/-- A conversation from its fields. -/
def ChatRequest.ofFields (fields : Fields) : Checked ChatRequest :=
  pure ChatRequest.mk <*> required fields "model" text
    <*> optional fields "messages" [] (list (record Chat.Message.ofFields))

/-- The answer of a chat interface with this content. -/
def chatValue (content : String) : Value :=
  .obj [("choices", .arr [.obj [("message", .obj [("content", .str content)])]])]

/-- The stand-in behind a chat interface. -/
def standInApp [Text.Spare] : App σ :=
  pages ++
    [.post "/v1/chat/completions" ChatRequest.ofFields fun q => do
      pure (.ok (chatValue (← Run.ofExcept (Chat.StandIn.reply q.messages))))]

end CodeReview.Http
