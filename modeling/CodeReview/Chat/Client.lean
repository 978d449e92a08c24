import CodeReview.Address.Reference
import CodeReview.Chat.Message
import CodeReview.Json.Shown
import CodeReview.Json.Writer
import CodeReview.Session.Service
import CodeReview.Settings.Basic
import CodeReview.Text.Base64

/-!
# Asking a chat interface

A client sends a conversation to the chat interface of a service and takes the content of the first
choice in the answer.  What carries the request (`Transport`) is given: it brings back a status and
a body, or says that nobody answers.  A status that is no success and an answer without content are
faults, and both are logged.  A request that cannot be made is never sent.

The body is trusted no further than needed: whatever else it holds is not looked at.
-/

set_option autoImplicit false

namespace CodeReview.Chat

open CodeReview.Json (Value Fields)

/-- A request to a chat interface. -/
structure Request where
  url : Reference
  authorization : String
  body : Value

/-- An answer as it comes: a status and a body. -/
structure Reply where
  status : Nat
  body : Value

/-- What carries a request; no reply means that nobody answered. -/
abbrev Transport (σ : Type) := Request → σ → Option Reply × σ

/-- Who asks whom, and for what; the options are sent as they are. -/
structure Client where
  key : String
  base : Reference
  model : String
  options : Fields

namespace Client

/-! ## The request -/

/-- A reference whose path ends in a slash. -/
def asDirectory (r : Reference) : Except Reference.Flaw Reference :=
  let (path, query) := Text.cutAt '?' r.target.toList
  if path.getLast? == some '/' then .ok r
  else
    r.withTarget (String.ofList (path ++ '/' :: query.elim [] ('?' :: ·)))

/-- The client for a key and the address of a service. -/
def make (key : Option String) (address model : String) (options : Fields) :
    Except Fault Client :=
  match key.filter (· ≠ "") with
  | none => .error .keyMissing
  | some key => do
    let base ← (Reference.parse (Address.chatBase address)).mapError .reference
    let base ← (asDirectory base).mapError .reference
    .ok ⟨key, base, model, options⟩

/-- The client that settings make. -/
def ofSettings (s : ServiceSettings) : Except Fault Client :=
  make (some s.key) s.address.text s.model
    [("max_tokens", .int s.maxTokens), ("temperature", .real s.temperature)]

/-- The body of a request. -/
def body (c : Client) (messages : List Message) : Value :=
  .obj
    (("messages", .arr (messages.map Message.toValue)) :: ("model", .str c.model) :: c.options)

/-- Go on unless something keeps a text from being written. -/
def checkText (obstacle : Option Text.Unencodable) : Except Fault Unit :=
  match obstacle with
  | some u => .error (.unencodable u)
  | none => .ok ()

/-- A part of a user text, with no bytes in percent signs. -/
def plainBytes (cs : List Char) : List UInt8 :=
  (String.ofList (Text.decodeLossy (Address.decodeBytes cs))).toUTF8.data.toList

/-- How the client proves who it is: by user name and password if the reference names them, else by
its key. -/
def authorization (bearer : String) (r : Reference) : String :=
  let (name, word) := Text.cutAt ':' r.user.toList
  let word := word.getD []
  if name.isEmpty && word.isEmpty then bearer
  else
    "Basic " ++ String.ofList
      (Text.Base64.encode (plainBytes name ++ 58 :: plainBytes word))

/-- The request for a conversation.  The reference is read once more from its text; if it leads
nowhere by itself, only its path and query are left. -/
def request [Text.Spare] (c : Client) (messages : List Message) : Except Fault Request := do
  let bearer := "Bearer " ++ c.key
  checkText (Text.notAscii? bearer)
  let url ← (c.base.withTarget (c.base.target ++ "chat/completions")).mapError .reference
  let body := c.body messages
  if !body.isFinite then .error .notFinite
  checkText (Text.unwritable? body.compact)
  let url ← (url.reread.bind (Reference.resolved .empty)).mapError .reference
  url.checkHost.mapError .host
  .ok ⟨url, authorization bearer url, body⟩

/-! ## The answer -/

/-- The first entry of a value that should be a list. -/
def first? : Value → Except ShapeFault Value
  | .arr [] => .error (.noItems "list")
  | .arr (v :: _) => .ok v
  | .str s => match s.toList with
    | [] => .error (.noItems "string")
    | c :: _ => .ok (.str (String.singleton c))
  | .obj _ => .error .noKey
  | v => .error (.notIndexable v.kindName)

/-- The field of a value that should be an object; a field that is not there is null. -/
def field? (name : String) : Value → Except ShapeFault Value
  | .obj fields => .ok ((fields.lookup name).getD .null)
  | v => .error (.noField v.kindName name)

/-- The content of an answer. -/
def content? (body : Value) : Except ShapeFault Value := do
  field? "content" (← field? "message" (← first? (← field? "choices" body)))

/-- The length of a content and its text; a content that has no length is none. -/
def textOf? : Value → Except ShapeFault (Nat × String)
  | .str s => .ok (s.length, s)
  | .arr items => .ok (items.length, (Value.arr items).shown)
  | .obj fields => .ok (fields.length, (Value.obj fields).shown)
  | v => .error (.noLength v.kindName)

/-- The status tells of success. -/
def isSuccess (status : Nat) : Bool := 200 ≤ status && status < 300

/-- The text of an answer, and what is logged of it. -/
def readBody (body : Value) : Except Fault String × List LogLine :=
  match content? body with
  | .error e => (.error (.shape e), [])
  | .ok .null => (.error .noContent, [⟨.error, Fault.noContent.message⟩])
  | .ok v =>
    match textOf? v with
    | .error e => (.error (.shape e), [])
    | .ok (count, text) => (.ok text, [⟨.info, s!"LLM response: {count} chars"⟩])

/-- A fault of the exchange, and what is logged of it. -/
def refused (e : Fault) : Except Fault String × List LogLine :=
  (.error e, [⟨.error, "LLM API error: " ++ e.message⟩])

/-- What a reply comes to. -/
def readReply (url : Reference) : Option Reply → Except Fault String × List LogLine
  | none => refused .unreachable
  | some r =>
    if !url.isAbsolute then (.error (.nowhere url.text), [])
    else
      match url.checkBrackets with
      | .error f => (.error (.host f), [])
      | .ok () => if isSuccess r.status then readBody r.body else refused (.status r.status)

/-- Send a conversation and take the text of the answer. -/
def complete [Text.Spare] {σ : Type} (c : Client) (transport : Transport σ)
    (messages : List Message) (s : σ) : Answer σ :=
  let count := messages.length
  let asked : LogLine := ⟨.info, s!"LLM request: model={c.model}, messages={count} msg(s)"⟩
  match c.request messages with
  | .error e => ⟨.error e, s, [asked]⟩
  | .ok request =>
    let (reply, s) := transport request s
    let (result, log) := readReply request.url reply
    ⟨result, s, asked :: log⟩

/-- The client as a service: a prompt is a message of the user. -/
def service [Text.Spare] {σ : Type} (c : Client) (transport : Transport σ) : Service σ where
  reply prompt s := c.complete transport [.ofUser prompt] s

end Client
end CodeReview.Chat
