import CodeReview.Address.Reference
import CodeReview.Http.Basic

/-!
# Routes

An application is a list of routes.  A client sends a request to a reference (`App.send`), and the
application looks at its path only: the request goes to the route with its path and method.  A
known path with another method and an unknown path are refused in different ways; a path that is
known but for slashes at its end is sent on to where it should be.

A route that lets out a fault, or whose answer cannot be written, becomes a failure of the server
and says nothing else.
-/

set_option autoImplicit false

namespace CodeReview.Http

open CodeReview.Json (Value)

variable {σ : Type}

/-! ## Sending a request -/

/-- A method in capital letters: what has one in ASCII takes it. -/
def capital (c : Char) : List Char :=
  match c.toNat with
  | 0x131 => ['I']
  | 0x17F => ['S']
  | 0xDF => ['S', 'S']
  | 0xFB00 => ['F', 'F']
  | 0xFB01 => ['F', 'I']
  | 0xFB02 => ['F', 'L']
  | 0xFB03 => ['F', 'F', 'I']
  | 0xFB04 => ['F', 'F', 'L']
  | 0xFB05 => ['S', 'T']
  | 0xFB06 => ['S', 'T']
  | _ => [c.toUpper]

/-- Where references without a host lead. -/
def home : Reference := ⟨"http", "", "t", none, "", none, none⟩

/-- The path that a reference leads to, with no bytes in percent signs. -/
def pathOf (r : Reference) : String :=
  let path := if r.path = "" then ['/'] else r.path.toList
  String.ofList (Text.decodeLossy (Address.decodeBytes path))

/-- Where a client sends a request that names this reference. -/
def destination (reference : String) : Except Fault Reference :=
  ((Reference.parse reference).bind (Reference.resolved home)).mapError .reference

/-- What a client sends along. -/
inductive Payload where
  | nothing
  | json (v : Value)
  | text (s : String)
  deriving Repr, Inhabited

/-- The bytes of what is sent along. -/
def Payload.bytes : Payload → Except Fault (List UInt8)
  | nothing => .ok []
  | json v => if v.isFinite then .ok v.compact.toUTF8.data.toList else .error .notFinite
  | text s => .ok s.toUTF8.data.toList

/-! ## Routes -/

/-- A route. -/
structure Route (σ : Type) where
  methods : List String
  path : String
  handle : Request → Run σ Response

/-- A route that takes a record as the body of the request. -/
def Route.post [Text.Spare] {α : Type} (path : String) (read : Json.Fields → Record.Checked α)
    (handle : α → Run σ Response) : Route σ where
  methods := ["POST"]
  path := path
  handle request :=
    match readRecord read request.body with
    | .error response => pure response
    | .ok a => handle a

/-- A page about the application, which says nothing here. -/
def Route.page (path : String) : Route σ where
  methods := ["GET", "HEAD"]
  path := path
  handle _ := pure ⟨200, .text ""⟩

/-- The pages that every application has. -/
def pages : List (Route σ) :=
  ["/openapi.json", "/docs", "/docs/oauth2-redirect", "/redoc"].map .page

/-- The routes of an application. -/
abbrev App (σ : Type) := List (Route σ)

/-- The route is that of a path; a line end behind the path is not seen. -/
def Route.isAt (path : String) (route : Route σ) : Bool :=
  path == route.path || path == route.path ++ "\n"

/-- A path with slashes at its end leads to a route without them. -/
def App.leadsOn (app : App σ) (path : String) : Bool :=
  let short := String.ofList (Text.dropEndWhile (· == '/') path.toList)
  path != "/" && short != path && app.any (Route.isAt short)

/-- A response that can be written. -/
def Response.orBroken [Text.Spare] (r : Response) : Response :=
  match r.body with
  | .json v => if canShow v then r else .broken
  | _ => r

/-- The response of the application, before a body that nobody wants is dropped. -/
def App.respond [Text.Spare] (app : App σ) (request : Request) : Run σ Response :=
  match app.filter (Route.isAt request.path) with
  | [] =>
    pure (if app.leadsOn request.path then ⟨307, .text ""⟩ else .detail 404 "Not Found")
  | routes =>
    match routes.find? (·.methods.contains request.method) with
    | none => pure (.detail 405 "Method Not Allowed")
    | some route => do
      match ← (route.handle request).attempt with
      | .ok response => pure response.orBroken
      | .error _ => pure .broken

/-- The response of the application. -/
def App.serve [Text.Spare] (app : App σ) (request : Request) : Run σ Response := do
  let response ← app.respond request
  pure (if request.method = "HEAD" then { response with body := .text "" } else response)

/-- What a client gets for its request. -/
def App.send [Text.Spare] (app : App σ) (method reference : String) (payload : Payload) :
    Run σ Response := do
  let r ← Run.ofExcept (destination reference)
  let body ← Run.ofExcept payload.bytes
  Run.ofExcept (r.checkHost.mapError .host)
  let response ← app.serve ⟨String.ofList (method.toList.flatMap capital), pathOf r, body⟩
  Run.ofExcept (r.checkBrackets.mapError .host)
  pure response

end CodeReview.Http
