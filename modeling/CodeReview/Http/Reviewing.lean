import CodeReview.Http.Route
import CodeReview.Report.Encoded
import CodeReview.Review.Fix

/-!
# Reviews over HTTP

The routes of a reviewer: reviewing a tree or a text, fixing with and without the service,
explaining a file.  A path that leads nowhere is told before anything else is looked at, and so is
the lack of a service where one is needed.
-/

set_option autoImplicit false

namespace CodeReview.Http

open CodeReview.Json (Value Fields)
open CodeReview.Record (Checked required optional nullable oneOf text bool)

variable {σ : Type}

/-! ## What is asked -/

/-- Review what is at or below a path. -/
structure ReviewRequest where
  targetPath : String
  mode : Option Mode

/-- Review a text. -/
structure TextRequest where
  path : String
  content : String
  mode : Option Mode

/-- Fix what is at or below a path. -/
structure FixRequest where
  targetPath : String
  dryRun : Bool

/-- A mode that is asked for. -/
def modeField (fields : Fields) : Checked (Option Mode) :=
  optional fields "mode" none (nullable (oneOf Mode.words))

/-- Which tree to review. -/
def ReviewRequest.ofFields (fields : Fields) : Checked ReviewRequest :=
  pure ReviewRequest.mk <*> required fields "target_path" text <*> modeField fields

/-- Which text to review. -/
def TextRequest.ofFields (fields : Fields) : Checked TextRequest :=
  pure TextRequest.mk <*> required fields "path" text <*> required fields "content" text
    <*> modeField fields

/-- Which tree to fix. -/
def FixRequest.ofFields (fields : Fields) : Checked FixRequest :=
  pure FixRequest.mk <*> required fields "target_path" text
    <*> optional fields "dry_run" false bool

/-! ## What is answered -/

/-- The value of what became of the findings in files. -/
def fixRunValue (o : FixRun) : Value :=
  .obj
    [("fixed", .ofNat o.fixed), ("failed", .ofNat o.failed), ("eligible", .ofNat o.eligible),
      ("files_changed", .ofTexts o.filesChanged),
      ("details", .arr (o.details.map FixDetail.toValue)), ("dry_run", .bool o.dryRun)]

/-- Go on if something is at the end of a path. -/
def ifThere (r : Reviewer σ) (path : String) (go : Run σ Response) : Run σ Response := fun s =>
  if r.storage.isThere path s then go s
  else (pure (.detail 404 ("Path not found: " ++ path)) : Run σ Response) s

/-- Go on if a file is at the end of a path. -/
def ifFile (r : Reviewer σ) (path : String) (go : Run σ Response) : Run σ Response := fun s =>
  if r.storage.isFile path s then go s
  else (pure (.detail 404 ("File not found: " ++ path)) : Run σ Response) s

/-- Go on if there is a service. -/
def ifServed (r : Reviewer σ) (otherwise : String) (go : Run σ Response) : Run σ Response :=
  if r.service.isSome then go else pure (.detail 503 otherwise)

/-- Review a tree. -/
def answerReview [Text.Spare] (r : Reviewer σ) (timestamp : String) (q : ReviewRequest) :
    Run σ Response :=
  ifThere r q.targetPath do
    pure (.ok (← r.review q.targetPath q.mode timestamp).toValue)

/-- Review a text. -/
def answerText [Text.Spare] (r : Reviewer σ) (q : TextRequest) : Run σ Response := do
  pure (.ok (.arr ((← r.reviewText q.content q.path q.mode).map Finding.toValue)))

/-- Fix a tree with the service. -/
def answerFix [Text.Spare] (r : Reviewer σ) (q : FixRequest) : Run σ Response :=
  ifThere r q.targetPath <| ifServed r "AI fixes require a configured LLM" do
    pure (.ok (fixRunValue (← r.fix q.targetPath q.dryRun)))

/-- Fix a tree without the service. -/
def answerLocalFix (r : Reviewer σ) (targetPath : String) : Run σ Response :=
  ifThere r targetPath do
    pure (.ok (fixRunValue (← r.localFix targetPath)))

/-- Explain a file. -/
def answerExplain (r : Reviewer σ) (path : String) : Run σ Response :=
  ifFile r path <| ifServed r Fault.serviceMissing.message do
    let explanation ← r.explain path
    pure (.ok (.obj [("path", .str path), ("explanation", .str explanation)]))

/-! ## The routes -/

/-- The routes of a reviewer, whose reports bear this time. -/
def reviewRoutes [Text.Spare] (r : Reviewer σ) (timestamp : String) : App σ :=
  pages ++
    [.post "/review" ReviewRequest.ofFields (answerReview r timestamp),
      .post "/review/file" TextRequest.ofFields (answerText r),
      .post "/fix" FixRequest.ofFields (answerFix r),
      .post "/fix/local" (fun fields => required fields "target_path" text) (answerLocalFix r),
      .post "/explain" (fun fields => required fields "path" text) (answerExplain r)]

/-- Tells that the application is alive. -/
def healthRoute : Route σ where
  methods := ["GET"]
  path := "/health"
  handle _ := pure (.ok (.obj [("status", .str "ok")]))

end CodeReview.Http
