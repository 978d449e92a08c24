import CodeReview.Chat.Message
import CodeReview.Json.Writer
import CodeReview.Prompt.Fix
import CodeReview.Prompt.Purpose
import CodeReview.Session.Service
import CodeReview.Text.Blank
import CodeReview.Text.Lines

/-!
# A stand-in for the completion service

For rehearsals without a service.  It knows the four requests apart and answers each in the shape
asked for: findings in two pages, of which the first is cut off on purpose; a fix that gives the
code back as it was; a review of the architecture; and a sentence of prose.

The code of a fix is found again in the prompt: it stands between the heading above it and the
first place behind that looks like its end.
-/

set_option autoImplicit false

namespace CodeReview.Chat.StandIn

open CodeReview.Json (Value)
open CodeReview.Text

/-- What stands right before the code in a request for a fix. -/
def codeStart : List Char := (Prompt.codeHeading ++ "```\n").toList

/-- What stands right behind it. -/
def codeEnd : List Char := ("\n```\n\n" ++ Prompt.findingHeading).toList

/-- The code in a request for a fix. -/
def codeIn (prompt : List Char) : List Char :=
  match splitAtFirst? codeStart prompt with
  | none => []
  | some (_, rest) =>
    match splitAtFirst? codeEnd rest with
    | none => []
    | some (code, _) => code

/-- The answer to a request for a fix. -/
def fixReply (prompt : String) : String :=
  (Value.obj
    [("fixedCode", .str (String.ofList (codeIn prompt.toList))),
      ("explanation", .str "[MOCK] 未做改动"), ("confidence", .int 90)]).inline

/-- The answer to a request for a review of the architecture. -/
def architectureReply : String :=
  (Value.obj
    [("overallQuality", .int 75), ("insights", .arr [.str "[MOCK] 分层清晰"]),
      ("recommendations", .arr [.str "[MOCK] 抽出公共错误处理"]),
      ("securityConcerns", .arr [])]).inline

/-- What stands before the path in its line. -/
def pathLabel : List Char := "path: ".toList

/-- The path that a request is about: what stands behind the label in the first line that starts
with it. -/
def pathIn? (prompt : String) : Option String :=
  (logicalLines prompt.toList).findSome? fun line =>
    (after? pathLabel (trim line)).map fun path => String.ofList (trim path)

/-- The finding of the first page. -/
def firstIssue (path : String) : Value :=
  .obj
    [("line", .int 1), ("severity", .str "high"), ("category", .str "Error Handling"),
      ("message", .str ("[MOCK] " ++ path ++ ": 建议补充更严格的错误处理与边界校验。")),
      ("suggestedFix", .str "为外部输入增加校验，并记录异常。"), ("autoFixable", .bool false)]

/-- The first page, cut off behind its first finding. -/
def firstPage (path : String) : String :=
  "Here is the first batch:\n```json\n\x7b\"hasMore\": true, \"issues\": ["
    ++ (firstIssue path).inline ++ ",\n"

/-- The last page. -/
def lastPage (path : String) : String :=
  "```json\n"
    ++ (Value.obj
      [("issues", .arr
          [.obj
            [("line", .int 2), ("severity", .str "low"), ("category", .str "Code Quality"),
              ("message", .str ("[MOCK] " ++ path ++ ": 建议为关键逻辑添加单元测试。")),
              ("autoFixable", .bool false)]]),
        ("hasMore", .bool false), ("summary", .str "[MOCK] 整体结构清晰，错误处理需要加强。"),
        ("suggestions", .arr [.str "[MOCK] 增加测试覆盖"]),
        ("architecturalInsights", .arr [.str "[MOCK] 模块职责划分合理"])]).inline
    ++ "\n```"

/-- The answer to a request for a page of findings. -/
def pageReply (prompt : String) : Except Fault String :=
  match pathIn? prompt with
  | none => .error (.standIn .noPathLine)
  | some path =>
    if occursIn Prompt.Page.continuationMark.toList prompt.toList then .ok (lastPage path)
    else .ok (firstPage path)

/-- The answer to a request for prose. -/
def proseReply : String := "[MOCK] 这段代码实现了一个简单的模块，没有发现明显问题。"

/-- The answer to a prompt. -/
def answer (prompt : String) : Except Fault String :=
  match Prompt.Purpose.ofPrompt prompt with
  | .fix => .ok (fixReply prompt)
  | .architecture => .ok architectureReply
  | .analysis => pageReply prompt
  | .explanation => .ok proseReply

/-- The answer to a conversation: what the user said counts as one prompt. -/
def reply (messages : List Message) : Except Fault String :=
  match (messages.filter (·.role = "user")).map (·.content) with
  | [] => .error (.standIn .noUserMessage)
  | texts => answer (String.intercalate "\n" texts)

/-- The stand-in as a service. -/
def service {σ : Type} : Service σ where
  reply prompt s := ⟨reply [.ofUser prompt], s, []⟩

end CodeReview.Chat.StandIn
