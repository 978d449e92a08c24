import CodeReview.Fault

/-!
# Asking for findings

Findings are asked for page by page.  The first page names the most findings it may hold; a later
one also says how many were delivered before, so that a change of the page size loses no place.
-/

set_option autoImplicit false

namespace CodeReview.Prompt

/-- A text that is there and not empty. -/
def present (s : Option String) : Option String := s.filter (· ≠ "")

/-- A file between fences. -/
def fenced (content : String) : String := "```\n" ++ content ++ "\n```"

/-- The shape of the answer asked for. -/
def analysisShape : String :=
  "\x7b\n"
    ++ "  \"issues\": [\n"
    ++ "    \x7b\n"
    ++ "      \"line\": number,\n"
    ++ "      \"severity\": \"critical|high|medium|low\",\n"
    ++ "      \"category\": \"string\",\n"
    ++ "      \"message\": \"string\",\n"
    ++ "      \"suggestedFix\": \"string\",\n"
    ++ "      \"autoFixable\": boolean\n"
    ++ "    \x7d\n"
    ++ "  ],\n"
    ++ "  \"hasMore\": boolean,\n"
    ++ "  \"summary\": \"整体评价（只在最后一个 chunk 给出）\",\n"
    ++ "  \"suggestions\": [\"整体改进建议（只在最后一个 chunk 给出）\"],\n"
    ++ "  \"architecturalInsights\": [\"更高层面的观察（只在最后一个 chunk 给出）\"]\n"
    ++ "\x7d"

/-- A request for one page of findings about a file.  Chunks count from zero. -/
structure Page where
  content : String
  path : String
  chunk : Int
  delivered : Int
  pageSize : Int
  projectType : Option String
  framework : Option String
  deriving Repr, DecidableEq, Inhabited

namespace Page

/-- What a first page is told. -/
def firstInstruction (pageSize : Int) : String :=
  "**分页输出要求：**\n"
    ++ s!"如果发现的问题超过 {pageSize} 条，只返回前 {pageSize} 条，并设置 \"hasMore\": true。\n"
    ++ s!"如果不超过 {pageSize} 条，全部返回，并设置 \"hasMore\": false。\n"

/-- The words that mark the request for a later page. -/
def continuationMark : String := "续传请求"

/-- What a later page is told. -/
def nextInstruction (chunk delivered pageSize : Int) : String :=
  let number := chunk + 1
  let first := delivered + 1
  let last := delivered + pageSize
  "**" ++ continuationMark ++ s!"（第 {number} 个 chunk）：**\n"
    ++ s!"你之前已经返回了 {delivered} 条问题（第 1-{delivered} 条）。\n"
    ++ s!"现在请返回接下来最多 {pageSize} 条问题"
    ++ s!"（第 {first}-{last} 条），不要重复已返回的问题。\n"
    ++ "如果之后还有问题，设置 \"hasMore\": true；如果这是最后一批，设置 \"hasMore\": false。\n"

/-- What the page is told about its size and place. -/
def instruction (p : Page) : String :=
  if p.chunk = 0 then firstInstruction p.pageSize
  else nextInstruction p.chunk p.delivered p.pageSize

/-- What is known about the project. -/
def projectLines (p : Page) : String :=
  match present p.projectType, present p.framework with
  | none, none => ""
  | type, framework =>
    let type := type.getD "Unknown"
    let framework := framework.getD "Unknown"
    s!"项目类型: {type}\n框架: {framework}\n\n"

/-- What is asked for, between the file and the instruction. -/
def topics : String :=
  "请找出所有问题，包括：\n"
    ++ "1. 安全漏洞（注入、XSS、硬编码密钥等）\n"
    ++ "2. 性能问题（低效算法、内存泄漏、多余操作）\n"
    ++ "3. 代码质量（重复、复杂度、可维护性）\n"
    ++ "4. 最佳实践违背（命名、结构、模式）\n"
    ++ "5. 类型安全问题（如果是有类型的语言）\n"
    ++ "6. 错误处理问题\n"
    ++ "7. 可访问性问题（如果是 UI 代码）\n"
    ++ "8. 测试缺口（难以测试的代码、遗漏的边界情况）\n\n"
    ++ "每个问题需要给出：行号（可以是近似值）、severity、category、问题描述、具体修复建议、是否可自动修复。\n\n"

/-- The text of the request. -/
def prompt (p : Page) : String :=
  "你是资深代码审查工程师，请对下面的代码做一次完整审查。\n\n"
    ++ p.projectLines
    ++ "path: " ++ p.path ++ "\n\n"
    ++ fenced p.content ++ "\n\n"
    ++ topics
    ++ p.instruction ++ "\n"
    ++ "输出 JSON（不要输出其它内容）：\n"
    ++ analysisShape ++ "\n"

/-- The text of a request whose numbers make sense: no chunk before the first, and room for a
finding at least. -/
def prompt? (p : Page) : Except Fault String :=
  if p.chunk < 0 then .error (.argument (.negative "chunk_index"))
  else if p.pageSize ≤ 0 then .error (.argument (.notPositive "page_size"))
  else .ok p.prompt

theorem prompt?_eq_ok {p : Page} (hc : 0 ≤ p.chunk) (hs : 0 < p.pageSize) :
    p.prompt? = .ok p.prompt := by
  rw [prompt?, if_neg (by omega), if_neg (by omega)]

end Page
end CodeReview.Prompt
