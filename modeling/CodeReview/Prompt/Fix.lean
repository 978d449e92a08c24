import CodeReview.Finding.Basic
import CodeReview.Prompt.Analysis

/-!
# Asking for a fix

One finding is fixed at a time: the request holds the whole file as it is now and asks for the
whole file as it should be, with a confidence.
-/

set_option autoImplicit false

namespace CodeReview.Prompt

/-- The shape of the answer asked for. -/
def fixShape : String :=
  "\x7b\n"
    ++ "  \"fixedCode\": \"修复后的完整代码\",\n"
    ++ "  \"explanation\": \"改了什么、为什么\",\n"
    ++ "  \"confidence\": number (0-100)\n"
    ++ "\x7d"

/-- The heading above the file. -/
def codeHeading : String := "原始代码：\n"

/-- The heading below the file. -/
def findingHeading : String := "待修复问题："

/-- The finding, as the request shows it. -/
def findingLines (f : Finding) : String :=
  s!"- 第 {f.line} 行: {f.message}\n"
    ++ s!"- category: {f.category}\n"
    ++ s!"- severity: {f.severity.word}\n"
    ++ "- 建议思路: " ++ (present f.suggestedFix).getD "无" ++ "\n\n"

/-- A line of context, if there is any. -/
def contextLine (context : Option String) : String :=
  match present context with
  | none => ""
  | some c => "上下文: " ++ c ++ "\n\n"

/-- The text of the request. -/
def fix (content : String) (f : Finding) (context : Option String) : String :=
  "你是资深开发工程师，需要修复下面代码中的一个问题。\n\n"
    ++ contextLine context
    ++ codeHeading ++ fenced content ++ "\n\n"
    ++ findingHeading ++ "\n"
    ++ findingLines f
    ++ "请给出：\n"
    ++ "1. 修复后的**完整**代码（不是只给改动的行）\n"
    ++ "2. 改动说明\n"
    ++ "3. 你对这个修复正确且安全的置信度（0-100）\n\n"
    ++ "输出 JSON（不要输出其它内容）：\n"
    ++ fixShape ++ "\n"

end CodeReview.Prompt
