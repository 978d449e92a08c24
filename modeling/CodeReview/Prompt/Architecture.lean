import CodeReview.Prompt.Analysis

/-!
# Asking for a review of the architecture

One request shows the beginnings of several files and asks for a score and remarks.
-/

set_option autoImplicit false

namespace CodeReview.Prompt

/-- The shape of the answer asked for. -/
def architectureShape : String :=
  "\x7b\n"
    ++ "  \"overallQuality\": number (0-100),\n"
    ++ "  \"insights\": [\"...\"],\n"
    ++ "  \"recommendations\": [\"...\"],\n"
    ++ "  \"securityConcerns\": [\"...\"]\n"
    ++ "\x7d"

/-- The number of characters shown of each file. -/
def shownChars : Nat := 2000

/-- The beginning of a file under its path. -/
def excerpt (file : String × String) : String :=
  let (path, content) := file
  "path: " ++ path ++ "\n" ++ fenced (String.ofList (content.toList.take shownChars)) ++ "\n"

/-- What is known about the project. -/
def projectLine (projectType : Option String) : String :=
  match present projectType with
  | none => ""
  | some t => "项目类型: " ++ t ++ "\n\n"

/-- The text of the request, for files given by path and content. -/
def architecture (files : List (String × String)) (projectType : Option String) : String :=
  "你是资深软件架构师，正在评审一个代码库。\n\n"
    ++ projectLine projectType
    ++ "待评审文件：\n\n" ++ String.intercalate "\n" (files.map excerpt) ++ "\n"
    ++ "请给出：\n"
    ++ "1. 整体代码质量分数（0-100）\n"
    ++ "2. 关键的架构观察与模式\n"
    ++ "3. 改进建议\n"
    ++ "4. 架构层面的安全隐患\n\n"
    ++ "输出 JSON（不要输出其它内容）：\n"
    ++ architectureShape ++ "\n"

end CodeReview.Prompt
