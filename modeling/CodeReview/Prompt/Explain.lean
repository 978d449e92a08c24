import CodeReview.Prompt.Analysis

/-!
# Asking for an explanation

This request alone asks for prose: the answer is passed on as it is.
-/

set_option autoImplicit false

namespace CodeReview.Prompt

/-- The text of the request. -/
def explain (content path : String) : String :=
  "请分析下面的代码，清晰地解释它做了什么、目的是什么，以及值得注意的模式或问题。\n\n"
    ++ "path: " ++ path ++ "\n\n"
    ++ fenced content ++ "\n\n"
    ++ "回答要简洁但完整。"

end CodeReview.Prompt
