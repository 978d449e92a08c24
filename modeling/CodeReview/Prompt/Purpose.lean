import CodeReview.Text.Search

/-!
# Telling requests apart

Three of the four requests ask for JSON with a field that no other request has, and by it a request
is recognised (`Purpose.ofPrompt`); the fourth asks for prose.
-/

set_option autoImplicit false

namespace CodeReview.Prompt

/-- What a request is for. -/
inductive Purpose where
  | analysis
  | fix
  | architecture
  | explanation
  deriving Repr, DecidableEq, Inhabited

namespace Purpose

/-- The field of the answer by which a request is known. -/
def marks : List (String × Purpose) :=
  [("\"fixedCode\"", fix), ("\"overallQuality\"", architecture), ("\"hasMore\"", analysis)]

/-- What a prompt asks for: the first mark in it decides, and prose is asked for without one. -/
def ofPrompt (prompt : String) : Purpose :=
  ((marks.find? fun (mark, _) => Text.occursIn mark.toList prompt.toList).map Prod.snd).getD
    explanation

end Purpose
end CodeReview.Prompt
