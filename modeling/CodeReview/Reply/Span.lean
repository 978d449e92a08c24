import CodeReview.Text.Blank

/-!
# The object inside a reply

A service is asked for a JSON object and often wraps it in prose, or is cut off before it has
closed every bracket.  `Span.extract?` takes what lies between the first opening and the last
closing brace; `Span.balance` closes what is open in it.

Balancing counts brackets over the whole span, those inside strings too, and closes every array
before the first object.  It is a guess: what it returns is read by the strict reader again, so a
wrong guess is noticed there.
-/

set_option autoImplicit false

namespace CodeReview.Reply.Span

open CodeReview.Text

/-- The text from the first opening brace to the last closing brace behind it. -/
def extract? (cs : List Char) : Option (List Char) :=
  match dropEndWhile (· != '\x7d') (cs.dropWhile (· != '\x7b')) with
  | [] => none
  | span => some span

/-- The text without a comma at its end. -/
def dropFinalComma (cs : List Char) : List Char :=
  if cs.getLast? = some ',' then cs.dropLast else cs

/-- As many closing brackets as opening ones lack. -/
def closers (opening closing : Char) (cs : List Char) : List Char :=
  List.replicate (cs.count opening - cs.count closing) closing

/-- The span without blanks and one comma at its end, its arrays closed and then its objects. -/
def balance (span : List Char) : List Char :=
  dropFinalComma (trimEnd span) ++ closers '[' ']' span ++ closers '\x7b' '\x7d' span

/-! ## Text without braces around the object -/

/-- A text without an opening brace has no span. -/
theorem extract?_eq_none {cs : List Char} (h : '\x7b' ∉ cs) : extract? cs = none := by
  have : cs.dropWhile (· != '\x7b') = [] := by
    induction cs with
    | nil => rfl
    | cons c cs ih =>
      simp only [List.mem_cons, not_or] at h
      rw [List.dropWhile_cons, if_pos (by simpa using fun he => h.1 he.symm)]
      exact ih h.2
  simp [extract?, this, dropEndWhile]

/-- Prose before the first opening brace does not matter. -/
theorem extract?_append_left {a cs : List Char} (h : '\x7b' ∉ a) :
    extract? (a ++ cs) = extract? cs := by
  have : (a ++ cs).dropWhile (· != '\x7b') = cs.dropWhile (· != '\x7b') := by
    induction a with
    | nil => rfl
    | cons c a ih =>
      simp only [List.mem_cons, not_or] at h
      rw [List.cons_append, List.dropWhile_cons, if_pos (by simpa using fun he => h.1 he.symm)]
      exact ih h.2
  rw [extract?, extract?, this]

end CodeReview.Reply.Span
