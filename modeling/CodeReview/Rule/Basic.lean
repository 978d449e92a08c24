import CodeReview.Finding.Order
import CodeReview.Rule.Pattern
import CodeReview.Text.Lines

/-!
# Rules, and scanning a text with them

A rule flags lines.  It sees the path, the line and the lines that follow, and every line it flags
gives one finding with the rule's own wording and the trimmed line as its snippet.  A scan applies
rules in order and sorts what they find.
-/

set_option autoImplicit false

namespace CodeReview

open CodeReview.Text

/-- A rule: who it is, what it says, and which lines it flags. -/
structure Rule where
  id : String
  name : String
  category : String
  severity : Severity
  kind : Kind
  message : String
  suggestedFix : String
  autoFixable : Bool
  /-- whether the rule flags a line of the file at this path, given the lines that follow it -/
  flags : (path : String) → (line : List Char) → (following : List (List Char)) → Bool

namespace Rule

/-- What the rule says of a line. -/
def finding (r : Rule) (path : String) (number : Nat) (line : List Char) : Finding where
  kind := r.kind
  severity := r.severity
  category := r.category
  message := r.message
  file := path
  line := number
  column := none
  snippet := some (String.ofList (trim line))
  suggestedFix := some r.suggestedFix
  autoFixable := r.autoFixable

/-- What the rule says of lines, the first of which has this number. -/
def findingsFrom (r : Rule) (path : String) : (number : Nat) → List (List Char) → List Finding
  | _, [] => []
  | number, line :: following =>
    let rest := findingsFrom r path (number + 1) following
    if r.flags path line following then r.finding path number line :: rest else rest

/-- What the rule says of a text. -/
def findings (r : Rule) (text path : String) : List Finding :=
  r.findingsFrom path 1 (lines text.toList)

/-- What rules say of a text, in report order. -/
def scan (rules : List Rule) (text path : String) : List Finding :=
  Finding.sort (rules.flatMap fun r => r.findings text path)

/-- A line that holds nothing but a line comment. -/
def isLineComment (line : List Char) : Bool := startsWith ['/', '/'] (trim line)

/-! ## The findings are the flagged lines -/

/-- **A rule finds exactly the lines it flags,** under their numbers. -/
theorem mem_findingsFrom {r : Rule} {path : String} {f : Finding} {number : Nat}
    {ls : List (List Char)} :
    f ∈ r.findingsFrom path number ls ↔
      ∃ before line following, ls = before ++ line :: following
        ∧ r.flags path line following = true
        ∧ f = r.finding path (number + before.length) line := by
  induction ls generalizing number with
  | nil => simp [findingsFrom]
  | cons l ls ih =>
    have hrest : f ∈ r.findingsFrom path (number + 1) ls ↔
        ∃ before line following, l :: ls = (l :: before) ++ line :: following
          ∧ r.flags path line following = true
          ∧ f = r.finding path (number + (l :: before).length) line := by
      rw [ih]
      simp [Nat.add_assoc, Nat.add_comm 1]
    have hsplit : (∃ before line following, l :: ls = before ++ line :: following
          ∧ r.flags path line following = true
          ∧ f = r.finding path (number + before.length) line) ↔
        (r.flags path l ls = true ∧ f = r.finding path number l) ∨
        (∃ before line following, l :: ls = (l :: before) ++ line :: following
          ∧ r.flags path line following = true
          ∧ f = r.finding path (number + (l :: before).length) line) := by
      constructor
      · rintro ⟨before, line, following, heq, hf, he⟩
        cases before with
        | nil =>
          obtain ⟨rfl, rfl⟩ : l = line ∧ ls = following := by simpa using heq
          exact .inl ⟨hf, by simpa using he⟩
        | cons b before =>
          obtain ⟨rfl, hls⟩ : l = b ∧ ls = before ++ line :: following := by simpa using heq
          exact .inr ⟨before, line, following, by simp [hls], hf, he⟩
      · rintro (⟨hf, he⟩ | ⟨before, line, following, heq, hf, he⟩)
        · exact ⟨[], l, ls, rfl, hf, by simpa using he⟩
        · exact ⟨l :: before, line, following, heq, hf, he⟩
    rw [hsplit, ← hrest, findingsFrom]
    by_cases h : r.flags path l ls = true <;> simp [h]

end Rule
end CodeReview
