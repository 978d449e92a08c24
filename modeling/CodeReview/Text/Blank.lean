/-!
# Blanks

What counts as blank when a text is trimmed, when a rule skips space between two tokens, and when
a numeral is read.  Two classes are in use: the white space of Unicode (`isWhiteSpace`), and that
class with the four information separators U+001C … U+001F (`isBlank`).  Trimming and the rules
use the wider one.

Texts are lists of characters here, so that every function is a recursion a proof can follow.
-/

set_option autoImplicit false

namespace CodeReview.Text

/-- The white space of Unicode. -/
def isWhiteSpace (c : Char) : Bool :=
  let n := c.toNat
  (9 ≤ n && n ≤ 13) || n == 0x20 || n == 0x85 || n == 0xA0 || n == 0x1680
    || (0x2000 ≤ n && n ≤ 0x200A) || n == 0x2028 || n == 0x2029 || n == 0x202F || n == 0x205F
    || n == 0x3000

/-- A blank: white space, or one of the four information separators. -/
def isBlank (c : Char) : Bool :=
  isWhiteSpace c || (0x1C ≤ c.toNat && c.toNat ≤ 0x1F)

theorem isBlank_of_isWhiteSpace {c : Char} (h : isWhiteSpace c = true) : isBlank c = true := by
  simp [isBlank, h]

/-! ## Trimming -/

/-- The text without the longest run of `p` at its end. -/
def dropEndWhile (p : Char → Bool) (cs : List Char) : List Char :=
  (cs.reverse.dropWhile p).reverse

/-- The text without the longest runs of `p` at either end. -/
def trimBy (p : Char → Bool) (cs : List Char) : List Char :=
  dropEndWhile p (cs.dropWhile p)

/-- The text without the blanks at its end. -/
def trimEnd (cs : List Char) : List Char := dropEndWhile isBlank cs

/-- The text without the blanks at either end. -/
def trim (cs : List Char) : List Char := trimBy isBlank cs

/-- A text of blanks only, the empty text among them. -/
def isAllBlank (cs : List Char) : Bool := cs.all isBlank

/-- `trim` on strings. -/
def trimString (s : String) : String := String.ofList (trim s.toList)

theorem dropEndWhile_append_self (p : Char → Bool) (cs : List Char) :
    dropEndWhile p cs ++ (cs.reverse.takeWhile p).reverse = cs := by
  rw [dropEndWhile, ← List.reverse_append, List.takeWhile_append_dropWhile, List.reverse_reverse]

theorem trim_eq_nil_of_isAllBlank {cs : List Char} (h : isAllBlank cs = true) : trim cs = [] := by
  have hall : ∀ c ∈ cs, isBlank c = true := by simpa [isAllBlank] using h
  have hdrop : cs.dropWhile isBlank = [] := by
    induction cs with
    | nil => rfl
    | cons c r ih =>
      simp only [isAllBlank, List.all_cons, Bool.and_eq_true] at h
      rw [List.dropWhile_cons, if_pos h.1]
      exact ih h.2 fun d hd => hall d (List.mem_cons_of_mem _ hd)
  simp [trim, trimBy, hdrop, dropEndWhile]

end CodeReview.Text
