import CodeReview.Text.Letters

/-!
# Words

A word character is a letter, a number or an underscore.  A word starts where a word character
follows something else or the start of the text, and ends where the next character is none; the
rules about whole words are stated with these two tests.
-/

set_option autoImplicit false

namespace CodeReview.Text

/-- A character of a word: letter, number or underscore. -/
def isWord (c : Char) : Bool :=
  let n := c.toNat
  if n < 128 then c.isAlphanum || c == '_' else inRanges letterRanges n

/-- No word character stands before this place (`none` is the start of the text). -/
def opensWord (before : Option Char) : Bool :=
  match before with
  | none => true
  | some c => !isWord c

/-- No word character stands at the start of what is left. -/
def closesWord (rest : List Char) : Bool :=
  match rest with
  | [] => true
  | c :: _ => !isWord c

end CodeReview.Text
