import CodeReview.Fault
import CodeReview.Json.Value
import CodeReview.Number.Numeral
import CodeReview.Text.LowerCase

/-!
# Values a reply may spell in several ways

A reply may give a number as a string, a truth value as a word, a confidence with a percent sign.
The readers here take any value and give what it can be taken for; what cannot be read counts as
absent, false or zero.
-/

set_option autoImplicit false

namespace CodeReview.Reply

open CodeReview.Json (Value Fields)

/-- A text, trimmed and in lower case. -/
def plainWord (s : String) : String := String.ofList (Text.lower (Text.trim s.toList))

/-- An integer: a number cut to its integer part, or a string that spells an integer. -/
def intOf? : Option Value → Option Int
  | some (.int n) => some n
  | some (.real x) => x.truncate?
  | some (.str s) => Numeral.readInt? s
  | _ => none

/-- A truth value: true, or one of some words that say so. -/
def isTrue (words : List String) : Option Value → Bool
  | some (.bool b) => b
  | some (.str s) => words.contains (plainWord s)
  | _ => false

/-- The text of a value, if it is a string other than the empty one. -/
def text? : Value → Option String
  | .str s => if s = "" then none else some s
  | _ => none

/-- The non-empty strings of a list; none of anything else. -/
def texts : Option Value → List String
  | some (.arr items) => items.filterMap text?
  | _ => []

/-- An integer brought into the range from 0 to 100. -/
def toPercent (n : Int) : Nat := (min 100 n).toNat

/-- A real as a percentage. -/
def percentOfDouble : Double → Nat
  | .nan => 0
  | .infinite negative => if negative then 0 else 100
  | x => toPercent (x.truncate?.getD 0)

/-- A percentage: a number, or a string that spells one with or without percent signs; zero for
anything else.  An integer beyond binary64 is refused. -/
def percent : Value → Except Fault Nat
  | .int n => if Double.overflowedBy n then .error .numberTooLarge else .ok (toPercent n)
  | .real x => .ok (percentOfDouble x)
  | .str s =>
    let digits := Text.dropEndWhile (· == '%') (Text.trim s.toList)
    .ok ((Numeral.readDouble? (String.ofList digits)).elim 0 percentOfDouble)
  | _ => .ok 0

theorem toPercent_le (n : Int) : toPercent n ≤ 100 := by
  unfold toPercent
  omega

theorem percent_le {v : Value} {n : Nat} (h : percent v = .ok n) : n ≤ 100 := by
  have hd : ∀ x, percentOfDouble x ≤ 100 := by
    intro x
    cases x with
    | nan => simp [percentOfDouble]
    | infinite s => cases s <;> simp [percentOfDouble]
    | finite s m e => exact toPercent_le _
  cases v with
  | int k =>
    simp only [percent] at h
    split at h <;> cases h
    exact toPercent_le k
  | real x =>
    cases h
    exact hd x
  | str s =>
    simp only [percent, Except.ok.injEq] at h
    subst h
    cases Numeral.readDouble? _ with
    | none => simp
    | some x => exact hd x
  | _ =>
    cases h
    simp

end CodeReview.Reply
