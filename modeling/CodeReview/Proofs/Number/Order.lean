import CodeReview.Proofs.Number.Whole
import Mathlib.Algebra.Order.Field.Power
import Mathlib.Algebra.Order.Field.Rat
import Mathlib.Algebra.Order.Monoid.Unbundled.WithTop
import Mathlib.Tactic.Positivity

/-!
# The order of binary64 numbers

`Double.le` compares two numbers by integer arithmetic at a common exponent.  That is good for
running it and bad for believing it: a slip in the choice of the exponent would not be seen.  So it
is compared here with the order of what the numbers stand for (`value?`).  A finite one is a
rational, the infinities lie beyond all rationals, and a NaN stands for nothing at all, so that no
comparison with it is true.  `le_iff` is the agreement of the two.

The bounds of the settings are small whole numbers, and for one of those the statement has the
number itself on one side (`ofInt_le_iff`, `le_ofInt_iff`): rounding leaves it as it is.
-/

set_option autoImplicit false

namespace CodeReview.Double

variable {m : Nat} {e f : Int} {n : Int} {x y : Double}

/-- The rational `± m · 2 ^ e`. -/
def ratio (negative : Bool) (m : Nat) (e : Int) : ℚ := (if negative then -(m : ℚ) else m) * 2 ^ e

/-- What a number stands for: a rational or what is beyond all of them on one side; a NaN stands for
nothing. -/
def value? : Double → Option (WithBot (WithTop ℚ))
  | nan => none
  | infinite negative => some (if negative then ⊥ else ⊤)
  | finite negative m e => some ((ratio negative m e : WithTop ℚ) : WithBot (WithTop ℚ))

/-! ## Finite numbers

Bringing a number to a smaller exponent multiplies its mantissa by a power of two, which is exact;
at the smaller exponent of the two the mantissas are compared as the rationals are. -/

theorem cast_pow2 (k : Nat) : ((pow2 k : Nat) : ℚ) = 2 ^ k := by
  rw [show pow2 k = 2 ^ k from rfl, Nat.cast_pow, Nat.cast_ofNat]

theorem ratio_eq_atExponent (negative : Bool) (m : Nat) (h : f ≤ e) :
    ratio negative m e = (atExponent negative m e f : ℚ) * 2 ^ f := by
  have hsplit : (2 : ℚ) ^ e = 2 ^ (e - f).toNat * 2 ^ f := by
    rw [← zpow_natCast, Int.toNat_of_nonneg (Int.sub_nonneg.2 h), ← zpow_add₀ two_ne_zero,
      Int.sub_add_cancel]
  cases negative <;> simp [ratio, atExponent, cast_pow2, hsplit, mul_assoc]

/-- At a common exponent the integers are in the order of the rationals. -/
theorem atExponent_le_atExponent_iff (s t : Bool) (m n : Nat) (e f : Int) :
    atExponent s m e (min e f) ≤ atExponent t n f (min e f) ↔ ratio s m e ≤ ratio t n f := by
  have hunit : (0 : ℚ) < 2 ^ min e f := by positivity
  rw [ratio_eq_atExponent s m (Int.min_le_left e f), ratio_eq_atExponent t n (Int.min_le_right e f),
    mul_le_mul_iff_left₀ hunit, Int.cast_le]

/-! ## All numbers

The cases are those of the two numbers.  An infinite one is compared by its sign alone, also with
another infinite one, and the order of `WithBot (WithTop ℚ)` does the same. -/

/-- **Less or equal is what it is of the numbers themselves.** -/
theorem le_iff : x.le y = true ↔ ∃ a ∈ x.value?, ∃ b ∈ y.value?, a ≤ b := by
  cases x with
  | nan => simp [le, value?]
  | infinite s =>
    cases y with
    | infinite t => cases s <;> cases t <;> simp [le, value?]
    | _ => cases s <;> simp [le, value?]
  | finite s m e =>
    cases y with
    | nan => simp [le, value?]
    | infinite t => cases t <;> simp [le, value?]
    | finite t n f => simp [le, value?, atExponent_le_atExponent_iff]

/-! ## Small whole numbers

Below 2^53 a whole number is its own nearest number. -/

theorem value?_ofRatio_of_lt (negative : Bool) (h : m < pow2 53) :
    (ofRatio negative m 1).value?
      = some (((if negative then -(m : ℚ) else m : ℚ) : WithTop ℚ) : WithBot (WithTop ℚ)) := by
  by_cases hm : m = 0
  · subst hm
    cases negative <;> simp [ofRatio, value?, ratio]
  · obtain ⟨k, hk⟩ := ofRatio_of_lt negative hm h
    cases negative <;> simp [hk, value?, ratio, cast_pow2]

/-- **A small whole number stands for itself.** -/
theorem value?_ofInt (h : n.natAbs < pow2 53) :
    (ofInt n).value? = some (((n : ℚ) : WithTop ℚ) : WithBot (WithTop ℚ)) := by
  have hcast : (if decide (n < 0) = true then -(n.natAbs : ℚ) else n.natAbs) = n := by
    rw [Nat.cast_natAbs]
    by_cases hn : n < 0
    · simp [hn, abs_of_neg hn]
    · simp [hn, abs_of_nonneg (Int.not_lt.1 hn)]
  rw [ofInt, ofDecimal_of_lt _ h, value?_ofRatio_of_lt _ h, hcast]

theorem ofInt_le_iff (h : n.natAbs < pow2 53) :
    (ofInt n).le x = true ↔ ∃ a ∈ x.value?, (((n : ℚ) : WithTop ℚ) : WithBot (WithTop ℚ)) ≤ a := by
  simp only [le_iff, value?_ofInt h, Option.mem_some_iff, exists_eq_left']

theorem ofInt_zero_le_iff : (ofInt 0).le x = true ↔ ∃ a ∈ x.value?, 0 ≤ a := by
  have hzero := ofInt_le_iff (n := 0) (x := x) (by decide)
  simpa only [Int.cast_zero, WithTop.coe_zero, WithBot.coe_zero] using hzero

theorem le_ofInt_iff (h : n.natAbs < pow2 53) :
    x.le (ofInt n) = true ↔ ∃ a ∈ x.value?, a ≤ (((n : ℚ) : WithTop ℚ) : WithBot (WithTop ℚ)) := by
  simp only [le_iff, value?_ofInt h, Option.mem_some_iff, exists_eq_left']

end CodeReview.Double
