import CodeReview.Number.Double

/-!
# Whole numbers in binary64

Below 2^53 every whole number is a binary64 number, and rounding leaves it as it is
(`truncate?_ofRatio_of_lt`).  A larger one may lose its last digits or become infinite, but it
stays a large one: what is left of it is 2^52 at least (`ofRatio_of_le`).

That second half looks odd, as nothing is said about which number it becomes.  It is all that is
asked for: a percentage is clamped to 100, so that a number which stays large is clamped to the
same as the number it came from.  To follow the rounding of a large number digit by digit would be
work for nothing.

The proofs go by the place of the last binary digit.  A quotient is scaled so that 53 digits of it
stand before the point, rounded to an integer, and scaled back.  For a whole number the place is
known from its logarithm (`lastPlace_one`): at 2^53 and above it is to the left of the point, and a
division by a power of two is what loses digits; below, it is to the right, and nothing is lost.
-/

set_option autoImplicit false

namespace CodeReview.Double

variable {n d k m : Nat} {negative : Bool}

/-! ## Powers of two

`pow2` is a definition of its own, so that no tactic evaluates 2^1074 by accident.  What is needed
of it is little. -/

theorem pow2_pos (k : Nat) : 0 < pow2 k := Nat.pow_pos (by decide)

theorem pow2_add (k m : Nat) : pow2 (k + m) = pow2 k * pow2 m := Nat.pow_add 2 k m

theorem pow2_log2_le (h : n ≠ 0) : pow2 n.log2 ≤ n := Nat.log2_self_le h

theorem lt_pow2_log2 (n : Nat) : n < pow2 (n.log2 + 1) := Nat.lt_log2_self

theorem log2_le_of_lt (h : n < pow2 (k + 1)) : n.log2 ≤ k := by
  by_cases hn : n = 0
  · subst hn
    exact Nat.zero_le k
  · exact Nat.le_of_lt_succ ((Nat.log2_lt hn).2 h)

theorem le_log2_of_le (h : pow2 k ≤ n) : k ≤ n.log2 := by
  have hn : n ≠ 0 := Nat.ne_of_gt (Nat.lt_of_lt_of_le (pow2_pos k) h)
  exact (Nat.le_log2 hn).2 h

/-! ## The parts of rounding

One lemma for each step of `ofRatio`, for a denominator of one or for any. -/

theorem scaled_ofNat (n d k : Nat) : scaled n d (k : Int) = (n * pow2 k, d) := rfl

theorem scaled_neg (n d k : Nat) : scaled n d (-(k : Int)) = (n, d * pow2 k) := by
  cases k with
  | zero => exact Prod.ext (Nat.mul_one n) (Nat.mul_one d).symm
  | succ k => rfl

theorem roundQuotient_one (n : Nat) : roundQuotient n 1 = n := by
  simp [roundQuotient, Nat.mod_one]

theorem div_le_roundQuotient (n d : Nat) : n / d ≤ roundQuotient n d := by
  unfold roundQuotient
  dsimp only
  split
  · exact Nat.le_succ _
  · exact Nat.le_refl _

/-- The last place of a whole number is 52 places behind its first one. -/
theorem lastPlace_one (h : n ≠ 0) : lastPlace n 1 = n.log2 - 52 := by
  have hone : Nat.log2 1 = 0 := rfl
  have hfirst : ¬ n < 1 * pow2 n.log2 := by
    rw [Nat.one_mul]
    exact Nat.not_lt.2 (pow2_log2_le h)
  simp only [lastPlace, hone, Int.ofNat_zero, Int.sub_zero, scaled_neg, if_neg hfirst]
  omega

theorem truncate?_finite_ofNat (negative : Bool) (m k : Nat) :
    (finite negative m k).truncate?
      = some (if negative then -((m * pow2 k : Nat) : Int) else (m * pow2 k : Nat)) := rfl

theorem truncate?_finite_neg (negative : Bool) (m k : Nat) :
    (finite negative m (-(k : Int))).truncate?
      = some (if negative then -((m / pow2 k : Nat) : Int) else (m / pow2 k : Nat)) := by
  cases k with
  | zero =>
    have hsame : m * pow2 0 = m / pow2 0 := (Nat.mul_one m).trans (Nat.div_one m).symm
    show some (if negative then -((m * pow2 0 : Nat) : Int) else (m * pow2 0 : Nat)) = _
    rw [hsame]
  | succ k => rfl

theorem truncate?_zero (negative : Bool) : (finite negative 0 (-1074)).truncate? = some 0 := by
  refine (truncate?_finite_neg negative 0 1074).trans ?_
  cases negative <;> simp

/-! ## Rounding a whole number

Rounding up may carry into a new digit; `carried` is what `ofRatio` does about it, as a function of
the rounded mantissa.  With it the two cases below and above 2^53 are each a computation of the
place. -/

/-- The number with this mantissa, which rounding may have made one digit too long. -/
def carried (negative : Bool) (q : Nat) (e : Int) : Double :=
  let (m, e) := if q = pow2 53 then (pow2 52, e + 1) else (q, e)
  if e > 971 then infinite negative else finite negative m e

theorem carried_of_ne {q : Nat} {e : Int} (negative : Bool) (hq : q ≠ pow2 53) (he : e ≤ 971) :
    carried negative q e = finite negative q e := by
  simp only [carried, if_neg hq, gt_iff_lt, if_neg (Int.not_lt.2 he)]

/-- A large mantissa of a whole number stays large. -/
theorem carried_of_le {q k : Nat} (negative : Bool) (hq : pow2 52 ≤ q) :
    carried negative q k = infinite negative ∨ ∃ m, pow2 52 ≤ m ∧
      (carried negative q k).truncate? = some (if negative then -(m : Int) else m) := by
  have hmany : ∀ m k, pow2 52 ≤ m → pow2 52 ≤ m * pow2 k :=
    fun m k hm => Nat.le_trans hm (Nat.le_mul_of_pos_right m (pow2_pos k))
  unfold carried
  split
  rename_i m e hpair
  split
  · exact .inl rfl
  · split at hpair
    · obtain ⟨rfl, rfl⟩ := Prod.mk.inj hpair
      exact .inr ⟨_, hmany _ (k + 1) (Nat.le_refl _), truncate?_finite_ofNat _ _ (k + 1)⟩
    · obtain ⟨rfl, rfl⟩ := Prod.mk.inj hpair
      exact .inr ⟨_, hmany q k hq, truncate?_finite_ofNat _ _ k⟩

theorem ofRatio_of_ne (negative : Bool) {num : Nat} (den : Nat) (h : num ≠ 0) :
    ofRatio negative num den = carried negative
      (roundQuotient (scaled num den (-lastPlace num den)).1
        (scaled num den (-lastPlace num den)).2) (lastPlace num den) := if_neg h

/-- A whole number below 2^53 has a place for each of its digits. -/
theorem ofRatio_of_lt (negative : Bool) (hn : n ≠ 0) (h : n < pow2 53) :
    ∃ k : Nat, ofRatio negative n 1 = finite negative (n * pow2 k) (-(k : Int)) := by
  obtain ⟨k, hk⟩ := Nat.exists_eq_add_of_le (log2_le_of_lt h)
  have hplace : lastPlace n 1 = -(k : Int) := by
    rw [lastPlace_one hn]
    omega
  have hlt : n * pow2 k < pow2 53 := by
    have hfits := Nat.mul_lt_mul_of_pos_right (lt_pow2_log2 n) (pow2_pos k)
    have hplaces : n.log2 + 1 + k = 53 := by omega
    rwa [← pow2_add, hplaces] at hfits
  refine ⟨k, ?_⟩
  rw [ofRatio_of_ne negative 1 hn, hplace, Int.neg_neg, scaled_ofNat, roundQuotient_one,
    carried_of_ne negative (Nat.ne_of_lt hlt) (by omega)]

/-- **A whole number below 2^53** stays as it is. -/
theorem truncate?_ofRatio_of_lt (negative : Bool) (h : n < pow2 53) :
    (ofRatio negative n 1).truncate? = some (if negative then -(n : Int) else n) := by
  by_cases hn : n = 0
  · subst hn
    refine (truncate?_zero negative).trans ?_
    cases negative <;> rfl
  · obtain ⟨k, hk⟩ := ofRatio_of_lt negative hn h
    rw [hk, truncate?_finite_neg, Nat.mul_div_cancel _ (pow2_pos k)]

/-- **A larger whole number** becomes infinite or stays large. -/
theorem ofRatio_of_le (negative : Bool) (h : pow2 53 ≤ n) :
    ofRatio negative n 1 = infinite negative ∨ ∃ m, pow2 52 ≤ m ∧
      (ofRatio negative n 1).truncate? = some (if negative then -(m : Int) else m) := by
  have hn : n ≠ 0 := Nat.ne_of_gt (Nat.lt_of_lt_of_le (pow2_pos 53) h)
  obtain ⟨k, hk⟩ := Nat.exists_eq_add_of_le (le_log2_of_le h)
  have hplace : lastPlace n 1 = ((k + 1 : Nat) : Int) := by
    rw [lastPlace_one hn]
    omega
  have hlarge : pow2 52 ≤ n / (1 * pow2 (k + 1)) := by
    have hplaces : 52 + (k + 1) = n.log2 := by omega
    rw [Nat.one_mul, Nat.le_div_iff_mul_le (pow2_pos _), ← pow2_add, hplaces]
    exact pow2_log2_le hn
  rw [ofRatio_of_ne negative 1 hn, hplace, scaled_neg]
  exact carried_of_le negative (Nat.le_trans hlarge (div_le_roundQuotient _ _))

/-! ## Decimals

A numeral in a text is rounded from its decimal digits, with a short cut for very long ones.  The
short cut gives what rounding would give, as more than 310 digits are beyond every finite number. -/

/-- What has more than 16 digits is beyond 2^53. -/
theorem le_of_decimalLength (h : 16 < decimalLength n) : pow2 53 ≤ n := by
  rw [decimalLength] at h
  split at h
  · cases h
  · have hlong : ¬ (Nat.toDigits 10 n).length ≤ 16 := Nat.not_le.2 h
    rw [Nat.length_toDigits_le_iff (by decide) (by decide), Nat.not_lt] at hlong
    exact Nat.le_trans (by decide) hlong

/-- A decimal without a fraction is rounded as a ratio, unless it has very many digits. -/
theorem ofDecimal_whole (negative : Bool) (h : n ≠ 0) :
    ofDecimal negative n 0
      = if 310 < decimalLength n then infinite negative else ofRatio negative n 1 := by
  have hpow : n * pow10 0 = n := Nat.mul_one n
  by_cases hlong : 310 < decimalLength n
  · have htop : (0 : Int) + decimalLength n > 310 := by omega
    simp only [ofDecimal, if_neg h, if_pos htop, if_pos hlong]
  · have htop : ¬ (0 : Int) + decimalLength n > 310 := by omega
    have hbottom : ¬ (0 : Int) + decimalLength n < -330 := by omega
    simp only [ofDecimal, if_neg h, if_neg htop, if_neg hbottom, if_neg hlong]
    exact congrArg (ofRatio negative · 1) hpow

/-- A short decimal without a fraction is rounded as a ratio. -/
theorem ofDecimal_of_lt (negative : Bool) (h : n < pow2 53) :
    ofDecimal negative n 0 = ofRatio negative n 1 := by
  by_cases hn : n = 0
  · subst hn
    rfl
  · have hshort : ¬ 310 < decimalLength n := fun hlong =>
      Nat.not_le.2 h (le_of_decimalLength (Nat.lt_trans (by decide) hlong))
    rw [ofDecimal_whole negative hn, if_neg hshort]

/-- **Below 2^53 a whole number is read as it is.** -/
theorem truncate?_ofDecimal_of_lt (negative : Bool) (h : n < pow2 53) :
    (ofDecimal negative n 0).truncate? = some (if negative then -(n : Int) else n) := by
  rw [ofDecimal_of_lt negative h, truncate?_ofRatio_of_lt negative h]

/-- **A larger whole number** is read as infinite or as a large one. -/
theorem ofDecimal_of_le (negative : Bool) (h : pow2 53 ≤ n) :
    ofDecimal negative n 0 = infinite negative ∨ ∃ m, pow2 52 ≤ m ∧
      (ofDecimal negative n 0).truncate? = some (if negative then -(m : Int) else m) := by
  rw [ofDecimal_whole negative (Nat.ne_of_gt (Nat.lt_of_lt_of_le (pow2_pos 53) h))]
  split
  · exact .inl rfl
  · exact ofRatio_of_le negative h

end CodeReview.Double
