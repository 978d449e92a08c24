/-!
# Binary64 numbers, exactly

Reals that a reply or a setting writes with a point or an exponent are rounded to the nearest
IEEE 754 binary64 number.  The number is kept as what it is, a sign and `m · 2^e`, so rounding,
truncation and comparison are integer arithmetic that a proof can compute with; the bit pattern is
derived (`Double.bits`).

Rounding goes to the nearest representable number and a tie to the even one, as IEEE 754 asks.
-/

set_option autoImplicit false

namespace CodeReview

/-- A binary64 number.  `finite negative mantissa exponent` is `± mantissa · 2 ^ exponent`; the
functions here build it with `mantissa < 2^53` and `exponent ≥ -1074`, and with
`mantissa ≥ 2^52` unless the exponent is the least one. -/
inductive Double where
  | nan
  | infinite (negative : Bool)
  | finite (negative : Bool) (mantissa : Nat) (exponent : Int)
  deriving Repr, DecidableEq, Inhabited

namespace Double

/-! ## Rounding -/

/-- A power of two. -/
def pow2 (n : Nat) : Nat := Nat.pow 2 n

/-- A power of ten. -/
def pow10 (n : Nat) : Nat := Nat.pow 10 n

/-- The quotient rounded to the nearest integer, a tie to the even one. -/
def roundQuotient (num den : Nat) : Nat :=
  let q := num / den
  let r := num % den
  if den < 2 * r || (2 * r == den && q % 2 == 1) then q + 1 else q

/-- Numerator and denominator of `num / den · 2 ^ k`. -/
def scaled (num den : Nat) (k : Int) : Nat × Nat :=
  match k with
  | .ofNat n => (num * pow2 n, den)
  | .negSucc n => (num, den * pow2 (n + 1))

/-- The exponent of the last place of `num / den`: the quotient has 53 binary digits at it, or
fewer at the least exponent. -/
def lastPlace (num den : Nat) : Int :=
  let guess : Int := (num.log2 : Int) - (den.log2 : Int)
  let (n, d) := scaled num den (-guess)
  let top := if n < d then guess - 1 else guess
  max (top - 52) (-1074)

/-- The binary64 number nearest to `num / den`. -/
def ofRatio (negative : Bool) (num den : Nat) : Double :=
  if num = 0 then finite negative 0 (-1074)
  else
    let e := lastPlace num den
    let (n, d) := scaled num den (-e)
    let q := roundQuotient n d
    let (m, e) := if q = pow2 53 then (pow2 52, e + 1) else (q, e)
    if e > 971 then infinite negative else finite negative m e

/-- The number of decimal digits of a natural number, none for zero. -/
def decimalLength (n : Nat) : Nat := if n = 0 then 0 else (Nat.toDigits 10 n).length

/-- The binary64 number nearest to `± digits · 10 ^ exponent`.  Beyond every representable
magnitude the answer is known from the number of digits alone. -/
def ofDecimal (negative : Bool) (digits : Nat) (exponent : Int) : Double :=
  let top := exponent + decimalLength digits
  if digits = 0 then finite negative 0 (-1074)
  else if top > 310 then infinite negative
  else if top < -330 then finite negative 0 (-1074)
  else match exponent with
    | .ofNat n => ofRatio negative (digits * pow10 n) 1
    | .negSucc n => ofRatio negative digits (pow10 (n + 1))

/-- The binary64 number nearest to an integer. -/
def ofInt (n : Int) : Double := ofDecimal (n < 0) n.natAbs 0

/-! ## Views -/

/-- The integer part, toward zero; none of an infinity or a NaN. -/
def truncate? : Double → Option Int
  | finite negative m e =>
    let size : Nat := match e with
      | .ofNat n => m * pow2 n
      | .negSucc n => m / pow2 (n + 1)
    some (if negative then -(size : Int) else size)
  | _ => none

/-- The number is an integer. -/
def isInteger : Double → Bool
  | finite _ m (.negSucc n) => m % pow2 (n + 1) == 0
  | finite _ _ (.ofNat _) => true
  | _ => false

/-- The signed integer `a` of `a · 2 ^ e` at a common exponent `e ≤ exponent`. -/
def atExponent (negative : Bool) (m : Nat) (exponent e : Int) : Int :=
  let size : Int := m * pow2 (exponent - e).toNat
  if negative then -size else size

/-- Less or equal, as numbers: false of a NaN, and the two zeros are equal. -/
def le : Double → Double → Bool
  | nan, _ => false
  | _, nan => false
  | infinite true, _ => true
  | _, infinite false => true
  | infinite false, _ => false
  | _, infinite true => false
  | finite s m e, finite t n f => atExponent s m e (min e f) ≤ atExponent t n f (min e f)

/-- Strictly less, as numbers. -/
def lt (a b : Double) : Bool := le a b && !le b a

/-- The IEEE 754 bit pattern; one pattern stands for every NaN. -/
def bits : Double → Nat
  | nan => 0x7FF8000000000000
  | infinite negative => sign negative + 0x7FF0000000000000
  | finite negative m e =>
    if m < pow2 52 then sign negative + m
    else sign negative + (e + 1075).toNat * pow2 52 + (m - pow2 52)
where
  /-- The sign bit. -/
  sign (negative : Bool) : Nat := if negative then pow2 63 else 0

/-- An integer too large for binary64: it would round to an infinity. -/
def overflowedBy (n : Int) : Bool := pow2 1024 - pow2 970 ≤ n.natAbs

example : (ofDecimal false 1 (-1)).bits = 0x3FB999999999999A := by decide
example : (ofDecimal false 25 (-325)).bits = 1 := by decide +kernel
example : (ofDecimal true 0 0).bits = 0x8000000000000000 := by decide
example : ofDecimal false 17976931348623159 292 = infinite false := by decide +kernel
example : (ofDecimal false 9007199254740993 0).bits = 0x4340000000000000 := by decide +kernel

end Double
end CodeReview
