import CodeReview.Number.Double

/-!
# The shortest decimal of a binary64 number

A number is written with the fewest significant digits that read back as the same number, the
nearest such decimal if several have that length.  For each length the two decimals around the
number are tried (`neighbours`): if any decimal of that length reads back, one of those two does.

Numbers from 10^-4 up to 10^16 are written with a point, others with an exponent of at least two
digits; an integer keeps one zero behind the point.
-/

set_option autoImplicit false

namespace CodeReview.Double

/-- The magnitude of `m · 2 ^ e` as a fraction. -/
def fraction (m : Nat) (e : Int) : Nat × Nat := scaled m 1 e

/-- The power `k` with `10 ^ (k - 1) ≤ num / den < 10 ^ k`, for a positive fraction. -/
def decimalPoint (num den : Nat) : Int :=
  if den ≤ num then decimalLength (num / den)
  else
    let t := decimalLength (den / num)
    if num * pow10 (t - 1) = den then 2 - (t : Int) else 1 - (t : Int)

/-- The fraction counted in units of `10 ^ unit`, rounded down, and whether the upper neighbour is
nearer (or as near, and even). -/
def neighbours (num den : Nat) (unit : Int) : Nat × Bool :=
  let (n, d) := match unit with
    | .ofNat u => (num, den * pow10 u)
    | .negSucc u => (num * pow10 (u + 1), den)
  (n / d, d < 2 * (n % d) || (2 * (n % d) == d && (n / d) % 2 == 1))

/-- The digits and the unit of the shortest decimal, trying `length` digits and then more. -/
def shortestFrom (num den : Nat) (value : Double) : (tries length : Nat) → Nat × Int
  | 0, length => (roundQuotient num den, length)
  | tries + 1, length =>
    let unit := decimalPoint num den - length
    let (low, highNearer) := neighbours num den unit
    let lowFits := ofDecimal false low unit == value
    let highFits := ofDecimal false (low + 1) unit == value
    if lowFits && !(highFits && highNearer) then (low, unit)
    else if highFits then (low + 1, unit)
    else shortestFrom num den value tries (length + 1)

/-- The digits with no zero at the end, and their unit. -/
def dropTrailingZeros : (fuel : Nat) → Nat → Int → Nat × Int
  | 0, digits, unit => (digits, unit)
  | fuel + 1, digits, unit =>
    if digits ≠ 0 && digits % 10 == 0 then dropTrailingZeros fuel (digits / 10) (unit + 1)
    else (digits, unit)

/-- Digits with a point behind the first `point` of them, in plain or in exponent form. -/
def layOut (digits : String) (point : Int) : String :=
  let count := digits.length
  let zeros (n : Int) := String.ofList (List.replicate n.toNat '0')
  if -4 < point ∧ point ≤ 16 then
    if point ≤ 0 then "0." ++ zeros (-point) ++ digits
    else if count ≤ point then digits ++ zeros (point - count) ++ ".0"
    else
      let cs := digits.toList
      String.ofList (cs.take point.toNat) ++ "." ++ String.ofList (cs.drop point.toNat)
  else
    let cs := digits.toList
    let tail := if count ≤ 1 then "" else "." ++ String.ofList (cs.drop 1)
    let power := point - 1
    let size := toString power.natAbs
    let padded := if size.length < 2 then "0" ++ size else size
    String.ofList (cs.take 1) ++ tail ++ "e" ++ (if power < 0 then "-" else "+") ++ padded

/-- The text of a number: the shortest decimal that reads back, or a word. -/
def text : Double → String
  | nan => "nan"
  | infinite negative => if negative then "-inf" else "inf"
  | finite negative m e =>
    let sign := if negative then "-" else ""
    if m = 0 then sign ++ "0.0"
    else
      let (num, den) := fraction m e
      let (digits, unit) := shortestFrom num den (finite false m e) 17 1
      let (digits, unit) := dropTrailingZeros 20 digits unit
      sign ++ layOut (toString digits) (unit + decimalLength digits)

end CodeReview.Double
