
/-!
# Names in ASCII

A label of a host name that holds characters above ASCII is written with letters, digits and
hyphens: its ASCII characters first, then, in the order of their code points, where the others
belong (RFC 3492).  A place is told by its distance from the one before, in digits of base 36 whose
weights adapt to the distances seen.
-/

set_option autoImplicit false

namespace CodeReview.Address.Punycode

/-- What a label begins with that is written like this. -/
def mark : List Char := "xn--".toList

/-- A digit: `a` to `z`, then `0` to `9`. -/
def digit (n : Nat) : Char := if n < 26 then Char.ofNat (97 + n) else Char.ofNat (22 + n)

/-- The threshold of the digit at position `k`. -/
def threshold (k bias : Nat) : Nat :=
  if k ≤ bias then 1 else if bias + 26 ≤ k then 26 else k - bias

/-- Divide by 35 until the number is small; the count of divisions is weighed by 36. -/
def shrink (delta weight : Nat) : Nat × Nat :=
  if 455 < delta then shrink (delta / 35) (weight + 36) else (delta, weight)
termination_by delta
decreasing_by exact Nat.div_lt_self (by omega) (by omega)

/-- The bias after a distance, `count` characters being placed by now. -/
def adapt (delta count : Nat) (first : Bool) : Nat :=
  let delta := if first then delta / 700 else delta / 2
  let (delta, weight) := shrink (delta + delta / count) 0
  weight + 36 * delta / (delta + 38)

/-- The digits of a distance, from position `k` on; there are at most as many as `fuel`. -/
def digits (bias : Nat) : (fuel k q : Nat) → List Char
  | 0, _, _ => []
  | fuel + 1, k, q =>
    let t := threshold k bias
    if q < t then [digit q]
    else digit (t + (q - t) % (36 - t)) :: digits bias fuel (k + 36) ((q - t) / (36 - t))

/-- The state of the encoder: what is written (the last character first), the distance so far, the
bias, and how many characters are placed. -/
structure State where
  written : List Char
  delta : Nat
  bias : Nat
  placed : Nat

/-- One code point `n` of the label while those that are `point` are placed; `basic` is the number
of ASCII characters. -/
def State.see (basic point : Nat) (s : State) (n : Nat) : State :=
  if n < point then { s with delta := s.delta + 1 }
  else if n = point then
    { written := (digits s.bias (s.delta + 1) 36 s.delta).reverse ++ s.written
      delta := 0
      bias := adapt s.delta (s.placed + 1) (s.placed == basic)
      placed := s.placed + 1 }
  else s

/-- Place each of `points` wherever the label has it, `next` being the first code point that is not
yet passed. -/
def place (label : List Nat) (basic : Nat) : (points : List Nat) → (next : Nat) → State → State
  | [], _, s => s
  | m :: points, next, s =>
    let s := { s with delta := s.delta + (m - next) * (s.placed + 1) }
    let s := label.foldl (State.see basic m) s
    place label basic points (m + 1) { s with delta := s.delta + 1 }

/-- Code points in letters, digits and hyphens; they need not all be characters. -/
def encodePoints (label : List Nat) : List Char :=
  let ascii := label.filter (· < 128)
  let points := (label.filter (128 ≤ ·)).eraseDups.mergeSort
  let start := if ascii.isEmpty then [] else '-' :: (ascii.map Char.ofNat).reverse
  (place label ascii.length points 128 ⟨start, 0, 72, ascii.length⟩).written.reverse

/-- A label in letters, digits and hyphens. -/
def encode (label : List Char) : List Char := encodePoints (label.map Char.toNat)

/-! ## Back again -/

/-- The value of a digit. -/
def digitValue? (c : Char) : Option Nat :=
  let c := c.toLower
  if 'a' ≤ c ∧ c ≤ 'z' then some (c.toNat - 97)
  else if c.isDigit then some (c.toNat - 22)
  else none

/-- The distance that digits tell, from position `k` on, and the digits behind it; `weight` is that
of the first digit. -/
def readDistance? (bias : Nat) : (k weight distance : Nat) → List Char → Option (Nat × List Char)
  | _, _, _, [] => none
  | k, weight, distance, c :: cs => do
    let d ← digitValue? c
    let t := threshold k bias
    let distance := distance + d * weight
    if d < t then some (distance, cs)
    else readDistance? bias (k + 36) (weight * (36 - t)) distance cs

/-- Put code points in their places: `placed` are those so far, `point` and `place` the code point
and the place that are counted on from.  Every distance takes a digit at least, so `fuel` need be no
more than the number of digits. -/
def insertAll? : (fuel : Nat) → (placed : List Nat) → (point place bias : Nat) →
    (first : Bool) → List Char → Option (List Nat)
  | _, placed, _, _, _, _, [] => some placed
  | 0, _, _, _, _, _, _ :: _ => none
  | fuel + 1, placed, point, place, bias, first, c :: cs => do
    let (distance, rest) ← readDistance? bias 36 1 0 (c :: cs)
    let count := placed.length + 1
    let point := point + (place + distance) / count
    let place := (place + distance) % count
    if 0x10FFFF < point then none
    else
      insertAll? fuel (placed.take place ++ point :: placed.drop place) point (place + 1)
        (adapt distance count first) false rest

/-- The code points that letters, digits and hyphens stand for: what is before the last hyphen
stands for itself.  Some of them may be no characters. -/
def decodePoints? (cs : List Char) : Option (List Nat) :=
  let tail := (cs.reverse.takeWhile (· != '-')).reverse
  let ascii := cs.take (cs.length - tail.length - 1)
  insertAll? tail.length (ascii.map Char.toNat) 128 0 72 true tail

/-- The label that letters, digits and hyphens stand for. -/
def decode? (cs : List Char) : Option (List Char) :=
  (decodePoints? cs).bind fun points =>
    if points.all fun n => n.isValidChar then some (points.map Char.ofNat) else none

example : String.ofList (encode "bücher".toList) = "bcher-kva" := by decide +kernel
example : decode? "bcher-kva".toList = some "bücher".toList := by decide +kernel

end CodeReview.Address.Punycode
