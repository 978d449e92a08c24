/-!
# Bytes in sixty-four letters

Three bytes are written as four letters of six bits each.  A group of one or two bytes at the end
is written in two or three letters, and filled up with `=`.
-/

set_option autoImplicit false

namespace CodeReview.Text.Base64

/-- The letter for six bits. -/
def letter (n : Nat) : Char :=
  if n < 26 then Char.ofNat (65 + n)
  else if n < 52 then Char.ofNat (71 + n)
  else if n < 62 then Char.ofNat (n - 4)
  else if n = 62 then '+' else '/'

/-- The four letters of 24 bits. -/
def letters (n : Nat) : List Char :=
  [letter (n / 0x40000), letter (n / 0x1000 % 64), letter (n / 64 % 64), letter (n % 64)]

/-- Bytes in letters. -/
def encode : List UInt8 → List Char
  | [] => []
  | [a] => (letters (a.toNat * 0x10000)).take 2 ++ ['=', '=']
  | [a, b] => (letters (a.toNat * 0x10000 + b.toNat * 0x100)).take 3 ++ ['=']
  | a :: b :: c :: bytes =>
    letters (a.toNat * 0x10000 + b.toNat * 0x100 + c.toNat) ++ encode bytes

/-- **Every group of bytes, a short one at the end included, takes four letters.** -/
theorem length_encode (bytes : List UInt8) :
    (encode bytes).length = 4 * ((bytes.length + 2) / 3) := by
  fun_induction encode bytes with
  | case1 => rfl
  | case2 a => simp [letters]
  | case3 a b => simp [letters]
  | case4 a b c bytes ih =>
    simp only [letters, List.cons_append, List.nil_append, List.length_cons, ih]
    omega

example : String.ofList (encode [0x75, 0x3A, 0x70]) = "dTpw" := by decide +kernel
example : String.ofList (encode [0x75, 0x3A]) = "dTo=" := by decide +kernel

end CodeReview.Text.Base64
