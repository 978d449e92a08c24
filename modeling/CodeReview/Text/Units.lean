import CodeReview.Text.Encoding

/-!
# Text in wide code units

UTF-16 writes a character in one or two units of two bytes, UTF-32 in one of four; either can be
written with the high byte of a unit first or last.  A surrogate without a partner is read as its
stand-in.

A JSON text does not say which encoding its bytes are in, but it starts with ASCII characters, so
the zeros among its first four bytes tell (`Encoded.ofBytes`).
-/

set_option autoImplicit false

namespace CodeReview.Text

/-- The encodings of JSON texts; `highFirst` tells the order of the bytes of a unit. -/
inductive Form where
  | utf8
  | utf16 (highFirst : Bool)
  | utf32 (highFirst : Bool)
  deriving Repr, DecidableEq, Inhabited

namespace Form

/-- The encoding of bytes that start with ASCII characters. -/
def ofBytes (bytes : List UInt8) : Form :=
  match bytes with
  | [0, _] => .utf16 true
  | [_, 0] => .utf16 false
  | a :: b :: c :: d :: _ =>
    if a = 0 then if b = 0 then .utf32 true else .utf16 true
    else if b = 0 then if c = 0 && d = 0 then .utf32 false else .utf16 false
    else .utf8
  | _ => .utf8

/-- The units of two bytes; none if a byte is left over. -/
def units16? (highFirst : Bool) : List UInt8 → Option (List Nat)
  | [] => some []
  | [_] => none
  | a :: b :: bytes =>
    let (high, low) := if highFirst then (a, b) else (b, a)
    (units16? highFirst bytes).map ((256 * high.toNat + low.toNat) :: ·)

/-- The characters of units of two bytes. -/
def ofUnits16 [Spare] : List Nat → List Char
  | [] => []
  | [unit] => [unitChar unit]
  | unit :: unit' :: units =>
    if isLeadUnit unit && isTrailUnit unit' then pairChar unit unit' :: ofUnits16 units
    else unitChar unit :: ofUnits16 (unit' :: units)

/-- The characters of units of four bytes; none if bytes are left over or a unit is too large. -/
def ofUnits32? [Spare] (highFirst : Bool) : List UInt8 → Option (List Char)
  | [] => some []
  | a :: b :: c :: d :: bytes =>
    let join (w x y z : UInt8) : Nat :=
      ((w.toNat * 256 + x.toNat) * 256 + y.toNat) * 256 + z.toNat
    let unit := if highFirst then join a b c d else join d c b a
    if 0x10FFFF < unit then none else (ofUnits32? highFirst bytes).map (unitChar unit :: ·)
  | _ => none

/-- The mark that UTF-8 text may start with. -/
def dropMark : List UInt8 → List UInt8
  | 0xEF :: 0xBB :: 0xBF :: bytes => bytes
  | bytes => bytes

/-- The text of bytes. -/
def decode? [Spare] : Form → List UInt8 → Option (List Char)
  | utf8, bytes => (decodeFrom [] 0 none (dropMark bytes)).toOption
  | utf16 highFirst, bytes => (units16? highFirst bytes).map ofUnits16
  | utf32 highFirst, bytes => ofUnits32? highFirst bytes

end Form

/-- The text of the bytes of a JSON text, whichever encoding it is in. -/
def decodeAny? [Spare] (bytes : List UInt8) : Option (List Char) :=
  (Form.ofBytes bytes).decode? bytes

example : @decodeAny? ⟨0⟩ [0x7b, 0, 0x7d, 0] = some ['\x7b', '\x7d'] := by decide +kernel
example : @decodeAny? ⟨0⟩ [0, 0x31] = some ['1'] := by decide +kernel
example : @decodeAny? ⟨0⟩ [0xEF, 0xBB, 0xBF, 0x31] = some ['1'] := by decide +kernel

end CodeReview.Text
