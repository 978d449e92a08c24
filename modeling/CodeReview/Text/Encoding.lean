import CodeReview.Text.Quoted
import CodeReview.Text.Surrogate

/-!
# Text as bytes

Texts are kept as UTF-8.  `decode` reads bytes one at a time; between two characters nothing is
pending, inside one it is known how many bytes are still to come and in which range the next one has
to be (`Pending`).  The ranges leave out what UTF-8 leaves out: longer forms than needed,
surrogates, and code points above U+10FFFF.

The first bytes that are no UTF-8 are reported with their place (`Undecodable`): a byte that starts
no character, a character broken off by a byte that does not continue it, or one broken off by the
end.  `decodeLossy` puts U+FFFD in their place and goes on.

In the other direction UTF-8 has no bytes for a surrogate without a partner, and ASCII none for
anything above U+007F (`Unencodable`).
-/

set_option autoImplicit false

namespace CodeReview.Text

/-! ## Bytes that are no text -/

/-- Why bytes are no UTF-8 text. -/
inductive Encoding where
  | invalidStart
  | invalidContinuation
  | unexpectedEnd
  deriving Repr, DecidableEq, Inhabited

/-- The wording of an encoding fault. -/
def Encoding.message : Encoding → String
  | invalidStart => "invalid start byte"
  | invalidContinuation => "invalid continuation byte"
  | unexpectedEnd => "unexpected end of data"

/-- The first bytes of a file that are no UTF-8: where they start, how many they are, and the first
of them. -/
structure Undecodable where
  reason : Encoding
  start : Nat
  count : Nat
  byte : UInt8
  deriving Repr, DecidableEq, Inhabited

/-- The wording: one byte is named by its value, several by their range. -/
def Undecodable.message (u : Undecodable) : String :=
  let place :=
    if u.count = 1 then
      let digits := String.ofList (hexDigits 2 u.byte.toNat)
      s!"byte 0x{digits} in position {u.start}"
    else
      let last := u.start + u.count - 1
      s!"bytes in position {u.start}-{last}"
  s!"'utf-8' codec can't decode {place}: {u.reason.message}"

/-! ## The text of bytes -/

/-- A character of which some bytes are read.  The next byte has to be in `low … high`. -/
structure Pending where
  first : UInt8
  taken : Nat
  missing : Nat
  code : Nat
  low : Nat
  high : Nat
  deriving Repr, DecidableEq

/-- The character that a byte starts: complete, or with bytes missing. -/
def opens? (b : UInt8) : Option (Char ⊕ Pending) :=
  let n := b.toNat
  if n < 0x80 then some (.inl (Char.ofNat n))
  else if n < 0xC2 then none
  else if n < 0xE0 then some (.inr ⟨b, 1, 1, n - 0xC0, 0x80, 0xBF⟩)
  else if n = 0xE0 then some (.inr ⟨b, 1, 2, 0, 0xA0, 0xBF⟩)
  else if n = 0xED then some (.inr ⟨b, 1, 2, 0xD, 0x80, 0x9F⟩)
  else if n < 0xF0 then some (.inr ⟨b, 1, 2, n - 0xE0, 0x80, 0xBF⟩)
  else if n = 0xF0 then some (.inr ⟨b, 1, 3, 0, 0x90, 0xBF⟩)
  else if n < 0xF4 then some (.inr ⟨b, 1, 3, n - 0xF0, 0x80, 0xBF⟩)
  else if n = 0xF4 then some (.inr ⟨b, 1, 3, 4, 0x80, 0x8F⟩)
  else none

/-- The character with one byte more, if the byte continues it. -/
def Pending.continue? (p : Pending) (b : UInt8) : Option (Char ⊕ Pending) :=
  let n := b.toNat
  if p.low ≤ n && n ≤ p.high then
    let code := p.code * 64 + (n - 0x80)
    if p.missing = 1 then some (.inl (Char.ofNat code))
    else some (.inr ⟨p.first, p.taken + 1, p.missing - 1, code, 0x80, 0xBF⟩)
  else none

/-- What is wrong with a character that is broken off. -/
def Pending.broken (p : Pending) (reason : Encoding) (position : Nat) : Undecodable :=
  ⟨reason, position - p.taken, p.taken, p.first⟩

/-- The characters of bytes, given those read before (the last one first), the number of bytes read
and the character that is pending. -/
def decodeFrom (chars : List Char) (position : Nat) :
    Option Pending → List UInt8 → Except Undecodable (List Char)
  | none, [] => .ok chars.reverse
  | some p, [] => .error (p.broken .unexpectedEnd position)
  | none, b :: bs =>
    match opens? b with
    | some (.inl c) => decodeFrom (c :: chars) (position + 1) none bs
    | some (.inr p) => decodeFrom chars (position + 1) (some p) bs
    | none => .error ⟨.invalidStart, position, 1, b⟩
  | some p, b :: bs =>
    match p.continue? b with
    | some (.inl c) => decodeFrom (c :: chars) (position + 1) none bs
    | some (.inr q) => decodeFrom chars (position + 1) (some q) bs
    | none => .error (p.broken .invalidContinuation position)

/-- The characters of bytes. -/
def decode (bytes : ByteArray) : Except Undecodable (List Char) :=
  decodeFrom [] 0 none bytes.data.toList

/-- Some text for any bytes: what is no UTF-8 becomes U+FFFD.  There are at most as many such places
as `fuel`. -/
def decodeLossyFrom : (fuel : Nat) → List UInt8 → List Char
  | 0, _ => []
  | fuel + 1, bytes =>
    match decodeFrom [] 0 none bytes with
    | .ok chars => chars
    | .error u =>
      match decodeFrom [] 0 none (bytes.take u.start) with
      | .ok chars => chars ++ '\ufffd' :: decodeLossyFrom fuel (bytes.drop (u.start + u.count))
      | .error _ => []

/-- Some text for any bytes. -/
def decodeLossy (bytes : List UInt8) : List Char := decodeLossyFrom (bytes.length + 1) bytes

/-! ## Bytes of a text -/

/-- What a text is written in. -/
inductive Charset where
  | ascii
  | utf8
  deriving Repr, DecidableEq, Inhabited

/-- The name of a charset, and what it lacks. -/
def Charset.describe : Charset → String × String
  | ascii => ("ascii", "ordinal not in range(128)")
  | utf8 => ("utf-8", "surrogates not allowed")

/-- The charset has bytes for the code point. -/
def Charset.admits : Charset → Nat → Bool
  | ascii, n => n < 128
  | utf8, n => n.isValidChar

/-- The first code points of a text that its charset has no bytes for: where they start, how many
they are, and the first of them. -/
structure Unencodable where
  charset : Charset
  start : Nat
  count : Nat
  first : Nat
  deriving Repr, DecidableEq, Inhabited

/-- The wording: one code point is shown, several are named by their range. -/
def Unencodable.message (u : Unencodable) : String :=
  let (name, lack) := u.charset.describe
  let place :=
    if u.count = 1 then
      let shown := String.ofList (pointEscape u.first)
      s!"character '{shown}' in position {u.start}"
    else
      let last := u.start + u.count - 1
      s!"characters in position {u.start}-{last}"
  s!"'{name}' codec can't encode {place}: {lack}"

/-- The first run of code points that a charset does not admit, `start` of them being passed. -/
def unencodableFrom (charset : Charset) (start : Nat) : List Nat → Option Unencodable
  | [] => none
  | n :: ns =>
    if charset.admits n then unencodableFrom charset (start + 1) ns
    else
      let count := (ns.takeWhile fun m => !charset.admits m).length + 1
      some ⟨charset, start, count, n⟩

/-- What keeps a text from being written in ASCII. -/
def notAscii? (text : String) : Option Unencodable :=
  unencodableFrom .ascii 0 (text.toList.map Char.toNat)

/-- What keeps a text from being written in UTF-8. -/
def unwritable? [Spare] (text : String) : Option Unencodable :=
  unencodableFrom .utf8 0 (points text)

/-- The bytes of a text in UTF-8. -/
def encode [Spare] (text : String) : Except Unencodable ByteArray :=
  match unwritable? text with
  | some u => .error u
  | none => .ok text.toUTF8

theorem unencodableFrom_eq_none_iff {charset : Charset} {start : Nat} {ns : List Nat} :
    unencodableFrom charset start ns = none ↔ ∀ n ∈ ns, charset.admits n = true := by
  induction ns generalizing start with
  | nil => simp [unencodableFrom]
  | cons n ns ih =>
    rw [unencodableFrom, List.forall_mem_cons]
    by_cases h : charset.admits n = true
    · simp [h, ih]
    · simp [h]

example : (decodeFrom [] 0 none [0x61, 0xE2, 0x82, 0x61]).toOption = none := by decide
example : decodeFrom [] 0 none [0xF0, 0x9F, 0x98, 0x80] = .ok ['😀'] := by rfl
example : decodeLossy [0x61, 0xE2, 0x82, 0xFF] = ['a', '\ufffd', '\ufffd'] := by decide +kernel

end CodeReview.Text
