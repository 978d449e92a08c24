import CodeReview.Text.Encoding

/-!
# Reading back what was written

A run writes texts and reads bytes, and what it reads on one visit is often what it wrote on an
earlier one.  So something has to say that the bytes of a text are read as that text
(`decode_toUTF8`), whatever characters are in it.

The encoder comes from the library and the decoder is ours, and they are built differently.
`String.utf8EncodeChar` computes all bytes of a character from its code point at once; `decodeFrom`
takes one byte at a time and keeps what it knows of the character in a `Pending`: how many bytes
are to come, the code so far, and the range the next byte has to be in.  What connects the two is a
lemma for each kind of byte:

* `opens?_of_one` … `opens?_of_four` — the first byte tells how many are to come and, for the forms
  in which the short and the invalid ones have to be kept out, narrows the range of the next;
* `continue?_tail` — every later byte adds six bits to the code, if it is in the range.

The range is never a hindrance here, because `Char.valid` says that the code point is no surrogate
and at most U+10FFFF: each narrowed range follows from that and from the length of the form, by
linear arithmetic.
-/

set_option autoImplicit false

namespace CodeReview.Text

variable {chars : List Char} {position n : Nat} {p : Pending} {bs : List UInt8}

/-! ## Bytes of a character

The bytes are written `UInt8.ofNat (n + lead)`, as the encoder builds them, so that the decoder's
tests on a byte become tests on `n`. -/

theorem toNat_byte (h : n < 256) : (UInt8.ofNat n).toNat = n := UInt8.toNat_ofNat_of_lt' h

/-- A byte that is a character. -/
theorem opens?_of_one (h : n < 0x80) : opens? (UInt8.ofNat n) = some (.inl (Char.ofNat n)) := by
  rw [opens?]
  simp only [toNat_byte (show n < 256 by omega)]
  exact if_pos h

/-- The byte that opens a character of two bytes. -/
theorem opens?_of_two (h : 2 ≤ n) (h' : n < 0x20) : opens? (UInt8.ofNat (n + 0xC0))
    = some (.inr ⟨UInt8.ofNat (n + 0xC0), 1, 1, n, 0x80, 0xBF⟩) := by
  rw [opens?]
  simp only [toNat_byte (show n + 0xC0 < 256 by omega)]
  rw [if_neg (by omega), if_neg (by omega), if_pos (by omega), Nat.add_sub_cancel]

/-- The byte that opens a character of three bytes. -/
theorem opens?_of_three (h : n < 0x10) : opens? (UInt8.ofNat (n + 0xE0))
    = some (.inr ⟨UInt8.ofNat (n + 0xE0), 1, 2, n, if n = 0 then 0xA0 else 0x80,
        if n = 0xD then 0x9F else 0xBF⟩) := by
  rw [opens?]
  simp only [toNat_byte (show n + 0xE0 < 256 by omega)]
  rw [if_neg (by omega), if_neg (by omega), if_neg (by omega)]
  by_cases hfirst : n = 0
  · simp [hfirst]
  by_cases hsurrogate : n = 0xD
  · simp [hsurrogate]
  rw [if_neg (by omega), if_neg (by omega), if_pos (by omega), if_neg hfirst, if_neg hsurrogate,
    Nat.add_sub_cancel]

/-- The byte that opens a character of four bytes. -/
theorem opens?_of_four (h : n < 5) : opens? (UInt8.ofNat (n + 0xF0))
    = some (.inr ⟨UInt8.ofNat (n + 0xF0), 1, 3, n, if n = 0 then 0x90 else 0x80,
        if n = 4 then 0x8F else 0xBF⟩) := by
  rw [opens?]
  simp only [toNat_byte (show n + 0xF0 < 256 by omega)]
  rw [if_neg (by omega), if_neg (by omega), if_neg (by omega), if_neg (by omega),
    if_neg (by omega), if_neg (by omega)]
  by_cases hfirst : n = 0
  · simp [hfirst]
  by_cases hlast : n = 4
  · simp [hlast]
  rw [if_neg (by omega), if_pos (by omega), if_neg hfirst, if_neg hlast, Nat.add_sub_cancel]

/-- A byte that continues a character adds six bits to it. -/
theorem continue?_tail (h : n < 64) (hlow : p.low ≤ n + 0x80) (hhigh : n + 0x80 ≤ p.high) :
    p.continue? (UInt8.ofNat (n + 0x80))
      = if p.missing = 1 then some (.inl (Char.ofNat (p.code * 64 + n)))
        else some (.inr ⟨p.first, p.taken + 1, p.missing - 1, p.code * 64 + n, 0x80, 0xBF⟩) := by
  rw [Pending.continue?]
  simp only [toNat_byte (show n + 0x80 < 256 by omega), Nat.add_sub_cancel]
  exact if_pos (by simp [hlow, hhigh])

/-- The last byte of a character. -/
theorem decodeFrom_last (h : n < 64) (hlow : p.low ≤ n + 0x80) (hhigh : n + 0x80 ≤ p.high)
    (hmissing : p.missing = 1) :
    decodeFrom chars position (some p) (UInt8.ofNat (n + 0x80) :: bs)
      = decodeFrom (Char.ofNat (p.code * 64 + n) :: chars) (position + 1) none bs := by
  rw [decodeFrom, continue?_tail h hlow hhigh, if_pos hmissing]

/-- A byte in the midst of a character. -/
theorem decodeFrom_more (h : n < 64) (hlow : p.low ≤ n + 0x80) (hhigh : n + 0x80 ≤ p.high)
    (hmissing : p.missing ≠ 1) :
    decodeFrom chars position (some p) (UInt8.ofNat (n + 0x80) :: bs)
      = decodeFrom chars (position + 1)
          (some ⟨p.first, p.taken + 1, p.missing - 1, p.code * 64 + n, 0x80, 0xBF⟩) bs := by
  rw [decodeFrom, continue?_tail h hlow hhigh, if_neg hmissing]

/-- **The bytes of a character** are read as that character. -/
theorem decodeFrom_utf8EncodeChar (c : Char) :
    decodeFrom chars position none (String.utf8EncodeChar c ++ bs)
      = decodeFrom (c :: chars) (position + (String.utf8EncodeChar c).length) none bs := by
  have hvalid : c.val.toNat < 0xD800 ∨ 0xDFFF < c.val.toNat ∧ c.val.toNat < 0x110000 := c.valid
  have hchar : Char.ofNat c.val.toNat = c := Char.ofNat_toNat c
  rw [String.utf8EncodeChar]
  generalize c.val.toNat = v at hvalid hchar ⊢
  split
  · rename_i hone
    rw [List.singleton_append, decodeFrom, opens?_of_one (by omega), hchar]
    rfl
  split
  · rename_i hone htwo
    have hlead : v / 64 % 0x20 = v / 64 := by omega
    have hcode : v / 64 * 64 + v % 0x40 = v := by omega
    simp only [List.cons_append, List.nil_append, hlead]
    rw [decodeFrom, opens?_of_two (by omega) (by omega)]
    dsimp only
    rw [decodeFrom_last (by omega) (by dsimp only; omega) (by dsimp only; omega) rfl, hcode, hchar]
    rfl
  split
  · rename_i hone htwo hthree
    have hlead : v / 4096 % 0x10 = v / 4096 := by omega
    have hcode : (v / 4096 * 64 + v / 64 % 0x40) * 64 + v % 0x40 = v := by omega
    simp only [List.cons_append, List.nil_append, hlead]
    rw [decodeFrom, opens?_of_three (by omega)]
    dsimp only
    rw [decodeFrom_more (by omega) (by dsimp only; split <;> omega)
        (by dsimp only; split <;> omega) (by dsimp only; omega),
      decodeFrom_last (by omega) (by dsimp only; omega) (by dsimp only; omega) rfl, hcode, hchar]
    rfl
  · rename_i hone htwo hthree
    have hlead : v / 262144 % 8 = v / 262144 := by omega
    have hcode : ((v / 262144 * 64 + v / 4096 % 0x40) * 64 + v / 64 % 0x40) * 64 + v % 0x40 = v := by
      omega
    simp only [List.cons_append, List.nil_append, hlead]
    rw [decodeFrom, opens?_of_four (by omega)]
    dsimp only
    rw [decodeFrom_more (by omega) (by dsimp only; split <;> omega)
        (by dsimp only; split <;> omega) (by dsimp only; omega),
      decodeFrom_more (by omega) (by dsimp only; omega) (by dsimp only; omega)
        (by dsimp only; omega),
      decodeFrom_last (by omega) (by dsimp only; omega) (by dsimp only; omega) rfl, hcode, hchar]
    rfl

/-! ## Bytes of a text

Between two characters nothing is pending, so the bytes of a text are read one character after the
other.  The characters read so far are kept in reverse, which is why the induction carries `chars`
along. -/

theorem decodeFrom_flatMap (cs : List Char) :
    decodeFrom chars position none (cs.flatMap String.utf8EncodeChar) = .ok (chars.reverse ++ cs) := by
  induction cs generalizing chars position with
  | nil => simp [decodeFrom]
  | cons c cs ih =>
    rw [List.flatMap_cons, decodeFrom_utf8EncodeChar, ih, List.reverse_cons, List.append_assoc]
    rfl

/-- **The bytes of a text** are read as that text. -/
theorem decode_toUTF8 (text : String) : decode text.toUTF8 = .ok text.toList := by
  have hbytes : text.toUTF8.data.toList = text.toList.flatMap String.utf8EncodeChar := by
    rw [String.toUTF8_eq_toByteArray, ← String.utf8Encode_toList, List.utf8Encode,
      List.data_toByteArray]
  rw [decode, hbytes, decodeFrom_flatMap]
  rfl

end CodeReview.Text
