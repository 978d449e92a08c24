import CodeReview.Text.Quoted

/-!
# Percent encoding

In the parts of an address some characters are written as their UTF-8 bytes, each as a percent sign
and two hexadecimal digits.  Which ASCII characters are, differs from part to part; control
characters and everything above ASCII always are.  Percent signs themselves stay, so what is
encoded already is not encoded twice.
-/

set_option autoImplicit false

namespace CodeReview.Address

/-- Characters that are encoded in a part of an address, besides those that always are. -/
abbrev Reserved := List Char

/-- What is encoded in a fragment. -/
def fragmentReserved : Reserved := [' ', '"', '<', '>', '\x60']

/-- What is encoded in a path. -/
def pathReserved : Reserved := fragmentReserved ++ ['#', '?', '\x7b', '\x7d']

/-- What is encoded in a user name and a password. -/
def userReserved : Reserved :=
  pathReserved ++ ['/', ':', ';', '=', '@', '[', '\\', ']', '^', '|']

/-- What is encoded in a query. -/
def queryReserved : Reserved := [' ', '"', '#', '<', '>', '\'']

/-- The character is written as its bytes. -/
def isEncoded (reserved : Reserved) (c : Char) : Bool :=
  c.toNat < 0x20 || 0x7F ≤ c.toNat || reserved.contains c

/-- A byte as a percent sign and two digits. -/
def encodeByte (b : UInt8) : List Char := '%' :: (Text.hexDigits 2 b.toNat).map Char.toUpper

/-- A character in a part of an address. -/
def encodeChar (reserved : Reserved) (c : Char) : List Char :=
  if isEncoded reserved c then (String.singleton c).toUTF8.data.toList.flatMap encodeByte else [c]

/-- A text in a part of an address. -/
def encode (reserved : Reserved) (cs : List Char) : List Char :=
  cs.flatMap (encodeChar reserved)

/-- The value of a hexadecimal digit. -/
def digit? (c : Char) : Option Nat :=
  if c.isDigit then some (c.toNat - 48)
  else if 'a' ≤ c ∧ c ≤ 'f' then some (c.toNat - 87)
  else if 'A' ≤ c ∧ c ≤ 'F' then some (c.toNat - 55)
  else none

/-- The bytes of a text in which bytes may be written with percent signs. -/
def decodeBytes : List Char → List UInt8
  | [] => []
  | '%' :: a :: b :: cs =>
    match digit? a, digit? b with
    | some x, some y => UInt8.ofNat (16 * x + y) :: decodeBytes cs
    | _, _ => 37 :: decodeBytes (a :: b :: cs)
  | c :: cs => (String.singleton c).toUTF8.data.toList ++ decodeBytes cs

theorem digit?_toUpper_hexDigit (n : Nat) :
    digit? (Text.hexDigit n).toUpper = some (n % 16) := by
  have h : ∀ k : Fin 16, digit? (Nat.digitChar k.val).toUpper = some k.val := by decide
  exact h ⟨n % 16, Nat.mod_lt n (by decide)⟩

/-- **A byte with a percent sign is read back.** -/
theorem decodeBytes_encodeByte (b : UInt8) (cs : List Char) :
    decodeBytes (encodeByte b ++ cs) = b :: decodeBytes cs := by
  have hb : b.toNat < 256 := b.toNat_lt
  have hn : 16 * (b.toNat / 16 % 16) + b.toNat % 16 = b.toNat := by omega
  simp [encodeByte, Text.hexDigits, decodeBytes, digit?_toUpper_hexDigit, hn]

/-- The text that is left when no byte is written with a percent sign any more; none if the bytes
are no UTF-8. -/
def decode? (cs : List Char) : Option (List Char) :=
  (String.fromUTF8? ⟨(decodeBytes cs).toArray⟩).map String.toList

end CodeReview.Address
