/-!
# Surrogates without a partner

Two surrogate code units spell one character; one alone spells none.  Text that was read from JSON
or from UTF-16 may still hold one, and can be measured, compared and searched like any other text.
It only cannot leave the library as text.

Such a unit is held by a *stand-in*, a character that no text at hand holds for itself.  Which
characters are free for that depends on the texts, so a block of them is chosen before any text is
read (`Spare`): the first one that no text has a character of (`Spare.avoiding`).  The blocks are
those of the planes that have no characters yet, which do not print and are no part of a word.

A reader needs one more thing that no text tells: room for what is open while it reads (`Room`).
Both are parameters of all that reads texts, so what is proved holds for each choice of them.

Main statements: a stand-in tells which surrogate it stands in for (`unitOf?_unitChar`), and a
character of the texts that were avoided stands for itself (`isStandIn_avoiding`).
-/

set_option autoImplicit false

namespace CodeReview.Text

/-! ## Pairs -/

/-- The first unit of a surrogate pair. -/
def isLeadUnit (n : Nat) : Bool := 0xD800 ≤ n && n ≤ 0xDBFF

/-- The second unit of a surrogate pair. -/
def isTrailUnit (n : Nat) : Bool := 0xDC00 ≤ n && n ≤ 0xDFFF

/-- The character of a surrogate pair. -/
def pairChar (lead trail : Nat) : Char :=
  Char.ofNat (0x10000 + (lead - 0xD800) * 0x400 + (trail - 0xDC00))

/-! ## Spare characters -/

/-- How many containers of a text may be open at once while it is read.  That depends on the stack
that the reader finds itself on; five hundred fit on any. -/
class Room where
  depth : Nat
  enough : 500 ≤ depth

/-- The room where no other is named: that on a stack of a thousand places, less those in use. -/
instance Room.usual : Room := ⟨980, by decide⟩

/-- What there is to spare for reading: room, and as many characters as there are surrogates, none
of which stands for itself: one of the blocks from U+40000 to U+DFFFF. -/
class Spare where
  [room : Room]
  index : Fin 320

namespace Spare

/-- The code point of the first spare character. -/
def start [s : Spare] : Nat := 0x40000 + 0x800 * s.index.val

/-- The block that a character is in. -/
def blockOf? (c : Char) : Option (Fin 320) :=
  let n := c.toNat - 0x40000
  if h : 0x40000 ≤ c.toNat ∧ n / 0x800 < 320 then some ⟨n / 0x800, h.2⟩ else none

/-- The first block that some characters leave free, and the very first one if they leave none. -/
@[reducible] def avoiding [Room] (cs : List Char) : Spare :=
  let taken := (cs.filterMap blockOf?).eraseDups
  ⟨((List.finRange 320).find? fun i => !taken.contains i).getD 0⟩

end Spare

/-! ## Stand-ins -/

/-- The character of a code unit; the stand-in of one that has no partner. -/
def unitChar [Spare] (unit : Nat) : Char :=
  if isLeadUnit unit || isTrailUnit unit then Char.ofNat (Spare.start + (unit - 0xD800))
  else Char.ofNat unit

/-- The surrogate that a character stands in for. -/
def unitOf? [Spare] (c : Char) : Option Nat :=
  if Spare.start ≤ c.toNat ∧ c.toNat < Spare.start + 0x800 then
    some (0xD800 + (c.toNat - Spare.start))
  else none

/-- The character stands in for a surrogate. -/
def isStandIn [Spare] (c : Char) : Bool := (unitOf? c).isSome

/-- The code points of a text: characters, and surrogates where there are stand-ins. -/
def points [Spare] (s : String) : List Nat := s.toList.map fun c => (unitOf? c).getD c.toNat

/-- The text has no stand-in, so it can be written anywhere. -/
def isWritable [Spare] (s : String) : Bool := s.toList.all fun c => !isStandIn c

/-- **A stand-in tells which surrogate it stands in for.** -/
theorem unitOf?_unitChar [s : Spare] {unit : Nat}
    (h : (isLeadUnit unit || isTrailUnit unit) = true) :
    unitOf? (unitChar unit) = some unit := by
  have hb : 0xD800 ≤ unit ∧ unit ≤ 0xDFFF := by
    simp only [isLeadUnit, isTrailUnit, Bool.or_eq_true, Bool.and_eq_true,
      decide_eq_true_eq] at h
    omega
  have hs : Spare.start = 0x40000 + 0x800 * s.index.val := rfl
  have hi := s.index.isLt
  have hv : Nat.isValidChar (Spare.start + (unit - 0xD800)) := Or.inr (by omega)
  have hn : (Char.ofNat (Spare.start + (unit - 0xD800))).toNat
      = Spare.start + (unit - 0xD800) := by
    rw [Char.ofNat, dif_pos hv]
    rfl
  have hu : 0xD800 + (Spare.start + (unit - 0xD800) - Spare.start) = unit := by omega
  rw [unitChar, if_pos h, unitOf?, hn, if_pos (by omega), hu]

/-- A stand-in is in the spare block. -/
theorem blockOf?_of_isStandIn [s : Spare] {c : Char} (h : isStandIn c = true) :
    Spare.blockOf? c = some s.index := by
  have hs : Spare.start = 0x40000 + 0x800 * s.index.val := rfl
  have hi := s.index.isLt
  have hc : Spare.start ≤ c.toNat ∧ c.toNat < Spare.start + 0x800 := by
    rw [isStandIn, unitOf?] at h
    split at h
    · assumption
    · simp at h
  have hd : (c.toNat - 0x40000) / 0x800 = s.index.val := by omega
  rw [Spare.blockOf?, dif_pos ⟨by omega, by omega⟩]
  simp [hd]

/-- **A character of the texts that were avoided stands for itself,** if they leave a block
free. -/
theorem isStandIn_avoiding [Room] {cs : List Char} {i : Fin 320} (hi : i ∉ cs.filterMap Spare.blockOf?)
    {c : Char} (hc : c ∈ cs) : @isStandIn (Spare.avoiding cs) c = false := by
  rw [Bool.eq_false_iff]
  intro h
  have hb := @blockOf?_of_isStandIn (Spare.avoiding cs) c h
  have found : ((List.finRange 320).find? fun i =>
      !(cs.filterMap Spare.blockOf?).eraseDups.contains i).isSome = true := by
    rw [List.find?_isSome]
    exact ⟨i, List.mem_finRange i, by simpa [List.mem_eraseDups] using hi⟩
  obtain ⟨j, hj⟩ := Option.isSome_iff_exists.1 found
  have free := List.find?_some hj
  have index : (Spare.avoiding cs).index = j := by
    rw [Spare.avoiding]
    simp only [hj, Option.getD_some]
  rw [index] at hb
  have : j ∈ cs.filterMap Spare.blockOf? := List.mem_filterMap.2 ⟨c, hc, hb⟩
  simp [List.mem_eraseDups] at free
  simp at this
  obtain ⟨a, ha, hj'⟩ := this
  exact free a ha hj'

end CodeReview.Text
