import CodeReview.Text.Blank
import CodeReview.Text.Search
import CodeReview.Text.Word
import Mathlib.Data.List.TakeWhile

/-!
# Places in a text

Patterns are tested at places.  A place is a cut of the text in two, and a test of it sees the
character before the cut and the text behind it: enough for a word boundary on the left and a word
on the right.  The functions that look for places walk along the text and hand the last character
on; the statements about them are about cuts:

* `somewhere_iff` — a search says whether some cut passes;
* `IsFirstPlace` — a cut that passes and has none that passes before it; there is one whenever some
  place passes (`exists_isFirstPlace`);
* `IsFirstPlace.replaceFirst` — a replacement changes the text behind that cut and nothing else;
* `countPlaces` — the number of cuts that pass, for arguments that a replacement leaves fewer.

The character before the whole text is a parameter, since a text is often the rest of a longer one:
`front.getLast?.or before` is what stands before the place behind `front`.
-/

set_option autoImplicit false

namespace CodeReview.Text

variable {test : Option Char → List Char → Bool} {before : Option Char}
  {cs front here start rest : List Char}

/-! ## The start of a text

A test of a place comes down to how the text behind it starts. -/

/-- No blank is a character of a word. -/
theorem isWord_of_isBlank {c : Char} (h : isBlank c = true) : isWord c = false := by
  have hcodes : ∀ n ∈ [9, 10, 11, 12, 13, 28, 29, 30, 31, 32, 0x85, 0xA0, 0x1680, 0x2000, 0x2001,
      0x2002, 0x2003, 0x2004, 0x2005, 0x2006, 0x2007, 0x2008, 0x2009, 0x200A, 0x2028, 0x2029,
      0x202F, 0x205F, 0x3000], isWord (Char.ofNat n) = false := by
    decide +kernel
  rw [← Char.ofNat_toNat c]
  refine hcodes c.toNat ?_
  simp only [isBlank, isWhiteSpace, Bool.or_eq_true, Bool.and_eq_true, decide_eq_true_eq,
    beq_iff_eq] at h
  simp only [List.mem_cons, List.not_mem_nil, or_false]
  omega

theorem after?_eq_some_iff : after? start cs = some rest ↔ cs = start ++ rest := by
  refine ⟨eq_append_of_after?, ?_⟩
  rintro rfl
  induction start with
  | nil => rfl
  | cons p ps ih => rwa [List.cons_append, after?, if_pos rfl]

theorem startsWith_eq_isSome (start cs : List Char) :
    startsWith start cs = (after? start cs).isSome := by
  rw [Bool.eq_iff_iff, startsWith, List.isPrefixOf_iff_prefix, Option.isSome_iff_exists]
  simp only [after?_eq_some_iff]
  exact exists_congr fun rest => eq_comm

/-- How a text starts does not depend on what is cut from its end, if the start stays. -/
theorem startsWith_dropEndWhile {p : Char → Bool} (hstart : start.any p = false)
    (cs : List Char) : startsWith start (dropEndWhile p cs) = startsWith start cs := by
  rw [Bool.eq_iff_iff, startsWith, startsWith, List.isPrefixOf_iff_prefix,
    List.isPrefixOf_iff_prefix]
  constructor
  · intro h
    exact h.trans ⟨_, dropEndWhile_append_self p cs⟩
  · rintro ⟨rest, rfl⟩
    have hstop : start.reverse.dropWhile p = start.reverse :=
      List.dropWhile_eq_self_iff.2 fun hlength =>
        List.any_eq_false.1 hstart _ (List.mem_reverse.1 (List.getElem_mem hlength))
    rw [dropEndWhile, List.reverse_append, List.dropWhile_append, hstop]
    split
    · exact ⟨[], by rw [List.append_nil, List.reverse_reverse]⟩
    · exact ⟨_, by rw [List.reverse_append, List.reverse_reverse]⟩

/-- What stands before a place that is not the start of the text. -/
@[simp] theorem getLast?_cons_or (c : Char) (front : List Char) (before : Option Char) :
    (c :: front).getLast?.or before = front.getLast?.or (some c) := by
  rw [List.getLast?_cons]
  cases front.getLast? <;> rfl

/-! ## Some place

The induction is along the text with `before` free, because each step hands the next one the
character it has passed; `getLast?_cons_or` is that step for the cut. -/

theorem somewhere_iff : somewhere test before cs = true ↔
    ∃ front here, cs = front ++ here ∧ test (front.getLast?.or before) here = true := by
  induction cs generalizing before with
  | nil =>
    constructor
    · exact fun h => ⟨[], [], rfl, h⟩
    · rintro ⟨front, here, hcut, h⟩
      obtain ⟨rfl, rfl⟩ := List.nil_eq_append_iff.1 hcut
      exact h
  | cons c cs ih =>
    rw [somewhere, Bool.or_eq_true, ih]
    constructor
    · rintro (h | ⟨front, here, rfl, h⟩)
      · exact ⟨[], c :: cs, rfl, h⟩
      · exact ⟨c :: front, here, rfl, by rwa [getLast?_cons_or]⟩
    · rintro ⟨front, here, hcut, h⟩
      cases front with
      | nil =>
        subst hcut
        exact .inl h
      | cons d front =>
        obtain ⟨rfl, rfl⟩ : c = d ∧ cs = front ++ here := by simpa using hcut
        exact .inr ⟨front, here, rfl, by rwa [getLast?_cons_or] at h⟩

/-! ## The first place

That a place is the first is said by the length of what stands before it, as all fronts of a text
are fronts of one another. -/

/-- The first place that passes is between `front` and `here`. -/
structure IsFirstPlace (test : Option Char → List Char → Bool) (before : Option Char)
    (cs front here : List Char) : Prop where
  cut : cs = front ++ here
  passes : test (front.getLast?.or before) here = true
  first : ∀ front' here', cs = front' ++ here' →
    test (front'.getLast?.or before) here' = true → front.length ≤ front'.length

/-- **If some place passes, one is the first.** -/
theorem exists_isFirstPlace (h : somewhere test before cs = true) :
    ∃ front here, IsFirstPlace test before cs front here := by
  induction cs generalizing before with
  | nil => exact ⟨[], [], rfl, h, fun _ _ _ _ => Nat.zero_le _⟩
  | cons c cs ih =>
    by_cases hc : test before (c :: cs) = true
    · exact ⟨[], c :: cs, rfl, hc, fun _ _ _ _ => Nat.zero_le _⟩
    · rw [somewhere, Bool.or_eq_true, or_iff_right hc] at h
      obtain ⟨front, here, hcut, hpasses, hfirst⟩ := ih h
      refine ⟨c :: front, here, by rw [hcut, List.cons_append], ?_,
        fun front' here' hcut' h' => ?_⟩
      · rwa [getLast?_cons_or]
      · cases front' with
        | nil =>
          subst hcut'
          exact absurd h' hc
        | cons d front' =>
          obtain ⟨rfl, hrest⟩ : c = d ∧ cs = front' ++ here' := by simpa using hcut'
          rw [getLast?_cons_or] at h'
          exact Nat.succ_le_succ (hfirst front' here' hrest h')

/-- **A replacement happens at the first place,** unless that is the end of the text. -/
theorem IsFirstPlace.replaceFirst (h : IsFirstPlace test before cs front here) (hhere : here ≠ [])
    (length : Nat) (image : List Char) :
    Text.replaceFirst test length image before cs = front ++ (image ++ here.drop length) := by
  obtain ⟨rfl, hpasses, hfirst⟩ := h
  induction front generalizing before with
  | nil =>
    obtain ⟨c, rest, rfl⟩ := List.exists_cons_of_ne_nil hhere
    exact if_pos hpasses
  | cons c front ih =>
    have hc : ¬ test before (c :: (front ++ here)) = true := fun hc =>
      absurd (hfirst [] _ rfl hc) (by simp)
    rw [List.cons_append, Text.replaceFirst, if_neg hc]
    rw [getLast?_cons_or] at hpasses
    refine congrArg (c :: ·) (ih hpasses fun front' here' hcut h' => ?_)
    have hle := hfirst (c :: front') here' (by rw [List.cons_append, hcut, List.cons_append])
      (by rwa [getLast?_cons_or])
    simpa using hle

/-! ## All places

Counting walks as the search does, so it finds something exactly if the search does. -/

/-- The number of places that pass. -/
def countPlaces (test : Option Char → List Char → Bool) : Option Char → List Char → Nat
  | before, [] => (test before []).toNat
  | before, c :: cs => (test before (c :: cs)).toNat + countPlaces test (some c) cs

theorem countPlaces_pos_iff : 0 < countPlaces test before cs ↔ somewhere test before cs = true := by
  induction cs generalizing before with
  | nil => cases h : test before [] <;> simp [countPlaces, somewhere, h]
  | cons c cs ih =>
    rw [countPlaces, somewhere, Bool.or_eq_true, ← ih]
    cases test before (c :: cs) with
    | false => rw [Bool.toNat_false, Nat.zero_add, or_iff_right Bool.false_ne_true]
    | true => exact iff_of_true (Nat.add_pos_left Nat.one_pos _) (.inl rfl)

end CodeReview.Text
