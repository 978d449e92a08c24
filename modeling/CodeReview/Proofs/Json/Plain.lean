import CodeReview.Json.Reader
import CodeReview.Text.Search

/-!
# Words and numbers

A word or a number has no closing character of its own: it ends where the next character does not
continue it.  So what stands behind it matters, and a cut behind it might change it.  A closing
brace continues neither a word nor a number, though.  A number that is followed by a brace is read
as if the text ended there (`readPlain_append_brace`), whatever stands behind the brace.

This is why replies are cut behind a brace and nowhere else.  A text need not be taken whole by
`readPlain`, so the statements are of this form: reading a text with a brace behind it is reading
the text, with the brace behind what is left.  They are about `toOption`, because the faults
differ: they tell how much text is left, and that is more with the brace than without.
## What is here

* `readWord?` — the words, as a search in a table;
* `readFraction_append_brace` and its like — each part of a number, with a brace behind it;
* `readPlain_append_brace` — what was read before a brace is read whatever stands behind it;
* `readPlain_eq_ok` — a word or a number takes a character at least, which `readValue` needs for
  its sequences.
-/

set_option autoImplicit false

namespace CodeReview.Json

open CodeReview.Text

/-! ## Words

The words are a table (`wordValues`), so that one lemma about what a text starts with does for all
of them.  No word has a brace in it. -/

/-- The words that stand for values. -/
def wordValues : List (List Char × Value) :=
  [("null".toList, .null), ("true".toList, .bool true), ("false".toList, .bool false),
    ("NaN".toList, .real .nan), ("Infinity".toList, .real (.infinite false)),
    ("-Infinity".toList, .real (.infinite true))]

/-- The value of the word that a text starts with, and what follows the word. -/
def readWord? (cs : List Char) : Option (Value × List Char) :=
  wordValues.findSome? fun w => (after? w.1 cs).map fun rest => (w.2, rest)

theorem readPlain_eq (cs : List Char) :
    readPlain cs = (readWord? cs).elim (readNumber cs) .ok := by
  have hnone : ∀ {word : List Char}, (∀ rest, cs = word ++ rest → False) →
      after? word cs = none := by
    intro word h
    cases ha : after? word cs with
    | none => rfl
    | some rest => exact (h rest (eq_append_of_after? ha)).elim
  unfold readPlain
  split
  case h_7 hn ht hf hN hI hm =>
    have h1 : after? "null".toList cs = none := hnone hn
    have h2 : after? "true".toList cs = none := hnone ht
    have h3 : after? "false".toList cs = none := hnone hf
    have h4 : after? "NaN".toList cs = none := hnone hN
    have h5 : after? "Infinity".toList cs = none := hnone hI
    have h6 : after? "-Infinity".toList cs = none := hnone hm
    simp only [readWord?, wordValues, List.findSome?_cons, List.findSome?_nil, h1, h2, h3, h4, h5,
      h6, Option.map_none, Option.elim_none]
  all_goals rfl

/-- What a text starts with is not changed by what stands behind a brace. -/
theorem after?_append_brace {start : List Char} (h : '\x7d' ∉ start) (a x : List Char) :
    after? start (a ++ '\x7d' :: x) = (after? start a).map (· ++ '\x7d' :: x) := by
  induction start generalizing a with
  | nil => rfl
  | cons c start ih =>
    rw [List.mem_cons, not_or] at h
    cases a with
    | nil => simp [after?, Ne.symm h.1]
    | cons d a =>
      rw [List.cons_append, after?, after?]
      split
      · exact ih h.2 a
      · rfl

theorem readWord?_append_brace (a x : List Char) :
    readWord? (a ++ '\x7d' :: x) = (readWord? a).map fun p => (p.1, p.2 ++ '\x7d' :: x) := by
  have hw : wordValues.all fun w => !w.1.contains '\x7d' := by decide +kernel
  unfold readWord?
  generalize wordValues = words at hw ⊢
  induction words with
  | nil => rfl
  | cons w ws ih =>
    rw [List.all_cons, Bool.and_eq_true] at hw
    rw [List.findSome?_cons, List.findSome?_cons, after?_append_brace (by simpa using hw.1)]
    cases after? w.1 a with
    | none => exact ih hw.2
    | some rest => rfl

/-! ## Numbers

One lemma for each part of a number, in the order of the grammar.  `readMinus` and `readMagnitude`
name the two halves of `readNumber`. -/

theorem takeWhile_isDigit_append_brace (a x : List Char) :
    (a ++ '\x7d' :: x).takeWhile Char.isDigit = a.takeWhile Char.isDigit := by
  induction a with
  | nil => rfl
  | cons c a ih => rw [List.cons_append, List.takeWhile_cons, List.takeWhile_cons, ih]

theorem dropWhile_isDigit_append_brace (a x : List Char) :
    (a ++ '\x7d' :: x).dropWhile Char.isDigit = a.dropWhile Char.isDigit ++ '\x7d' :: x := by
  induction a with
  | nil => rfl
  | cons c a ih =>
    rw [List.cons_append, List.dropWhile_cons, List.dropWhile_cons, ih]
    split <;> rfl

theorem readSign_append_brace (a x : List Char) :
    Numeral.readSign (a ++ '\x7d' :: x)
      = ((Numeral.readSign a).1, (Numeral.readSign a).2 ++ '\x7d' :: x) := by
  match a with
  | [] => rfl
  | c :: a =>
    by_cases hm : c = '-'
    · subst hm
      rfl
    · by_cases hp : c = '+'
      · subst hp
        rfl
      · simp [Numeral.readSign, hm, hp]

theorem readFraction_append_brace (a x : List Char) :
    readFraction (a ++ '\x7d' :: x)
      = ((readFraction a).1, (readFraction a).2 ++ '\x7d' :: x) := by
  match a with
  | [] => rfl
  | [c] =>
    by_cases hc : c = '.'
    · subst hc
      rfl
    · simp [readFraction, hc]
  | c :: d :: a =>
    by_cases hc : c = '.'
    · subst hc
      simp only [readFraction, List.cons_append, takeWhile_isDigit_append_brace,
        dropWhile_isDigit_append_brace]
      split <;> rfl
    · simp [readFraction, hc]

theorem readExponent_append_brace (a x : List Char) :
    readExponent (a ++ '\x7d' :: x)
      = ((readExponent a).1, (readExponent a).2 ++ '\x7d' :: x) := by
  match a with
  | [] => rfl
  | c :: a =>
    simp only [readExponent, List.cons_append, readSign_append_brace,
      takeWhile_isDigit_append_brace, dropWhile_isDigit_append_brace]
    split
    · split <;> rfl
    · rfl

theorem readWhole_append_brace (a x : List Char) :
    readWhole (a ++ '\x7d' :: x)
      = (readWhole a).map fun p => (p.1, p.2 ++ '\x7d' :: x) := by
  match a with
  | [] => rfl
  | c :: a =>
    by_cases hc : c = '0'
    · subst hc
      rfl
    · simp only [readWhole, List.cons_append, takeWhile_isDigit_append_brace,
        dropWhile_isDigit_append_brace]
      split <;> rfl

/-- A leading minus, and what follows it. -/
def readMinus (cs : List Char) : Bool × List Char :=
  match cs with
  | '-' :: rest => (true, rest)
  | _ => (false, cs)

/-- A number from behind its sign; `left` is the length of the text from the sign on. -/
def readMagnitude (negative : Bool) (left : Nat) (unsigned : List Char) :
    Except Stop (Value × List Char) :=
  match readWhole unsigned with
  | none => .error (.fault .valueExpected left)
  | some (whole, rest) =>
    let (fraction, rest) := readFraction rest
    let (exponent, rest) := readExponent rest
    match fraction, exponent with
    | none, none =>
      if Numeral.maxDigits < whole.length then .error (.limit (.digits whole.length))
      else
        let n : Int := digitsValue whole
        .ok (.int (if negative then -n else n), rest)
    | _, _ =>
      let tail := fraction.getD []
      .ok (.real (Double.ofDecimal negative (digitsValue (whole ++ tail))
        (exponent.getD 0 - tail.length)), rest)

theorem readNumber_eq (cs : List Char) :
    readNumber cs = readMagnitude (readMinus cs).1 cs.length (readMinus cs).2 := rfl

theorem readMinus_append_brace (a x : List Char) :
    readMinus (a ++ '\x7d' :: x) = ((readMinus a).1, (readMinus a).2 ++ '\x7d' :: x) := by
  match a with
  | [] => rfl
  | c :: a =>
    by_cases hc : c = '-'
    · subst hc
      rfl
    · simp [readMinus, hc]

theorem toOption_readMagnitude_append_brace (negative : Bool) (left left' : Nat)
    (a x : List Char) :
    (readMagnitude negative left (a ++ '\x7d' :: x)).toOption =
      (readMagnitude negative left' a).toOption.map fun p => (p.1, p.2 ++ '\x7d' :: x) := by
  rw [readMagnitude, readMagnitude, readWhole_append_brace]
  cases readWhole a with
  | none => rfl
  | some p =>
    obtain ⟨whole, rest⟩ := p
    simp only [Option.map_some, readFraction_append_brace, readExponent_append_brace]
    split
    · split <;> rfl
    · rfl

theorem toOption_readNumber_append_brace (a x : List Char) :
    (readNumber (a ++ '\x7d' :: x)).toOption =
      (readNumber a).toOption.map fun p => (p.1, p.2 ++ '\x7d' :: x) := by
  rw [readNumber_eq, readNumber_eq, readMinus_append_brace]
  exact toOption_readMagnitude_append_brace _ _ _ _ x

/-- **A brace ends a word or a number** as the end of the text does. -/
theorem toOption_readPlain_append_brace (a x : List Char) :
    (readPlain (a ++ '\x7d' :: x)).toOption =
      (readPlain a).toOption.map fun p => (p.1, p.2 ++ '\x7d' :: x) := by
  rw [readPlain_eq, readPlain_eq, readWord?_append_brace]
  cases readWord? a with
  | none => exact toOption_readNumber_append_brace a x
  | some p => rfl

theorem readPlain_append_brace {a x rest : List Char} {v : Value}
    (h : readPlain (a ++ '\x7d' :: x) = .ok (v, rest)) :
    ∃ r, rest = r ++ '\x7d' :: x ∧
      ∀ y, readPlain (a ++ '\x7d' :: y) = .ok (v, r ++ '\x7d' :: y) := by
  have hx := toOption_readPlain_append_brace a x
  rw [h] at hx
  obtain ⟨⟨w, r⟩, hr, heq⟩ := Option.map_eq_some_iff.1 hx.symm
  obtain ⟨rfl, rfl⟩ : w = v ∧ r ++ '\x7d' :: x = rest := by simpa using heq
  refine ⟨r, rfl, fun y => ?_⟩
  have hy := toOption_readPlain_append_brace a y
  rw [hr] at hy
  cases he : readPlain (a ++ '\x7d' :: y) with
  | error stop => simp [he, Except.toOption] at hy
  | ok p => simpa [he, Except.toOption] using hy

/-! ## Progress

Each part of a number leaves an end of what it was given, and the digits before the point are one
at least. -/

theorem readWhole_eq_some {cs whole rest : List Char} (h : readWhole cs = some (whole, rest)) :
    whole ≠ [] ∧ cs = whole ++ rest := by
  match cs with
  | [] => simp [readWhole] at h
  | c :: cs =>
    by_cases hc : c = '0'
    · subst hc
      obtain ⟨rfl, rfl⟩ : ['0'] = whole ∧ cs = rest := by simpa [readWhole] using h
      simp
    · simp only [readWhole] at h
      split at h
      · obtain ⟨rfl, rfl⟩ : c :: cs.takeWhile Char.isDigit = whole
            ∧ cs.dropWhile Char.isDigit = rest := by simpa using h
        simp
      · simp at h

theorem readMinus_suffix (cs : List Char) : (readMinus cs).2 <:+ cs := by
  unfold readMinus
  split
  · exact List.suffix_cons _ _
  · exact List.suffix_rfl

theorem readFraction_suffix (cs : List Char) : (readFraction cs).2 <:+ cs := by
  unfold readFraction
  split
  · rename_i d rest
    split
    · exact (List.dropWhile_suffix _).trans
        ((List.suffix_cons d rest).trans (List.suffix_cons '.' _))
    · exact List.suffix_rfl
  · exact List.suffix_rfl

theorem readSign_suffix (cs : List Char) : (Numeral.readSign cs).2 <:+ cs := by
  unfold Numeral.readSign
  split
  · exact List.suffix_cons _ _
  · exact List.suffix_cons _ _
  · exact List.suffix_rfl

theorem readExponent_suffix (cs : List Char) : (readExponent cs).2 <:+ cs := by
  match cs with
  | [] => exact List.suffix_rfl
  | c :: cs =>
    simp only [readExponent]
    split
    · split
      · exact List.suffix_rfl
      · exact (List.dropWhile_suffix _).trans
          ((readSign_suffix cs).trans (List.suffix_cons c cs))
    · exact List.suffix_rfl

/-- A number has a digit at least. -/
theorem readMagnitude_eq_ok {negative : Bool} {left : Nat} {cs rest : List Char} {v : Value}
    (h : readMagnitude negative left cs = .ok (v, rest)) :
    ∃ taken, taken ≠ [] ∧ cs = taken ++ rest := by
  rw [readMagnitude] at h
  cases hw : readWhole cs with
  | none => simp [hw] at h
  | some p =>
    obtain ⟨whole, behind⟩ := p
    obtain ⟨hne, rfl⟩ := readWhole_eq_some hw
    have hsuffix : (readExponent (readFraction behind).2).2 <:+ behind :=
      (readExponent_suffix _).trans (readFraction_suffix behind)
    have hrest : (readExponent (readFraction behind).2).2 = rest := by
      simp only [hw] at h
      split at h
      · split at h
        · cases h
        · exact (Prod.mk.inj (Except.ok.inj h)).2
      · exact (Prod.mk.inj (Except.ok.inj h)).2
    obtain ⟨between, hb⟩ := hrest ▸ hsuffix
    exact ⟨whole ++ between, by simp [hne], by rw [List.append_assoc, hb]⟩

theorem readPlain_eq_ok {cs rest : List Char} {v : Value} (h : readPlain cs = .ok (v, rest)) :
    ∃ taken, taken ≠ [] ∧ cs = taken ++ rest := by
  rw [readPlain_eq] at h
  cases hw : readWord? cs with
  | some p =>
    obtain ⟨word, hmem, hp⟩ := List.exists_of_findSome?_eq_some hw
    obtain ⟨behind, ha, rfl⟩ := Option.map_eq_some_iff.1 hp
    have hne : wordValues.all fun w => !w.1.isEmpty := by decide +kernel
    rw [hw, Option.elim_some] at h
    obtain ⟨-, rfl⟩ := Prod.mk.inj (Except.ok.inj h)
    exact ⟨word.1, by simpa using List.all_eq_true.1 hne word hmem, eq_append_of_after? ha⟩
  | none =>
    rw [hw, Option.elim_none, readNumber_eq] at h
    obtain ⟨taken, hne, heq⟩ := readMagnitude_eq_ok h
    obtain ⟨sign, hs⟩ := readMinus_suffix cs
    exact ⟨sign ++ taken, by simp [hne], by rw [List.append_assoc, ← heq, hs]⟩

/-! ## Kinds

The result is told from an object by its constructor. -/

/-- A word or a number is no object. -/
theorem readPlain_ne_obj {cs rest : List Char} {fields : Fields} :
    readPlain cs ≠ .ok (.obj fields, rest) := by
  intro h
  rw [readPlain_eq] at h
  cases hw : readWord? cs with
  | some p =>
    obtain ⟨word, hmem, hp⟩ := List.exists_of_findSome?_eq_some hw
    obtain ⟨behind, -, rfl⟩ := Option.map_eq_some_iff.1 hp
    rw [hw, Option.elim_some] at h
    have hword : word.2 = .obj fields := (Prod.mk.inj (Except.ok.inj h)).1
    simp [wordValues] at hmem
    rcases hmem with rfl | rfl | rfl | rfl | rfl | rfl <;> cases hword
  | none =>
    rw [hw, Option.elim_none, readNumber_eq, readMagnitude] at h
    split at h
    · cases h
    · simp only at h
      split at h
      · split at h
        · cases h
        · cases (Prod.mk.inj (Except.ok.inj h)).1
      · cases (Prod.mk.inj (Except.ok.inj h)).1

end CodeReview.Json
