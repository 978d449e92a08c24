import CodeReview.Proofs.Json.Nesting
import Mathlib.Data.List.TakeWhile

/-!
# What a reader takes is closed

`Nesting.lean` has a scan that looks at quotes, backslashes and brackets alone, and asks which
containers are open behind a text.  The reader is another thing altogether: it has a grammar.  This
file connects the two.  What a reader of values takes is *closed* for the scan: the scan leaves it
as it enters it, between literals and with the same containers open (`closes_readValue`).

The reader tells more than the scan could, so the direction matters.  A text that is closed for the
scan need be no JSON; but a text that was read is closed, and that is all that is needed to say
what is open in a part of it.

* `StaysWithin` — inside a literal the scan does not get out of it on this text, nor on any
  beginning of it.  It holds of texts put together (`StaysWithin.append`), and it is what
  `readString_staysWithin` needs: the quote at the end of a literal is the first that the scan
  takes for one.
* `QuietTo` — words, numbers and blanks have no character that the scan looks at.
* `Closes` — the property of readers that goes up the grammar: items, sequences, containers, and by
  the depth of the reader all values.
## What is here

* `StaysWithin.opens` — a literal opens nothing;
* `readString_staysWithin` — a literal that is read is one;
* `quietTo_readPlain` — a word or a number is quiet;
* `closes_readAll` — a sequence is closed up to its closing character;
* `closes_readValue` — a value is closed, by induction on the number of containers that may be
  opened.
-/

set_option autoImplicit false

namespace CodeReview.Json

open CodeReview.Text

/-! ## Inside a literal

Two characters change where the scan is inside a literal, the quote and the backslash.  A character
that is neither stays within (`StaysWithin.char`), and so does a backslash with whatever it escapes
(`StaysWithin.escape`), a quote too.  An escape by a code unit has four more characters, which are
hexadecimal digits and so neither of the two. -/

/-- From inside a literal the scan does not leave it on this text, and no backslash is left open. -/
structure StaysWithin (cs : List Char) : Prop where
  inside : ∀ w, w <+: cs → Spot.within.behind w ≠ .between
  ends : Spot.within.behind cs = .within

namespace StaysWithin

variable {cs ds : List Char} {c : Char}

theorem nil : StaysWithin [] where
  inside w hw := by
    rw [List.prefix_nil.1 hw]
    decide
  ends := rfl

theorem append (h : StaysWithin cs) (h' : StaysWithin ds) : StaysWithin (cs ++ ds) where
  inside w hw := by
    rcases List.prefix_or_prefix_of_prefix hw (List.prefix_append cs ds) with hcs | ⟨v, rfl⟩
    · exact h.inside w hcs
    · rw [Spot.behind_append, h.ends]
      exact h'.inside v ((List.prefix_append_right_inj cs).1 hw)
  ends := by rw [Spot.behind_append, h.ends, h'.ends]

theorem char (hquote : c ≠ '"') (hslash : c ≠ '\\') : StaysWithin [c] := by
  have hafter : Spot.within.after c = .within := by simp [Spot.after, hquote, hslash]
  refine ⟨fun w hw => ?_, hafter⟩
  rcases List.prefix_cons_iff.1 hw with rfl | ⟨v, rfl, hv⟩
  · decide
  · rw [List.prefix_nil.1 hv]
    exact fun h => Spot.noConfusion (hafter.symm.trans h)

theorem escape (c : Char) : StaysWithin ['\\', c] := by
  refine ⟨fun w hw => ?_, rfl⟩
  rcases List.prefix_cons_iff.1 hw with rfl | ⟨v, rfl, hv⟩
  · decide
  · rcases List.prefix_cons_iff.1 hv with rfl | ⟨u, rfl, hu⟩
    · decide
    · rw [List.prefix_nil.1 hu]
      exact fun h => Spot.noConfusion h

theorem of_forall (h : ∀ c ∈ cs, c ≠ '"' ∧ c ≠ '\\') : StaysWithin cs := by
  induction cs with
  | nil => exact nil
  | cons c cs ih =>
    rw [List.forall_mem_cons] at h
    exact (char h.1.1 h.1.2).append (ih h.2)

/-- An escape by a code unit. -/
theorem unit {a b c d : Char} {unit : Nat} (h : codeUnit? a b c d = some unit) :
    StaysWithin ['\\', 'u', a, b, c, d] := by
  have hnone : hexValue? '"' = none ∧ hexValue? '\\' = none := by decide
  have hdigit {e : Char} {n : Nat} (he : hexValue? e = some n) : e ≠ '"' ∧ e ≠ '\\' := by
    constructor <;> rintro rfl
    · cases hnone.1.symm.trans he
    · cases hnone.2.symm.trans he
  simp only [codeUnit?, Option.bind_eq_bind, Option.bind_eq_some_iff] at h
  obtain ⟨_, ha, _, hb, _, hc, _, hd, -⟩ := h
  have hdigits : StaysWithin [a, b, c, d] :=
    of_forall (by simp [hdigit ha, hdigit hb, hdigit hc, hdigit hd])
  exact (escape 'u').append hdigits

/-- A literal ends with its quote, so it cannot have been left before. -/
theorem ne_between_of_prefix {p : List Char} (h : StaysWithin cs) (hp : p <+: cs) :
    Spot.between.behind ('"' :: p) ≠ .between := h.inside p hp

/-- Inside a literal no container is opened or closed. -/
theorem behind_eq (h : StaysWithin cs) (opened : List Container) :
    Place.behind ⟨.within, opened⟩ cs = some ⟨.within, opened⟩ := by
  have hmove : ∀ (spot : Spot) (cs : List Char), (∀ w, w <+: cs → spot.behind w ≠ .between) →
      Place.behind ⟨spot, opened⟩ cs = some ⟨spot.behind cs, opened⟩ := by
    intro spot cs hinside
    induction cs generalizing spot with
    | nil => rfl
    | cons c cs ih =>
      have hafter : Place.after ⟨spot, opened⟩ c = some ⟨spot.after c, opened⟩ := by
        cases spot with
        | between => exact absurd rfl (hinside [] List.nil_prefix)
        | within => rfl
        | escaped => rfl
      rw [Place.behind_cons, hafter, Option.bind_some]
      exact ih _ fun w hw => hinside (c :: w) (List.cons_prefix_cons.2 ⟨rfl, hw⟩)
  rw [hmove .within cs h.inside, h.ends]

/-- **A literal** opens nothing. -/
theorem opens (h : StaysWithin cs) : Opens ('"' :: (cs ++ ['"'])) [] := by
  intro outer
  have hquote : Place.after ⟨.between, outer⟩ '"' = some ⟨.within, outer⟩ := rfl
  rw [Place.behind_cons, hquote, Option.bind_some, Place.behind_append, h.behind_eq]
  rfl

end StaysWithin

section Literal

variable [Spare] {opening spelled cs rest : List Char} {c : Char} {s : String}

theorem readTrail_staysWithin {lead : Nat} (h : readTrail lead cs = .ok (c, rest)) :
    ∃ taken, cs = taken ++ rest ∧ StaysWithin taken := by
  unfold readTrail at h
  split at h
  · rename_i a b d e y tail
    split at h
    · cases h
    · rename_i unit hunit
      split at h
      · obtain ⟨-, rfl⟩ := Prod.mk.inj (Except.ok.inj h)
        exact ⟨['\\', 'u', a, b, d, e], rfl, .unit hunit⟩
      · obtain ⟨-, rfl⟩ := Prod.mk.inj (Except.ok.inj h)
        exact ⟨[], rfl, .nil⟩
  · obtain ⟨-, rfl⟩ := Prod.mk.inj (Except.ok.inj h)
    exact ⟨[], rfl, .nil⟩

/-- What spells a character of a literal stays within it. -/
theorem Spells.staysWithin (h : Spells cs c rest) :
    ∃ taken, taken ≠ [] ∧ cs = taken ++ rest ∧ StaysWithin taken := by
  cases h with
  | plain hq hb _ => exact ⟨[c], by simp, rfl, .char hq hb⟩
  | @short e => exact ⟨['\\', e], by simp, rfl, .escape e⟩
  | unicode hu =>
    obtain ⟨a, b, d, e, x, tail, unit, rfl, hunit⟩ := readUnicodeEscape_eq_ok hu
    rw [readUnicodeEscape_cons hunit] at hu
    have hbehind : ∃ taken, x :: tail = taken ++ rest ∧ StaysWithin taken := by
      split at hu
      · exact readTrail_staysWithin hu
      · obtain ⟨-, rfl⟩ := Prod.mk.inj (Except.ok.inj hu)
        exact ⟨[], rfl, .nil⟩
    obtain ⟨taken, htail, hstays⟩ := hbehind
    exact ⟨['\\', 'u', a, b, d, e] ++ taken, by simp, by simp [htail],
      (StaysWithin.unit hunit).append hstays⟩

/-- **A literal that is read** is left by its last quote. -/
theorem readString_staysWithin (h : readString opening spelled cs = .ok (s, rest)) :
    ∃ body, cs = body ++ '"' :: rest ∧ StaysWithin body := by
  induction hlen : cs.length using Nat.strongRecOn generalizing cs spelled with | ind n ih
  rcases readString_cases h with ⟨rfl, -⟩ | ⟨c, behind, hspells, hmore⟩
  · exact ⟨[], rfl, .nil⟩
  · obtain ⟨taken, hne, rfl, hstays⟩ := hspells.staysWithin
    have hpos := List.length_pos_iff.2 hne
    rw [List.length_append] at hlen
    obtain ⟨body, rfl, hbody⟩ := ih behind.length (by omega) hmore rfl
    exact ⟨taken ++ body, by simp, hstays.append hbody⟩

end Literal

/-! ## Words, numbers and blanks

The readers of the parts of a number say what they leave, not what they take.  `QuietTo cs rest`
fits that: what stands before `rest` in `cs` is quiet.  It goes together along the parts
(`QuietTo.trans`), so a number is done part by part. -/

/-- Between the two texts there are only characters that the scan does not look at. -/
def QuietTo (cs rest : List Char) : Prop :=
  ∃ taken, cs = taken ++ rest ∧ ∀ c ∈ taken, isQuiet c = true

namespace QuietTo

variable {cs ds rest : List Char} {c : Char}

theorem refl (cs : List Char) : QuietTo cs cs := ⟨[], rfl, nofun⟩

theorem trans (h : QuietTo cs ds) (h' : QuietTo ds rest) : QuietTo cs rest := by
  obtain ⟨taken, rfl, hquiet⟩ := h
  obtain ⟨taken', rfl, hquiet'⟩ := h'
  refine ⟨taken ++ taken', (List.append_assoc _ _ _).symm, fun c hc => ?_⟩
  exact (List.mem_append.1 hc).elim (hquiet c) (hquiet' c)

theorem cons (hc : isQuiet c = true) (h : QuietTo cs rest) : QuietTo (c :: cs) rest :=
  trans ⟨[c], rfl, by simpa using hc⟩ h

theorem dropWhile {p : Char → Bool} (hp : ∀ c, p c = true → isQuiet c = true) (cs : List Char) :
    QuietTo cs (cs.dropWhile p) :=
  ⟨cs.takeWhile p, List.takeWhile_append_dropWhile.symm, fun c hc =>
    hp c (List.mem_takeWhile_imp hc)⟩

theorem opens (h : QuietTo cs rest) : ∃ taken, cs = taken ++ rest ∧ Opens taken [] := by
  obtain ⟨taken, rfl, hquiet⟩ := h
  exact ⟨taken, rfl, opens_of_isQuiet hquiet⟩

end QuietTo

/-- A property that none of the characters has which the scan looks at. -/
theorem isQuiet_of_forall {p : Char → Bool}
    (hnone : ∀ c ∈ ['"', '[', ']', '\x7b', '\x7d'], p c = false) {c : Char} (h : p c = true) :
    isQuiet c = true := by
  rw [isQuiet, Bool.not_eq_true']
  refine Bool.eq_false_iff.2 fun hc => ?_
  cases (hnone c (List.contains_iff_mem.1 hc)).symm.trans h

theorem isQuiet_of_isDigit {c : Char} (h : c.isDigit = true) : isQuiet c = true :=
  isQuiet_of_forall (p := Char.isDigit) (by simp) h

theorem isQuiet_of_isSpace {c : Char} (h : isSpace c = true) : isQuiet c = true :=
  isQuiet_of_forall (p := isSpace) (by simp [isSpace]) h

theorem quietTo_skipSpace (cs : List Char) : QuietTo cs (skipSpace cs) :=
  .dropWhile (fun _ => isQuiet_of_isSpace) cs

/-- A character with blanks around it. -/
theorem quietTo_separator {cs more : List Char} {c : Char} (hc : isQuiet c = true)
    (h : skipSpace cs = c :: more) : QuietTo cs (skipSpace more) :=
  (quietTo_skipSpace cs).trans (h ▸ (quietTo_skipSpace more).cons hc)

theorem quietTo_digits (cs : List Char) : QuietTo cs (cs.dropWhile Char.isDigit) :=
  .dropWhile (fun _ => isQuiet_of_isDigit) cs

theorem quietTo_readWhole {cs whole rest : List Char} (h : readWhole cs = some (whole, rest)) :
    QuietTo cs rest := by
  match cs with
  | [] => cases h
  | c :: cs =>
    by_cases hc : c = '0'
    · subst hc
      obtain ⟨-, rfl⟩ := Prod.mk.inj (Option.some.inj h)
      exact (QuietTo.refl cs).cons (by decide)
    · simp only [readWhole] at h
      split at h
      · rename_i hdigit
        obtain ⟨-, rfl⟩ := Prod.mk.inj (Option.some.inj h)
        exact (quietTo_digits cs).cons (isQuiet_of_isDigit hdigit)
      · cases h

theorem quietTo_readFraction (cs : List Char) : QuietTo cs (readFraction cs).2 := by
  unfold readFraction
  split
  · rename_i d rest
    split
    · rename_i hdigit
      exact ((quietTo_digits rest).cons (isQuiet_of_isDigit hdigit)).cons (by decide)
    · exact .refl _
  · exact .refl _

theorem quietTo_readSign (cs : List Char) : QuietTo cs (Numeral.readSign cs).2 := by
  unfold Numeral.readSign
  split
  · exact (QuietTo.refl _).cons (by decide)
  · exact (QuietTo.refl _).cons (by decide)
  · exact .refl _

theorem quietTo_readExponent (cs : List Char) : QuietTo cs (readExponent cs).2 := by
  match cs with
  | [] => exact .refl _
  | c :: cs =>
    simp only [readExponent]
    split
    · rename_i he
      have hc : isQuiet c = true := by rcases he with rfl | rfl <;> decide
      split
      · exact .refl _
      · exact ((quietTo_readSign cs).trans (quietTo_digits _)).cons hc
    · exact .refl _

theorem quietTo_readMinus (cs : List Char) : QuietTo cs (readMinus cs).2 := by
  unfold readMinus
  split
  · exact (QuietTo.refl _).cons (by decide)
  · exact .refl _

theorem quietTo_readNumber {cs rest : List Char} {v : Value} (h : readNumber cs = .ok (v, rest)) :
    QuietTo cs rest := by
  rw [readNumber_eq, readMagnitude] at h
  cases hw : readWhole (readMinus cs).2 with
  | none => simp [hw] at h
  | some p =>
    obtain ⟨whole, behind⟩ := p
    have hrest : (readExponent (readFraction behind).2).2 = rest := by
      simp only [hw] at h
      split at h
      · split at h
        · cases h
        · exact (Prod.mk.inj (Except.ok.inj h)).2
      · exact (Prod.mk.inj (Except.ok.inj h)).2
    subst hrest
    exact (quietTo_readMinus cs).trans ((quietTo_readWhole hw).trans
      ((quietTo_readFraction behind).trans (quietTo_readExponent _)))

theorem quietTo_readPlain {cs rest : List Char} {v : Value} (h : readPlain cs = .ok (v, rest)) :
    QuietTo cs rest := by
  rw [readPlain_eq] at h
  cases hw : readWord? cs with
  | some p =>
    obtain ⟨word, hmem, hp⟩ := List.exists_of_findSome?_eq_some hw
    obtain ⟨behind, ha, rfl⟩ := Option.map_eq_some_iff.1 hp
    have hquiet : (wordValues.all fun w => w.1.all isQuiet) = true := by decide +kernel
    rw [hw, Option.elim_some] at h
    obtain ⟨-, rfl⟩ := Prod.mk.inj (Except.ok.inj h)
    exact ⟨word.1, eq_append_of_after? ha,
      List.all_eq_true.1 (List.all_eq_true.1 hquiet word hmem)⟩
  | none =>
    rw [hw, Option.elim_none] at h
    exact quietTo_readNumber h

/-! ## Values

A sequence is closed up to its closing character, which belongs to the container around it.  So the
statements about sequences and the inside of containers leave that character out, and the one about
values puts it back together with the opening one (`Opens.enclose`). -/

/-- What the reader takes is closed. -/
def Closes {α : Type} (read : Reader α) : Prop :=
  ∀ ⦃cs rest a⦄, read cs = .ok (a, rest) → ∃ taken, cs = taken ++ rest ∧ Opens taken []

section Sequence

variable {α : Type} {item : Reader α} {close : Char} {missing : Cause}

/-- **A sequence is closed** up to its closing character. -/
theorem closes_readAll (hitem : Takes item) (hnil : item [] = .error (.fault missing 0))
    (hcloses : Closes item) {cs rest : List Char} {as : List α}
    (h : readAll item close missing cs = .ok (as, rest)) :
    ∃ body, cs = body ++ close :: rest ∧ Opens body [] := by
  induction hlen : cs.length using Nat.strongRecOn generalizing cs as with | ind n ih
  obtain ⟨a, behind, hi, hmore⟩ := readAll_cases hitem hnil h
  have hlt := hitem.length_lt hi
  obtain ⟨taken, rfl, htaken⟩ := hcloses hi
  rcases hmore with ⟨hr, -⟩ | ⟨more, as', hr, -, hm, -⟩
  · obtain ⟨blanks, hblanks, hopens⟩ := (quietTo_skipSpace behind).opens
    exact ⟨taken ++ blanks, by rw [List.append_assoc, ← hr, ← hblanks], htaken.behind hopens⟩
  · have hle := length_skipSpace_le more
    have hbehind := length_skipSpace_le behind
    rw [hr, List.length_cons] at hbehind
    obtain ⟨body, hbody, hclosed⟩ := ih _ (by omega) hm rfl
    obtain ⟨between, hbetween, hopens⟩ := (quietTo_separator (by decide) hr).opens
    refine ⟨taken ++ (between ++ body), ?_, htaken.behind (hopens.behind hclosed)⟩
    rw [List.append_assoc, List.append_assoc, ← hbody, ← hbetween]

end Sequence

section Value

variable {value : Reader Value} {cs rest : List Char}

theorem closes_readArray (hvalue : Takes value) (hnil : value [] = .error (.fault .valueExpected 0))
    (hcloses : Closes value) {v : Value} (h : readArray value cs = .ok (v, rest)) :
    ∃ body, cs = body ++ ']' :: rest ∧ Opens body [] := by
  obtain ⟨blanks, hblanks, hopens⟩ := (quietTo_skipSpace cs).opens
  by_cases hempty : ∃ rest, skipSpace cs = ']' :: rest
  · obtain ⟨rest', hr⟩ := hempty
    simp only [readArray, hr] at h
    obtain ⟨-, rfl⟩ := Prod.mk.inj (Except.ok.inj h)
    exact ⟨blanks, by rw [← hr, ← hblanks], hopens⟩
  · rw [readArray_eq hvalue hnil fun rest hr => hempty ⟨rest, hr⟩] at h
    obtain ⟨items, ha, -⟩ := exists_of_map_eq_ok h
    obtain ⟨body, hbody, hclosed⟩ := closes_readAll hvalue hnil hcloses ha
    exact ⟨blanks ++ body, by rw [List.append_assoc, ← hbody, ← hblanks], hopens.behind hclosed⟩

variable [Spare]

theorem closes_readField (hcloses : Closes value) : Closes (readField value) := by
  intro cs rest f h
  obtain ⟨text, more, behind, rfl, hs, hr, hv⟩ := readField_cases h
  obtain ⟨body, rfl, hbody⟩ := readString_staysWithin hs
  obtain ⟨between, hbetween, hopens⟩ := (quietTo_separator (by decide) hr).opens
  obtain ⟨taken, htaken, hclosed⟩ := hcloses hv
  refine ⟨'"' :: (body ++ ['"']) ++ (between ++ taken), ?_,
    hbody.opens.behind (hopens.behind hclosed)⟩
  rw [hbetween, htaken]
  simp

theorem closes_readWritten (hvalue : Takes value) (hcloses : Closes value) {written : Fields}
    (h : readWritten value cs = .ok (written, rest)) :
    ∃ body, cs = body ++ '\x7d' :: rest ∧ Opens body [] := by
  obtain ⟨blanks, hblanks, hopens⟩ := (quietTo_skipSpace cs).opens
  by_cases hempty : ∃ rest, skipSpace cs = '\x7d' :: rest
  · obtain ⟨rest', hr⟩ := hempty
    simp only [readWritten, hr] at h
    obtain ⟨-, rfl⟩ := Prod.mk.inj (Except.ok.inj h)
    exact ⟨blanks, by rw [← hr, ← hblanks], hopens⟩
  · have hfield := takes_readField hvalue
    rw [readWritten_eq hfield fun rest hr => hempty ⟨rest, hr⟩] at h
    obtain ⟨body, hbody, hclosed⟩ :=
      closes_readAll hfield (readField_nil value) (closes_readField hcloses) h
    exact ⟨blanks ++ body, by rw [List.append_assoc, ← hbody, ← hblanks], hopens.behind hclosed⟩

/-- **A value closes what it opens.** -/
theorem closes_readValue (depth : Nat) : Closes (readValue depth) := by
  induction depth using Nat.strongRecOn with | ind depth ih
  intro cs rest v h
  obtain ⟨text, s, rfl, hs, -⟩ | ⟨inner, text, written, rfl, rfl, hw, -⟩ |
    ⟨inner, text, rfl, rfl, ha⟩ | ⟨c, text, rfl, -, -, -, hplain⟩ := readValue_cases h
  · obtain ⟨body, rfl, hbody⟩ := readString_staysWithin hs
    exact ⟨'"' :: (body ++ ['"']), by simp, hbody.opens⟩
  · obtain ⟨body, rfl, hbody⟩ :=
      closes_readWritten (takes_readValue inner) (ih inner (Nat.lt_succ_self inner)) hw
    exact ⟨'\x7b' :: (body ++ ['\x7d']), by simp, hbody.enclose .object⟩
  · obtain ⟨body, rfl, hbody⟩ := closes_readArray (takes_readValue inner) (readValue_nil inner)
      (ih inner (Nat.lt_succ_self inner)) ha
    exact ⟨'[' :: (body ++ [']']), by simp, hbody.enclose .array⟩
  · exact (quietTo_readPlain hplain).opens

end Value

end CodeReview.Json
