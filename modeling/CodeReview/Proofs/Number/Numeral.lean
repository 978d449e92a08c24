import CodeReview.Number.Numeral
import CodeReview.Proofs.Json.Spelling
import CodeReview.Proofs.Reply.Span

/-!
# Reading the numeral of an integer as a real

A percentage may arrive as a number or as the text of one, and the text is read as a real.  For an
integer the two should agree, and this file has the half of it that is about texts: the numeral
that an integer is written with, read as a real, is that integer, rounded (`readDouble?_toString`).

The statement is about more than the numeral alone, because of what may stand behind it.  White
space does no harm.  A percent sign hides the number, as it is not part of the grammar; the caller
takes the percent signs at the end off first, so this is about one that a blank and further percent
signs stand behind.  And an information separator (U+001C … U+001F) hides it too: it is a blank for
trimming but no padding for the reader, which is why `plainBlank` and `isWhiteSpace` are told
apart.

The reader takes a text through several forms, and there is a lemma for each of them: the
characters as the grammar sees them (`plain?_toString`), the ends trimmed (`trimBy_toString`), the
sign, the digits and what follows (`readSigned?_toString`).
-/

set_option autoImplicit false

namespace CodeReview.Numeral

open CodeReview.Text

variable {cs tail : List Char}

/-! ## Characters as the grammar sees them

A text of ASCII characters is left alone, any other is mapped character by character.  Both come to
the same for the characters that occur here, so `plain?_eq_some` says it without the test. -/

/-- An ASCII character stays as it is, and any other blank is a space. -/
def plainBlank (c : Char) : Char := if c.toNat < 127 then c else ' '

theorem plainBlank_of_lt {c : Char} (h : c.toNat < 127) : plainBlank c = c := if_pos h

theorem plainChar?_eq_some {c : Char} (h : c.toNat < 127 ∨ isBlank c = true) :
    plainChar? c = some (plainBlank c) := by
  rw [plainChar?, plainBlank]
  split
  · rfl
  · rename_i hlarge
    rw [if_pos (h.resolve_left hlarge)]

theorem map_plainBlank_of_lt (h : ∀ c ∈ cs, c.toNat < 127) : cs.map plainBlank = cs :=
  (List.map_congr_left fun c hc => plainBlank_of_lt (h c hc)).trans (List.map_id cs)

theorem mapM_plainChar? (h : ∀ c ∈ cs, c.toNat < 127 ∨ isBlank c = true) :
    cs.mapM plainChar? = some (cs.map plainBlank) := by
  induction cs with
  | nil => rfl
  | cons c cs ih =>
    rw [List.forall_mem_cons] at h
    simp [List.mapM_cons, plainChar?_eq_some h.1, ih h.2]

theorem toNat_ne_of_isBlank {c : Char} (h : isBlank c = true) : c.toNat ≠ 127 := by
  intro hc
  simp [isBlank, isWhiteSpace, hc] at h

theorem plain?_eq_some (h : ∀ c ∈ cs, c.toNat < 127 ∨ isBlank c = true) :
    plain? cs = some (cs.map plainBlank) := by
  rw [plain?]
  split
  · rename_i hascii
    rw [map_plainBlank_of_lt]
    intro c hc
    have hlt : c.toNat < 128 := by simpa using List.all_eq_true.1 hascii c hc
    rcases h c hc with hsmall | hblank
    · exact hsmall
    · have hne := toNat_ne_of_isBlank hblank
      omega
  · exact mapM_plainChar? h

/-- Of the blanks and the percent sign, white space is what is dropped at the ends. -/
theorem isPadding_plainBlank {c : Char} (h : isBlank c = true ∨ c = '%') :
    isPadding (plainBlank c) = isWhiteSpace c := by
  rcases h with hblank | rfl
  · by_cases hc : c.toNat < 127
    · have hspace : (c == ' ') = decide (c.toNat = 32) := by
        rw [Bool.eq_iff_iff, beq_iff_eq, decide_eq_true_iff, ← Char.toNat_inj]
        rfl
      rw [plainBlank_of_lt hc, Bool.eq_iff_iff]
      simp only [isPadding, hspace, isWhiteSpace, Bool.or_eq_true, Bool.and_eq_true, beq_iff_eq,
        decide_eq_true_eq]
      omega
    · have hspace : isPadding ' ' = true := rfl
      rw [plainBlank, if_neg hc, hspace]
      simp only [isBlank, Bool.or_eq_true, Bool.and_eq_true, decide_eq_true_eq] at hblank
      exact (hblank.resolve_right (by omega)).symm
  · rfl

/-! ## The parts of a real

A digit sequence ends where no real could go on: before a character that is no digit, no point, no
exponent and no underscore.  `Inert` names these; blanks and percent signs are of them. -/

/-- No real goes on with the character, and it is no underscore. -/
def Inert (c : Char) : Prop := c.isDigit = false ∧ c ≠ '.' ∧ c ≠ 'e' ∧ c ≠ 'E' ∧ c ≠ '_'

instance (c : Char) : Decidable (Inert c) := inferInstanceAs (Decidable (_ ∧ _))

theorem dropUnderscores?_of_not_mem (h : '_' ∉ cs) : dropUnderscores? cs = some cs := by
  have hgo : ∀ before, dropUnderscores?.go before cs = some cs := by
    induction cs with
    | nil => exact fun _ => rfl
    | cons c cs ih =>
      intro before
      rw [List.mem_cons, not_or] at h
      rw [dropUnderscores?.go, ih h.2]
      · rfl
      · rintro _ _ rfl
        exact absurd rfl h.1
      · rintro rfl
        exact absurd rfl h.1
  exact hgo none

theorem readSign_of_isDigit {d : Char} (hd : d.isDigit = true) (cs : List Char) :
    readSign (d :: cs) = (false, d :: cs) := by
  unfold readSign
  split
  case h_3 => rfl
  all_goals
    rename_i heq
    obtain ⟨rfl, -⟩ := List.cons.inj heq
    cases hd

theorem isDigit_of_mem_toDigits {n : Nat} {d : Char} (h : d ∈ Nat.toDigits 10 n) :
    d.isDigit = true := Nat.isDigit_of_mem_toDigits (by decide) (by decide) h

theorem readUnsigned?_toDigits (negative : Bool) (n : Nat) (h : ∀ c ∈ tail, Inert c) :
    readUnsigned? negative (Nat.toDigits 10 n ++ tail)
      = if tail = [] then some (Double.ofDecimal negative n 0) else none := by
  have hdigits : ∀ d ∈ Nat.toDigits 10 n, d.isDigit = true := fun d => isDigit_of_mem_toDigits
  have hne : (Nat.toDigits 10 n).isEmpty = false := List.isEmpty_eq_false_iff.2 Nat.toDigits_ne_nil
  cases tail with
  | nil =>
    have htake : (Nat.toDigits 10 n).takeWhile Char.isDigit = Nat.toDigits 10 n :=
      List.takeWhile_eq_self_iff.2 hdigits
    have hdrop : (Nat.toDigits 10 n).dropWhile Char.isDigit = [] :=
      List.dropWhile_eq_nil_iff.2 hdigits
    simp [readUnsigned?, htake, hdrop, hne, readExponent?, Json.digitsValue_toDigits]
  | cons c tail =>
    obtain ⟨hdigit, hpoint, he, hE, -⟩ := h c List.mem_cons_self
    simp [readUnsigned?, List.takeWhile_append_of_pos hdigits, List.dropWhile_append_of_pos hdigits,
      hdigit, hpoint, hne, readExponent?, he, hE]

/-- A word that is the same as a text that starts with a digit starts with it too. -/
theorem head?_of_sameWord {word : String} {d : Char} (hd : d.isDigit = true)
    (h : sameWord word (d :: cs) = true) : word.toList.head? = some d := by
  have hlower : d.toLower = d := by
    simp only [Char.isDigit, Bool.and_eq_true, decide_eq_true_eq] at hd
    exact dif_neg fun hupper => absurd (UInt32.le_trans hupper.1 hd.2) (by decide)
  rw [sameWord, beq_iff_eq] at h
  rw [← h, List.map_cons, List.head?_cons, hlower]

theorem sameWord_of_isDigit {word : String} {d : Char} (hd : d.isDigit = true)
    (hword : word.toList.head?.any Char.isDigit = false) : sameWord word (d :: cs) = false := by
  rw [← Bool.not_eq_true]
  intro h
  rw [head?_of_sameWord hd h, Option.any_some, hd] at hword
  cases hword

/-! ## The numeral of an integer

A numeral is its digits, behind a minus if the number is negative.  Nothing else is in it, so no
test that the reader makes on the way finds anything to take off or to refuse. -/

theorem toList_toString (n : Int) : (toString n).toList
    = if n < 0 then '-' :: Nat.toDigits 10 n.natAbs else Nat.toDigits 10 n.natAbs := by
  rw [Int.toString_eq_repr, Int.repr_eq_if]
  by_cases hn : n < 0
  · have habs : (-n).toNat = n.natAbs := by omega
    rw [if_neg (Int.not_le.2 hn), if_pos hn, String.toList_append, Nat.toList_repr, habs]
    rfl
  · have habs : n.toNat = n.natAbs := by omega
    rw [if_pos (Int.not_lt.1 hn), if_neg hn, Nat.toList_repr, habs]

theorem mem_toString {n : Int} {c : Char} (h : c ∈ (toString n).toList) :
    c = '-' ∨ c.isDigit = true := by
  rw [toList_toString] at h
  split at h
  · exact (List.mem_cons.1 h).imp_right isDigit_of_mem_toDigits
  · exact .inr (isDigit_of_mem_toDigits h)

theorem toNat_of_mem_toString {n : Int} {c : Char} (h : c ∈ (toString n).toList) :
    45 ≤ c.toNat ∧ c.toNat ≤ 57 := by
  rcases mem_toString h with rfl | hdigit
  · decide
  · obtain ⟨hlow, hhigh⟩ := Char.isDigit_iff_toNat.1 hdigit
    exact ⟨Nat.le_trans (by decide) hlow, hhigh⟩

theorem isBlank_of_mem_toString {n : Int} {c : Char} (h : c ∈ (toString n).toList) :
    isBlank c = false := by
  have hrange := toNat_of_mem_toString h
  simp only [isBlank, isWhiteSpace, Bool.or_eq_false_iff, Bool.and_eq_false_iff,
    beq_eq_false_iff_ne, decide_eq_false_iff_not]
  omega

theorem isPadding_of_mem_toString {n : Int} {c : Char} (h : c ∈ (toString n).toList) :
    isPadding c = false := by
  have hspace : c ≠ ' ' := by
    rintro rfl
    exact absurd (toNat_of_mem_toString h) (by decide)
  have hrange := toNat_of_mem_toString h
  simp only [isPadding, Bool.or_eq_false_iff, beq_eq_false_iff_ne, Bool.and_eq_false_iff,
    decide_eq_false_iff_not]
  exact ⟨hspace, .inr (by omega)⟩

/-- A numeral ends in a digit. -/
theorem getLast?_toString (n : Int) :
    ∃ d, (toString n).toList.getLast? = some d ∧ d.isDigit = true := by
  have hne : Nat.toDigits 10 n.natAbs ≠ [] := Nat.toDigits_ne_nil
  refine ⟨(Nat.toDigits 10 n.natAbs).getLast hne, ?_,
    isDigit_of_mem_toDigits (List.getLast_mem hne)⟩
  rw [toList_toString]
  split
  · rw [List.getLast?_cons_of_ne_nil hne, List.getLast?_eq_getLast_of_ne_nil hne]
  · exact List.getLast?_eq_getLast_of_ne_nil hne

theorem readSigned?_toString (n : Int) (h : ∀ c ∈ tail, Inert c) :
    readSigned? ((toString n).toList ++ tail)
      = if tail = [] then some (Double.ofDecimal (decide (n < 0)) n.natAbs 0) else none := by
  obtain ⟨d, ds, hds, hd⟩ := Json.exists_toDigits_eq_cons n.natAbs
  have hsign : readSign ((toString n).toList ++ tail)
      = (decide (n < 0), Nat.toDigits 10 n.natAbs ++ tail) := by
    rw [toList_toString]
    split
    · rename_i hn
      rw [decide_eq_true hn]
      rfl
    · rename_i hn
      rw [decide_eq_false hn, hds]
      exact readSign_of_isDigit hd _
  have hword : ∀ word ∈ ["inf", "infinity", "nan"],
      sameWord word (Nat.toDigits 10 n.natAbs ++ tail) = false := by
    have hletters : ∀ word ∈ ["inf", "infinity", "nan"],
        word.toList.head?.any Char.isDigit = false := by decide
    intro word hmem
    rw [hds]
    exact sameWord_of_isDigit hd (hletters word hmem)
  rw [readSigned?, hsign]
  simp only [hword _ List.mem_cons_self, hword "infinity" (by decide), hword "nan" (by decide),
    Bool.or_self, if_neg Bool.false_ne_true]
  exact readUnsigned?_toDigits _ _ h

/-! ## What stands behind it

The tail is of blanks and percent signs.  What is dropped at its end is what counts as padding, and
the number is read exactly if nothing is left of it then. -/

/-- Nothing is trimmed inside a numeral. -/
theorem trimBy_toString {p : Char → Bool} {n : Int} (hp : ∀ c ∈ (toString n).toList, p c = false)
    (tail : List Char) :
    trimBy p ((toString n).toList ++ tail) = (toString n).toList ++ dropEndWhile p tail := by
  obtain ⟨d, hlast, -⟩ := getLast?_toString n
  have hstart : ((toString n).toList ++ tail).dropWhile p = (toString n).toList ++ tail := by
    cases hcs : (toString n).toList with
    | nil =>
      rw [hcs] at hlast
      cases hlast
    | cons c cs =>
      have hc : p c = false := hp c (hcs ▸ List.mem_cons_self)
      rw [List.cons_append, List.dropWhile_cons_of_neg (by simp [hc])]
  rw [trimBy, hstart, Reply.Span.dropEndWhile_append hlast (hp d (List.mem_of_getLast? hlast))]

theorem inert_plainBlank {c : Char} (h : isBlank c = true ∨ c = '%') : Inert (plainBlank c) := by
  rcases h with hblank | rfl
  · by_cases hc : c.toNat < 127
    · rw [plainBlank_of_lt hc]
      refine ⟨?_, ?_, ?_, ?_, ?_⟩
      · rw [← Bool.not_eq_true]
        intro hdigit
        have hlow : 48 ≤ c.toNat := (Char.isDigit_iff_toNat.1 hdigit).1
        simp only [isBlank, isWhiteSpace, Bool.or_eq_true, Bool.and_eq_true, beq_iff_eq,
          decide_eq_true_eq] at hblank
        omega
      all_goals
        rintro rfl
        exact absurd hblank (by decide)
    · rw [plainBlank, if_neg hc]
      decide
  · decide

theorem plain?_toString (n : Int) (h : ∀ c ∈ tail, isBlank c = true ∨ c = '%') :
    plain? ((toString n).toList ++ tail) = some ((toString n).toList ++ tail.map plainBlank) := by
  have hnumeral : ∀ c ∈ (toString n).toList, c.toNat < 127 := by
    intro c hc
    have hrange := toNat_of_mem_toString hc
    omega
  rw [plain?_eq_some, List.map_append, map_plainBlank_of_lt hnumeral]
  intro c hc
  rcases List.mem_append.1 hc with hc | hc
  · exact .inl (hnumeral c hc)
  · rcases h c hc with hblank | rfl
    · exact .inr hblank
    · exact .inl (by decide)

/-- **An integer is read as a real** from its numeral with nothing but white space behind it. -/
theorem readDouble?_toString (n : Int) (h : ∀ c ∈ tail, isBlank c = true ∨ c = '%') :
    readDouble? (String.ofList ((toString n).toList ++ tail))
      = if tail.all isWhiteSpace then some (Double.ofDecimal (decide (n < 0)) n.natAbs 0)
        else none := by
  have hinert : ∀ c ∈ dropEndWhile isPadding (tail.map plainBlank), Inert c := by
    intro c hc
    obtain ⟨b, hb, rfl⟩ := List.mem_map.1 ((Reply.Span.dropEndWhile_isPrefix _ _).subset hc)
    exact inert_plainBlank (h b hb)
  have hunderscore :
      '_' ∉ (toString n).toList ++ dropEndWhile isPadding (tail.map plainBlank) := by
    rw [List.mem_append, not_or]
    exact ⟨fun hmem => absurd (mem_toString hmem) (by decide),
      fun hmem => (hinert '_' hmem).2.2.2.2 rfl⟩
  have hnil : dropEndWhile isPadding (tail.map plainBlank) = [] ↔ tail.all isWhiteSpace = true := by
    rw [Reply.Span.dropEndWhile_eq_nil_iff, List.forall_mem_map, List.all_eq_true]
    exact forall₂_congr fun c hc => by rw [isPadding_plainBlank (h c hc)]
  simp only [readDouble?, String.toList_ofList, plain?_toString n h, Option.bind_eq_bind,
    Option.bind_some, trimBy_toString fun c hc => isPadding_of_mem_toString hc,
    dropUnderscores?_of_not_mem hunderscore, readSigned?_toString n hinert]
  exact if_congr hnil rfl rfl

end CodeReview.Numeral
