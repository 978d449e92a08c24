import CodeReview.Proofs.Json.Closing

/-!
# String literals that are cut off

A string literal takes whatever stands between its quotes, brackets and braces included.  This is
where a cut behind a brace can go wrong, as the brace may be a character of a text.  What saves the
reader is that closing characters have no quote among them: if a text is cut inside a literal, no
closing characters end the literal, so reading fails there.  If it is cut behind one, the literal
is read as before.  `readString_cut` says this, in the form that `ReadsCut` asks for.

The proof goes along the characters of the literal, and an escape has several.  What could go wrong
there is a cut in the midst of one, which would then be completed by what follows to another
escape. It does not, since no escape has a brace in it: hexadecimal digits are none, and neither is
any letter that may follow a backslash.

The exception that takes most of the work is a pair of surrogates.  The reader looks ahead from the
first escape to the second, so what it makes of the first depends on text that may be behind the
cut.  `readTrail` is that look ahead as a function of its own, and `readTrail_cut` says that it is
not cut in two where the literal goes on.
## What is here

* `readString_quote`, `readString_char` and their like — how a literal goes on;
* `readTrail`, `readTrail_cut`, `readUnicodeEscape_cut` — escapes by code units;
* `Spells`, `readString_cases` — the characters of a literal;
* `Spells.cut`, `readString_cut` — a character and a literal, where the text is cut behind a brace.
-/

set_option autoImplicit false

namespace CodeReview.Json

open CodeReview.Text

variable [Spare] {opening spelled cs more p q rest : List Char} {c e : Char} {s : String}

/-! ## One character

The equations of `readString`, one for each way a literal can go on. -/

theorem readString_nil :
    readString opening spelled [] = .error (.fault .stringNotClosed opening.length) := by
  rw [readString]

theorem readString_quote :
    readString opening spelled ('"' :: rest) = .ok (String.ofList spelled.reverse, rest) := by
  rw [readString]

theorem readString_unicode_error {stop : Stop} (h : readUnicodeEscape ('u' :: more) = .error stop) :
    readString opening spelled ('\\' :: 'u' :: more) = .error stop := by
  rw [readString, if_pos rfl]
  split
  · rename_i heq
    rw [h] at heq
    cases heq
    rfl
  · rename_i heq
    rw [h] at heq
    cases heq

theorem readString_unicode (h : readUnicodeEscape ('u' :: more) = .ok (c, rest)) :
    readString opening spelled ('\\' :: 'u' :: more) = readString opening (c :: spelled) rest := by
  rw [readString, if_pos rfl]
  split
  · rename_i heq
    rw [h] at heq
    cases heq
  · rename_i heq
    rw [h] at heq
    cases heq
    rfl

theorem readString_short (he : e ≠ 'u') :
    readString opening spelled ('\\' :: e :: more) =
      match shortEscape? e with
      | some c => readString opening (c :: spelled) more
      | none => .error (.fault .unknownEscape (more.length + 2)) := by
  rw [readString, if_neg he]
  rfl

theorem readString_char (hq : c ≠ '"') (hb : c ≠ '\\') :
    readString opening spelled (c :: rest) =
      if c.toNat < 32 then .error (.fault .controlCharacter (rest.length + 1))
      else readString opening (c :: spelled) rest := by
  rw [readString]
  · rfl
  · exact hq
  · exact hb

/-! ## Escapes by code units

Behind the escape of a lead surrogate stands another escape, which was taken along or not, or
something else.  In the last case a brace in front of the cut is seen by both readings alike. -/

/-- What a lead surrogate becomes together with the text behind its escape. -/
def readTrail (lead : Nat) (cs : List Char) : Except Stop (Char × List Char) :=
  match cs with
  | '\\' :: 'u' :: a :: b :: c :: d :: y :: rest =>
    match codeUnit? a b c d with
    | none => .error (.fault .badUnicodeEscape cs.tail.length)
    | some unit =>
      if isTrailUnit unit then .ok (pairChar lead unit, y :: rest)
      else .ok (unitChar lead, cs)
  | _ => .ok (unitChar lead, cs)

theorem readUnicodeEscape_cons {u a b d x : Char} {unit : Nat} (h : codeUnit? a b c d = some unit) :
    readUnicodeEscape (u :: a :: b :: c :: d :: x :: rest) =
      if isLeadUnit unit then readTrail unit (x :: rest)
      else .ok (unitChar unit, x :: rest) := by
  simp only [readUnicodeEscape, h]
  rfl

theorem readUnicodeEscape_eq_ok {u : Char} (h : readUnicodeEscape (u :: cs) = .ok (c, rest)) :
    ∃ a b d e x tail unit,
      cs = a :: b :: d :: e :: x :: tail ∧ codeUnit? a b d e = some unit := by
  match cs, h with
  | a :: b :: d :: e :: x :: tail, h =>
    cases hu : codeUnit? a b d e with
    | none => simp [readUnicodeEscape, hu] at h
    | some unit => exact ⟨a, b, d, e, x, tail, unit, rfl, hu⟩

omit [Spare] in
theorem ne_brace_of_hexValue? {n : Nat} (h : hexValue? c = some n) : c ≠ '\x7d' := by
  rintro rfl
  have hnone : hexValue? '\x7d' = none := by decide
  rw [hnone] at h
  cases h

omit [Spare] in
/-- The digits of a code unit are no braces, so a text that ends in a brace goes on behind them. -/
theorem exists_append_of_codeUnit? {a b d : Char} {unit : Nat} (hp : EndsInBrace p)
    (heq : p ++ q = a :: b :: c :: d :: more) (hu : codeUnit? a b c d = some unit) :
    ∃ p', p = a :: b :: c :: d :: p' ∧ EndsInBrace p' ∧ p' ++ q = more := by
  simp only [codeUnit?, Option.bind_eq_bind, Option.bind_eq_some_iff] at hu
  obtain ⟨_, ha, _, hb, _, hc, _, hd, -⟩ := hu
  obtain ⟨p, rfl, hp, heq⟩ := hp.exists_cons heq (ne_brace_of_hexValue? ha)
  obtain ⟨p, rfl, hp, heq⟩ := hp.exists_cons heq (ne_brace_of_hexValue? hb)
  obtain ⟨p, rfl, hp, heq⟩ := hp.exists_cons heq (ne_brace_of_hexValue? hc)
  obtain ⟨p, rfl, hp, heq⟩ := hp.exists_cons heq (ne_brace_of_hexValue? hd)
  exact ⟨p, rfl, hp, heq⟩

theorem readTrail_of_ne (hp : EndsInBrace p) (h : ∀ p', p ≠ '\\' :: 'u' :: p') (lead : Nat)
    (z : List Char) : readTrail lead (p ++ z) = .ok (unitChar lead, p ++ z) := by
  match p, hp, h with
  | [], hp, _ => exact absurd rfl hp.ne_nil
  | [c], hp, _ =>
    obtain rfl : c = '\x7d' := by simpa [EndsInBrace] using hp
    simp [readTrail]
  | c :: e :: p, _, h =>
    by_cases hc : c = '\\'
    · subst hc
      have he : e ≠ 'u' := by
        rintro rfl
        exact h p rfl
      simp [readTrail, he]
    · simp [readTrail, hc]

theorem readTrail_cons {lead unit : Nat} {a b d y : Char} (h : codeUnit? a b c d = some unit) :
    readTrail lead ('\\' :: 'u' :: a :: b :: c :: d :: y :: more) =
      if isTrailUnit unit then .ok (pairChar lead unit, y :: more)
      else .ok (unitChar lead, '\\' :: 'u' :: a :: b :: c :: d :: y :: more) := by
  simp [readTrail, h]

/-- The escape behind that of a lead surrogate is sound: either it was taken along, or the literal
goes on with it. -/
theorem exists_codeUnit?_of_readTrail {lead : Nat}
    (h : readTrail lead ('\\' :: 'u' :: cs) = .ok (c, rest))
    (hnext : readString opening spelled rest = .ok (s, more)) :
    ∃ a b d e y tail unit,
      cs = a :: b :: d :: e :: y :: tail ∧ codeUnit? a b d e = some unit := by
  by_cases hlong : ∃ a b d e y tail, cs = a :: b :: d :: e :: y :: tail
  · obtain ⟨a, b, d, e, y, tail, rfl⟩ := hlong
    cases hunit : codeUnit? a b d e with
    | none => simp [readTrail, hunit] at h
    | some unit => exact ⟨a, b, d, e, y, tail, unit, rfl, hunit⟩
  · have hskip : readTrail lead ('\\' :: 'u' :: cs) = .ok (unitChar lead, '\\' :: 'u' :: cs) := by
      unfold readTrail
      split
      · rename_i a b d e y tail heq
        exact absurd ⟨a, b, d, e, y, tail, by simpa using heq⟩ hlong
      · rfl
    rw [hskip] at h
    obtain ⟨-, rfl⟩ := Prod.mk.inj (Except.ok.inj h)
    cases hesc : readUnicodeEscape ('u' :: cs) with
    | error stop =>
      rw [readString_unicode_error hesc] at hnext
      cases hnext
    | ok pair => exact readUnicodeEscape_eq_ok hesc

/-- **A surrogate pair is not cut in two** where the literal goes on behind it. -/
theorem readTrail_cut {lead : Nat} (hp : EndsInBrace p)
    (h : readTrail lead (p ++ q) = .ok (c, rest))
    (hnext : readString opening spelled rest = .ok (s, more)) :
    ∃ r, rest = r ++ q ∧ EndsInBrace r ∧ r.length ≤ p.length ∧
      ∀ z, readTrail lead (p ++ z) = .ok (c, r ++ z) := by
  by_cases hu : ∃ p', p = '\\' :: 'u' :: p'
  · obtain ⟨p', rfl⟩ := hu
    have hp' : EndsInBrace p' := (hp.tail (by decide)).tail (by decide)
    obtain ⟨a, b, d, e, y, tail, unit, hcs, hunit⟩ := exists_codeUnit?_of_readTrail h hnext
    obtain ⟨p'', rfl, hp'', htail⟩ := exists_append_of_codeUnit? hp' hcs hunit
    obtain ⟨y', p3, rfl⟩ := List.exists_cons_of_ne_nil hp''.ne_nil
    have hread (z : List Char) :
        readTrail lead ('\\' :: 'u' :: a :: b :: d :: e :: y' :: (p3 ++ z)) =
          if isTrailUnit unit then .ok (pairChar lead unit, y' :: (p3 ++ z))
          else .ok (unitChar lead, '\\' :: 'u' :: a :: b :: d :: e :: y' :: (p3 ++ z)) :=
      readTrail_cons hunit
    simp only [List.cons_append] at h ⊢
    rw [hread] at h
    split at h
    · rename_i htrail
      obtain ⟨rfl, rfl⟩ := Prod.mk.inj (Except.ok.inj h)
      exact ⟨y' :: p3, rfl, hp'', by simp, fun z => by rw [hread, if_pos htrail]; rfl⟩
    · rename_i htrail
      obtain ⟨rfl, rfl⟩ := Prod.mk.inj (Except.ok.inj h)
      exact ⟨_, rfl, hp, Nat.le_refl _, fun z => by rw [hread, if_neg htrail]; rfl⟩
  · have hne : ∀ p', p ≠ '\\' :: 'u' :: p' := fun p' he => hu ⟨p', he⟩
    rw [readTrail_of_ne hp hne] at h
    obtain ⟨rfl, rfl⟩ := Prod.mk.inj (Except.ok.inj h)
    exact ⟨p, rfl, hp, Nat.le_refl _, readTrail_of_ne hp hne lead⟩

theorem readUnicodeEscape_cut (hp : EndsInBrace p)
    (h : readUnicodeEscape ('u' :: (p ++ q)) = .ok (c, rest))
    (hnext : readString opening spelled rest = .ok (s, more)) :
    ∃ r, rest = r ++ q ∧ EndsInBrace r ∧ r.length < p.length ∧
      ∀ z, readUnicodeEscape ('u' :: (p ++ z)) = .ok (c, r ++ z) := by
  obtain ⟨a, b, d, e, x, tail, unit, hcs, hunit⟩ := readUnicodeEscape_eq_ok h
  obtain ⟨p', rfl, hp', htail⟩ := exists_append_of_codeUnit? hp hcs hunit
  obtain ⟨x', p'', rfl⟩ := List.exists_cons_of_ne_nil hp'.ne_nil
  have hread : ∀ z, readUnicodeEscape ('u' :: (a :: b :: d :: e :: x' :: p'' ++ z)) =
      if isLeadUnit unit then readTrail unit (x' :: p'' ++ z)
      else .ok (unitChar unit, x' :: p'' ++ z) := fun z => readUnicodeEscape_cons hunit
  rw [hread] at h
  split at h
  · rename_i hlead
    obtain ⟨r, hr, hend, hlen, hz⟩ := readTrail_cut hp' h hnext
    exact ⟨r, hr, hend, by simp at hlen ⊢; omega, fun z => by rw [hread, if_pos hlead, hz]⟩
  · rename_i hlead
    obtain ⟨rfl, rfl⟩ := Prod.mk.inj (Except.ok.inj h)
    exact ⟨x' :: p'', rfl, hp', by simp, fun z => by rw [hread, if_neg hlead]⟩

/-! ## Progress

What is left is always an end of what was there. -/

theorem readTrail_suffix {lead : Nat} (h : readTrail lead cs = .ok (c, rest)) : rest <:+ cs := by
  unfold readTrail at h
  split at h
  · rename_i a b d e y tail
    split at h
    · cases h
    · split at h
      · obtain ⟨-, rfl⟩ := Prod.mk.inj (Except.ok.inj h)
        exact ⟨['\\', 'u', a, b, d, e], rfl⟩
      · obtain ⟨-, rfl⟩ := Prod.mk.inj (Except.ok.inj h)
        exact List.suffix_rfl
  · obtain ⟨-, rfl⟩ := Prod.mk.inj (Except.ok.inj h)
    exact List.suffix_rfl

theorem readUnicodeEscape_suffix (h : readUnicodeEscape ('u' :: cs) = .ok (c, rest)) :
    rest <:+ cs := by
  obtain ⟨a, b, d, e, x, tail, unit, rfl, hunit⟩ := readUnicodeEscape_eq_ok h
  rw [readUnicodeEscape_cons hunit] at h
  have hbehind : rest <:+ x :: tail := by
    split at h
    · exact readTrail_suffix h
    · obtain ⟨-, rfl⟩ := Prod.mk.inj (Except.ok.inj h)
      exact List.suffix_rfl
  exact hbehind.trans ⟨[a, b, d, e], rfl⟩

/-! ## Characters of a literal

`Spells` takes the ways to spell a character together, so that a literal is its quote or a
character and a literal (`readString_cases`).  The induction for the whole literal has two cases
then, and not one for each kind of escape. -/

/-- The text spells a character of a literal, by itself or by an escape, before the text behind. -/
inductive Spells : List Char → Char → List Char → Prop where
  | plain {c : Char} {behind : List Char} (hq : c ≠ '"') (hb : c ≠ '\\') (hc : ¬ c.toNat < 32) :
      Spells (c :: behind) c behind
  | short {e c : Char} {behind : List Char} (he : e ≠ 'u') (h : shortEscape? e = some c) :
      Spells ('\\' :: e :: behind) c behind
  | unicode {c : Char} {more behind : List Char}
      (h : readUnicodeEscape ('u' :: more) = .ok (c, behind)) :
      Spells ('\\' :: 'u' :: more) c behind

theorem Spells.readString_eq (h : Spells cs c rest) :
    readString opening spelled cs = readString opening (c :: spelled) rest := by
  cases h with
  | plain hq hb hc => rw [readString_char hq hb, if_neg hc]
  | short he hs => rw [readString_short he, hs]
  | unicode hu => rw [readString_unicode hu]

theorem Spells.exists_append (h : Spells cs c rest) : ∃ taken, taken ≠ [] ∧ cs = taken ++ rest := by
  cases h with
  | plain => exact ⟨[c], by simp, rfl⟩
  | @short e => exact ⟨['\\', e], by simp, rfl⟩
  | unicode hu =>
    obtain ⟨taken, rfl⟩ := readUnicodeEscape_suffix hu
    exact ⟨'\\' :: 'u' :: taken, by simp, rfl⟩

/-- **A literal that is read** ends here, or goes on behind a character. -/
theorem readString_cases {cs spelled : List Char}
    (h : readString opening spelled cs = .ok (s, rest)) :
    cs = '"' :: rest ∧ s = String.ofList spelled.reverse ∨
      ∃ c behind, Spells cs c behind ∧
        readString opening (c :: spelled) behind = .ok (s, rest) := by
  match cs, h with
  | [], h =>
    rw [readString_nil] at h
    cases h
  | c :: cs, h =>
    by_cases hq : c = '"'
    · subst hq
      rw [readString_quote] at h
      obtain ⟨rfl, rfl⟩ := Prod.mk.inj (Except.ok.inj h)
      exact .inl ⟨rfl, rfl⟩
    by_cases hb : c = '\\'
    · subst hb
      match cs, h with
      | [], h => simp [readString] at h
      | e :: more, h =>
        by_cases he : e = 'u'
        · subst he
          cases hesc : readUnicodeEscape ('u' :: more) with
          | error stop =>
            rw [readString_unicode_error hesc] at h
            cases h
          | ok pair => exact .inr ⟨_, _, .unicode hesc, readString_unicode hesc ▸ h⟩
        · rw [readString_short he] at h
          cases hs : shortEscape? e with
          | none => simp [hs] at h
          | some c =>
            rw [hs] at h
            exact .inr ⟨c, more, .short he hs, h⟩
    · rw [readString_char hq hb] at h
      split at h
      · cases h
      · rename_i hc
        exact .inr ⟨c, cs, .plain hq hb hc, h⟩

/-- A literal ends with a quote. -/
theorem readString_eq_ok {cs spelled : List Char}
    (h : readString opening spelled cs = .ok (s, rest)) : '"' :: rest <:+ cs := by
  induction hlen : cs.length using Nat.strongRecOn generalizing cs spelled with | ind n ih
  rcases readString_cases h with ⟨rfl, -⟩ | ⟨c, behind, hspells, hmore⟩
  · exact List.suffix_rfl
  · obtain ⟨taken, hne, rfl⟩ := hspells.exists_append
    have hpos := List.length_pos_iff.2 hne
    rw [List.length_append] at hlen
    exact (ih behind.length (by omega) hmore rfl).trans (List.suffix_append taken behind)

/-- **A character is not cut in two** where the literal goes on behind it; only a brace that stands
for itself is the last thing before a cut. -/
theorem Spells.cut {behind spelled : List Char} (hp : EndsInBrace p)
    (h : Spells (p ++ q) c behind)
    (hnext : readString opening spelled behind = .ok (s, rest)) :
    p = ['\x7d'] ∧ c = '\x7d' ∧ behind = q ∨
      ∃ r, behind = r ++ q ∧ EndsInBrace r ∧ r.length < p.length ∧
        ∀ z, Spells (p ++ z) c (r ++ z) := by
  generalize htext : p ++ q = cs at h
  cases h with
  | plain hq hb hc =>
    obtain ⟨d, p, rfl⟩ := List.exists_cons_of_ne_nil hp.ne_nil
    obtain ⟨rfl, rfl⟩ := List.cons.inj htext
    by_cases hlast : p = []
    · subst hlast
      obtain rfl : d = '\x7d' := by simpa [EndsInBrace] using hp
      exact .inl ⟨rfl, rfl, rfl⟩
    · exact .inr ⟨p, rfl, hp.of_append (t := [d]) hlast, by simp, fun z => .plain hq hb hc⟩
  | @short e _ _ he hs =>
    obtain ⟨p, rfl, hp, htext⟩ := hp.exists_cons htext (by decide)
    have hbrace : e ≠ '\x7d' := by
      rintro rfl
      have hnone : shortEscape? '\x7d' = none := by decide
      rw [hnone] at hs
      cases hs
    obtain ⟨p, rfl, hp, rfl⟩ := hp.exists_cons htext hbrace
    refine .inr ⟨p, rfl, hp, ?_, fun z => .short he hs⟩
    simp only [List.length_cons]
    omega
  | unicode hu =>
    obtain ⟨p, rfl, hp, htext⟩ := hp.exists_cons htext (by decide)
    obtain ⟨p, rfl, hp, rfl⟩ := hp.exists_cons htext (by decide)
    obtain ⟨r, rfl, hr, hlt, hz⟩ := readUnicodeEscape_cut hp hu hnext
    refine .inr ⟨r, rfl, hr, ?_, fun z => .unicode (hz z)⟩
    simp only [List.length_cons]
    omega

/-! ## The literal

A literal that is not ended by the closing characters is not ended at all: it is a fault at its
opening quote, and the fault is not a limit. -/

/-- Closing characters do not end a literal. -/
theorem readString_of_isClosing {z : List Char} (hz : IsClosing z) :
    readString opening spelled z = .error (.fault .stringNotClosed opening.length) := by
  induction z generalizing spelled with
  | nil => exact readString_nil
  | cons c z ih =>
    have hc : c ≠ '"' ∧ c ≠ '\\' ∧ ¬c.toNat < 32 := by
      rcases hz.mem List.mem_cons_self with rfl | rfl <;> decide
    rw [readString_char hc.1 hc.2.1, if_neg hc.2.2, ih hz.tail]

/-- **A literal is read whole or not at all.**  Let a text be cut behind a brace.  If the literal
ends before the cut, then it is read as before whatever follows; if it does not, then no closing
characters make it end. -/
theorem readString_cut {p spelled : List Char} (hp : EndsInBrace p)
    (h : readString opening spelled (p ++ q) = .ok (s, rest)) :
    (∃ r, rest = r ++ q ∧ EndsInBrace r ∧
        ∀ z opening', readString opening' spelled (p ++ z) = .ok (s, r ++ z)) ∨
      rest.length < q.length ∧ ∀ z opening', IsClosing z →
        Faulty (readString opening' spelled (p ++ z)) := by
  induction hlen : p.length using Nat.strongRecOn generalizing p spelled with | ind n ih
  rcases readString_cases h with ⟨htext, rfl⟩ | ⟨c, behind, hspells, hmore⟩
  · obtain ⟨p, rfl, hp, rfl⟩ := hp.exists_cons htext (by decide)
    exact .inl ⟨p, rfl, hp, fun z opening' => readString_quote⟩
  rcases hspells.cut hp hmore with ⟨rfl, rfl, rfl⟩ | ⟨r, rfl, hr, hlt, hz⟩
  · -- the brace itself is a character of the literal, and only closing ones follow
    have hbrace (z : List Char) : Spells (['\x7d'] ++ z) '\x7d' z :=
      .plain (by decide) (by decide) (by decide)
    have hle := (readString_eq_ok hmore).length_le
    rw [List.length_cons] at hle
    refine .inr ⟨by omega, fun z opening' hclosing => ⟨.stringNotClosed, opening'.length, ?_⟩⟩
    rw [(hbrace z).readString_eq, readString_of_isClosing hclosing]
  · simpa only [(hz _).readString_eq] using ih r.length (by omega) hr hmore rfl

end CodeReview.Json
