import CodeReview.Proofs.Json.Cut
import Mathlib.Data.List.Forall2

/-!
# How strings and integers are written

A string can be written in many ways: most of its characters stand for themselves or are escaped,
by a letter or by the hexadecimal digits of their code units, and a character beyond U+FFFF by two
escapes.  An integer is written by its decimal digits, and a zero may have a minus too.
`WritesString` and `WritesInt` say which texts those are.  They are relations, since there are
several texts for one value, and they say nothing of how the texts are read.

Main statements: a string is read from each of its literals (`readString_of_writesString`), and an
integer from its digits if nothing follows that goes on with them (`readPlain_of_writesInt`).

The two differ in what may follow.  A literal brings its quote along, so anything may.  An integer
ends where it is not continued, and is continued by a digit, a point or an exponent; `Delimited`
leaves out all three, by listing what may stand between or behind values.
The numbers behind an escape are those that the reader computes: a code unit is four digits, each
sixteen times the next, and a pair is `0x10000 + 0x400 * high + low`.  For a character in the range
of a pair these two halves are given with it, so that nothing has to be divided.
-/

set_option autoImplicit false

namespace CodeReview.Json

open CodeReview.Text

/-! ## Code units

Hexadecimal digits come in either case, and the two may be mixed within one unit. -/

/-- The hexadecimal digit of a number, in either case. -/
def IsHexDigit (c : Char) (n : Nat) : Prop :=
  n < 16 ∧ (c = Nat.digitChar n ∨ c = (Nat.digitChar n).toUpper)

instance (c : Char) (n : Nat) : Decidable (IsHexDigit c n) := inferInstanceAs (Decidable (_ ∧ _))

/-- Four hexadecimal digits write a code unit. -/
inductive WritesUnit : List Char → Nat → Prop where
  | mk {a b c d : Char} {k l m n : Nat} (ha : IsHexDigit a k) (hb : IsHexDigit b l)
      (hc : IsHexDigit c m) (hd : IsHexDigit d n) :
      WritesUnit [a, b, c, d] (((k * 16 + l) * 16 + m) * 16 + n)

theorem hexValue?_of_isHexDigit {c : Char} {n : Nat} (h : IsHexDigit c n) :
    hexValue? c = some n := by
  have hall : ∀ n < 16, hexValue? (Nat.digitChar n) = some n ∧
      hexValue? (Nat.digitChar n).toUpper = some n := by decide
  rcases h with ⟨hlt, rfl | rfl⟩
  · exact (hall n hlt).1
  · exact (hall n hlt).2

theorem codeUnit?_of_writesUnit {ds : List Char} {unit : Nat} (h : WritesUnit ds unit) :
    ∃ a b c d, ds = [a, b, c, d] ∧ codeUnit? a b c d = some unit := by
  obtain ⟨ha, hb, hc, hd⟩ := h
  refine ⟨_, _, _, _, rfl, ?_⟩
  simp only [codeUnit?, hexValue?_of_isHexDigit ha, hexValue?_of_isHexDigit hb,
    hexValue?_of_isHexDigit hc, hexValue?_of_isHexDigit hd, Option.bind_eq_bind, Option.bind_some,
    Option.some.injEq]
  omega

/-! ## Characters

Escapes are single units, or two units for a code point above U+FFFF.  The first of two is a lead
surrogate, which no character has for its code point (`not_surrogate`); so a single escape is never
taken for half of a pair. -/

/-- The letters that stand for characters behind a backslash. -/
def escapeLetters : List (Char × Char) :=
  [('"', '"'), ('\\', '\\'), ('/', '/'), ('\x08', 'b'), ('\x0c', 'f'), ('\n', 'n'), ('\r', 'r'),
    ('\t', 't')]

/-- The ways to write a character in a literal. -/
inductive WritesChar : Char → List Char → Prop where
  /-- as it stands, unless it is a quote, a backslash or a control character -/
  | raw {c : Char} (hquote : c ≠ '"') (hslash : c ≠ '\\') (hcontrol : 0x20 ≤ c.toNat) :
      WritesChar c [c]
  | letter {c e : Char} (h : (c, e) ∈ escapeLetters) : WritesChar c ['\\', e]
  | unit {c : Char} {ds : List Char} (h : WritesUnit ds c.toNat) : WritesChar c ('\\' :: 'u' :: ds)
  /-- by the two units of a pair, each with ten bits of the code point -/
  | pair {c : Char} {high low : Nat} {ds ds' : List Char} (hhigh : high < 0x400)
      (hlow : low < 0x400) (hc : c.toNat = 0x10000 + 0x400 * high + low)
      (hlead : WritesUnit ds (0xD800 + high)) (htrail : WritesUnit ds' (0xDC00 + low)) :
      WritesChar c ('\\' :: 'u' :: ds ++ '\\' :: 'u' :: ds')

/-- A literal of a string: its characters one after another, between quotes. -/
inductive WritesString : String → List Char → Prop where
  | mk {cs : List Char} {texts : List (List Char)} (h : List.Forall₂ WritesChar cs texts) :
      WritesString (String.ofList cs) ('"' :: texts.flatten ++ ['"'])

variable [Spare]

omit [Spare] in
/-- The code point of a character is no surrogate. -/
theorem not_surrogate (c : Char) : isLeadUnit c.toNat = false ∧ isTrailUnit c.toNat = false := by
  have hvalid : c.toNat < 0xD800 ∨ 0xDFFF < c.toNat ∧ c.toNat < 0x110000 := c.valid
  simp only [isLeadUnit, isTrailUnit, Bool.and_eq_false_iff, decide_eq_false_iff_not]
  omega

theorem unitChar_toNat (c : Char) : unitChar c.toNat = c := by
  simp [unitChar, not_surrogate c]

omit [Spare] in
theorem pairChar_eq {c : Char} {high low : Nat}
    (hc : c.toNat = 0x10000 + 0x400 * high + low) :
    pairChar (0xD800 + high) (0xDC00 + low) = c := by
  have hpoint : 0x10000 + (0xD800 + high - 0xD800) * 0x400 + (0xDC00 + low - 0xDC00) = c.toNat := by
    omega
  rw [pairChar, hpoint, Char.ofNat_toNat]

/-- **A character is read** from each of the texts that write it. -/
theorem spells_of_writesChar {c : Char} {text rest : List Char} (h : WritesChar c text)
    (hrest : rest ≠ []) : Spells (text ++ rest) c rest := by
  obtain ⟨x, more, rfl⟩ := List.exists_cons_of_ne_nil hrest
  cases h with
  | raw hquote hslash hcontrol => exact .plain hquote hslash (by omega)
  | @letter e h =>
    have hletters : ∀ p ∈ escapeLetters, p.2 ≠ 'u' ∧ shortEscape? p.2 = some p.1 := by decide
    obtain ⟨hne, hshort⟩ := hletters (c, e) h
    exact .short hne hshort
  | unit h =>
    obtain ⟨a, b, d, e, rfl, hunit⟩ := codeUnit?_of_writesUnit h
    refine .unicode ?_
    have hread : readUnicodeEscape ('u' :: a :: b :: d :: e :: x :: more) = _ :=
      readUnicodeEscape_cons hunit
    rwa [(not_surrogate c).1, if_neg Bool.false_ne_true, unitChar_toNat] at hread
  | @pair high low ds ds' hhigh hlow hc hlead htrail =>
    obtain ⟨a, b, d, e, rfl, hunit⟩ := codeUnit?_of_writesUnit hlead
    obtain ⟨a', b', d', e', rfl, hunit'⟩ := codeUnit?_of_writesUnit htrail
    have hfirst : isLeadUnit (0xD800 + high) = true := by
      simp only [isLeadUnit, Bool.and_eq_true, decide_eq_true_eq]
      omega
    have hsecond : isTrailUnit (0xDC00 + low) = true := by
      simp only [isTrailUnit, Bool.and_eq_true, decide_eq_true_eq]
      omega
    refine .unicode ?_
    have hread : readUnicodeEscape
        ('u' :: a :: b :: d :: e :: '\\' :: 'u' :: a' :: b' :: d' :: e' :: x :: more) = _ :=
      readUnicodeEscape_cons hunit
    rwa [hfirst, if_pos rfl, readTrail_cons hunit', hsecond, if_pos rfl, pairChar_eq hc] at hread

/-- **A string is read** from each of its literals, whatever follows. -/
theorem readString_of_writesString {s : String} {text : List Char} (h : WritesString s text) :
    ∃ body, text = '"' :: body ∧
      ∀ opening rest, readString opening [] (body ++ rest) = .ok (s, rest) := by
  obtain @⟨cs, texts, hchars⟩ := h
  refine ⟨texts.flatten ++ ['"'], rfl, fun opening rest => ?_⟩
  rw [List.append_assoc, List.singleton_append]
  have hread : ∀ spelled, readString opening spelled (texts.flatten ++ '"' :: rest)
      = .ok (String.ofList (spelled.reverse ++ cs), rest) := by
    induction hchars with
    | nil =>
      intro spelled
      rw [List.flatten_nil, List.nil_append, readString_quote, List.append_nil]
    | @cons c text cs texts hchar _ ih =>
      intro spelled
      rw [List.flatten_cons, List.append_assoc,
        (spells_of_writesChar hchar (by simp)).readString_eq, ih, List.reverse_cons,
        List.append_assoc, List.singleton_append]
  exact hread []

/-! ## Integers

The reader takes words before numbers, and one of the words starts with a minus.  Behind a minus
the text goes on with a digit, and that tells it from the word. -/

/-- The texts of an integer: its decimal digits, behind a minus if it is negative. -/
inductive WritesInt : Int → List Char → Prop where
  | plain (n : Nat) (h : (Nat.toDigits 10 n).length ≤ Numeral.maxDigits) :
      WritesInt n (Nat.toDigits 10 n)
  /-- zero among them -/
  | minus (n : Nat) (h : (Nat.toDigits 10 n).length ≤ Numeral.maxDigits) :
      WritesInt (-n) ('-' :: Nat.toDigits 10 n)

/-- Nothing follows, or a character that stands between or behind values. -/
def Delimited (rest : List Char) : Prop :=
  ∀ c ∈ rest.head?, c ∈ [' ', '\t', '\n', '\r', ',', ']', '\x7d']

omit [Spare]

/-- Nothing that follows goes on with a number. -/
theorem Delimited.cases {rest : List Char} (h : Delimited rest) :
    rest = [] ∨ ∃ c more, rest = c :: more ∧
      c.isDigit = false ∧ c ≠ '.' ∧ c ≠ 'e' ∧ c ≠ 'E' := by
  cases rest with
  | nil => exact .inl rfl
  | cons c more =>
    have hall : ∀ c ∈ [' ', '\t', '\n', '\r', ',', ']', '\x7d'],
        c.isDigit = false ∧ c ≠ '.' ∧ c ≠ 'e' ∧ c ≠ 'E' := by simp
    exact .inr ⟨c, more, rfl, hall c (h c rfl)⟩

theorem readFraction_of_delimited {rest : List Char} (h : Delimited rest) :
    readFraction rest = (none, rest) := by
  obtain rfl | ⟨c, more, rfl, -, hpoint, -⟩ := h.cases
  · rfl
  · simp [readFraction, hpoint]

theorem readExponent_of_delimited {rest : List Char} (h : Delimited rest) :
    readExponent rest = (none, rest) := by
  obtain rfl | ⟨c, more, rfl, -, -, he, hE⟩ := h.cases
  · rfl
  · simp [readExponent, he, hE]

theorem digitsValue_toDigits (n : Nat) : digitsValue (Nat.toDigits 10 n) = n :=
  Nat.ofDigitChars_ten_toDigits

theorem exists_toDigits_eq_cons (n : Nat) :
    ∃ d ds, Nat.toDigits 10 n = d :: ds ∧ d.isDigit = true := by
  obtain ⟨d, ds, hds⟩ := List.exists_cons_of_ne_nil (@Nat.toDigits_ne_nil n 10)
  have hd : d ∈ Nat.toDigits 10 n := hds ▸ List.mem_cons_self
  exact ⟨d, ds, hds, Nat.isDigit_of_mem_toDigits (by decide) (by decide) hd⟩

/-- An integer starts with a minus or a digit. -/
theorem WritesInt.exists_cons {n : Int} {text : List Char} (h : WritesInt n text) :
    ∃ c more, text = c :: more ∧ (c = '-' ∨ c.isDigit = true) := by
  cases h with
  | plain n _ =>
    obtain ⟨d, ds, hds, hd⟩ := exists_toDigits_eq_cons n
    exact ⟨d, ds, hds, .inr hd⟩
  | minus n _ => exact ⟨'-', _, rfl, .inl rfl⟩

/-- A zero stands before no other digit. -/
theorem toDigits_eq_cons_zero {n : Nat} {ds : List Char} (h : Nat.toDigits 10 n = '0' :: ds) :
    ds = [] := by
  induction n using Nat.strongRecOn generalizing ds with | ind n ih
  rw [Nat.toDigits_eq_if (by decide)] at h
  split at h
  · exact (List.cons.inj h).2.symm
  · rename_i hten
    cases hmore : Nat.toDigits 10 (n / 10) with
    | nil => exact absurd hmore Nat.toDigits_ne_nil
    | cons d more =>
      rw [hmore] at h
      obtain rfl := (List.cons.inj h).1
      obtain rfl := ih (n / 10) (by omega) hmore
      have hzero : n / 10 = 0 := by
        rw [← digitsValue_toDigits (n / 10), hmore]
        rfl
      omega

/-- The digits of a number are what is read before a point. -/
theorem readWhole_toDigits {n : Nat} {rest : List Char} (hrest : Delimited rest) :
    readWhole (Nat.toDigits 10 n ++ rest) = some (Nat.toDigits 10 n, rest) := by
  have hdigits : ∀ d ∈ Nat.toDigits 10 n, d.isDigit = true :=
    fun d hd => Nat.isDigit_of_mem_toDigits (by decide) (by decide) hd
  have htake : rest.takeWhile Char.isDigit = [] ∧ rest.dropWhile Char.isDigit = rest := by
    obtain rfl | ⟨c, more, rfl, hc, -⟩ := hrest.cases
    · exact ⟨rfl, rfl⟩
    · simp [hc]
  cases hds : Nat.toDigits 10 n with
  | nil => exact absurd hds Nat.toDigits_ne_nil
  | cons d ds =>
    rw [hds] at hdigits
    by_cases hd : d = '0'
    · subst hd
      rw [toDigits_eq_cons_zero hds]
      rfl
    · have hmore : ∀ d ∈ ds, d.isDigit = true := fun c hc => hdigits c (List.mem_cons_of_mem d hc)
      simp [readWhole, hdigits d List.mem_cons_self, List.takeWhile_append_of_pos hmore,
        List.dropWhile_append_of_pos hmore, htake]

theorem readMagnitude_toDigits {n : Nat} {rest : List Char} (negative : Bool) (left : Nat)
    (h : (Nat.toDigits 10 n).length ≤ Numeral.maxDigits) (hrest : Delimited rest) :
    readMagnitude negative left (Nat.toDigits 10 n ++ rest)
      = .ok (.int (if negative then -n else n), rest) := by
  simp only [readMagnitude, readWhole_toDigits hrest, readFraction_of_delimited hrest,
    readExponent_of_delimited hrest, if_neg (Nat.not_lt.2 h), digitsValue_toDigits]

/-- What starts with a digit is no word. -/
theorem readPlain_of_isDigit {c : Char} (cs : List Char) (hc : c.isDigit = true) :
    readPlain (c :: cs) = readNumber (c :: cs) := by
  unfold readPlain
  split
  case h_7 => rfl
  all_goals
    rename_i heq
    obtain ⟨rfl, -⟩ := List.cons.inj heq
    cases hc

theorem readPlain_of_minus {c : Char} (cs : List Char) (hc : c.isDigit = true) :
    readPlain ('-' :: c :: cs) = readNumber ('-' :: c :: cs) := by
  unfold readPlain
  split
  case h_6 heq =>
    obtain ⟨rfl, -⟩ := List.cons.inj (List.cons.inj heq).2
    cases hc
  case h_7 => rfl
  all_goals
    rename_i heq
    cases (List.cons.inj heq).1

/-- **An integer is read** from its digits, if nothing that follows goes on with them. -/
theorem readPlain_of_writesInt {n : Int} {text rest : List Char} (h : WritesInt n text)
    (hrest : Delimited rest) : readPlain (text ++ rest) = .ok (.int n, rest) := by
  cases h with
  | plain n hlen =>
    obtain ⟨d, ds, hds, hd⟩ := exists_toDigits_eq_cons n
    have hminus : ∀ more, readMinus (d :: more) = (false, d :: more) := by
      intro more
      have hne : d ≠ '-' := by
        rintro rfl
        cases hd
      simp [readMinus, hne]
    have hread := readMagnitude_toDigits false (Nat.toDigits 10 n ++ rest).length hlen hrest
    rw [hds, List.cons_append] at hread ⊢
    rw [readPlain_of_isDigit _ hd, readNumber_eq, hminus]
    exact hread
  | minus n hlen =>
    obtain ⟨d, ds, hds, hd⟩ := exists_toDigits_eq_cons n
    have hread := readMagnitude_toDigits true ('-' :: Nat.toDigits 10 n ++ rest).length hlen hrest
    rw [hds, List.cons_append] at hread
    rw [hds, List.cons_append, List.cons_append, readPlain_of_minus _ hd, readNumber_eq]
    exact hread

end CodeReview.Json
