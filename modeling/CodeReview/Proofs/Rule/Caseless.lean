import CodeReview.Rule.Pattern
import Mathlib.Data.List.Forall2
import Mathlib.Tactic.SplitIfs

/-!
# Words whose case is ignored

Two rules look for words whatever the case of their letters.  A text is a word, case ignored, if
each of its characters is a case of the letter in its place (`SpelledAs`).  For letters of ASCII
these are the two cases one thinks of, and for some of them a letter outside ASCII as well: the
long s, the Kelvin sign, and the dotted and the dotless i.

With so many characters to a letter it is not plain that a text is one word only.  A character is a
case of one letter only, though (`sameLetter_unique`), so two words are not both read at one place
if they begin with different letters (`afterCaseless?_eq_none`).  That is why the order in which
the names of credentials are tried does not matter.
-/

set_option autoImplicit false

namespace CodeReview.Rule

open CodeReview.Text Pattern

variable {cs : List Char}

/-! ## Letters

A capital letter of ASCII has its small one 32 places on.  The letters outside ASCII are four, and
are gone through. -/

theorem toLower_cases (c : Char) : c.toLower = c ∨
    (65 ≤ c.toNat ∧ c.toNat ≤ 90) ∧ 97 ≤ c.toLower.toNat ∧ c.toLower.toNat ≤ 122 := by
  by_cases hupper : c.val ≥ 'A'.val ∧ c.val ≤ 'Z'.val
  · have hlower : c.toLower.val = c.val + ('a'.val - 'A'.val) :=
      congrArg Char.val (dif_pos hupper)
    have hcode : c.toLower.toNat = (c.val + 32).toNat := congrArg UInt32.toNat hlower
    have hfrom : 65 ≤ c.toNat := UInt32.le_iff_toNat_le.1 hupper.1
    have hto : c.toNat ≤ 90 := UInt32.le_iff_toNat_le.1 hupper.2
    have hsmall : (c.val + 32).toNat = c.toNat + 32 := by
      rw [UInt32.toNat_add]
      exact Nat.mod_eq_of_lt (by simp only [UInt32.reduceToNat]; change c.toNat + 32 < _; omega)
    omega
  · exact .inl (dif_neg hupper)

/-- The letters outside ASCII. -/
theorem mem_otherCases {letter c : Char} (h : c ∈ otherCases letter) :
    letter = 's' ∧ c = '\u017f' ∨ letter = 'k' ∧ c = '\u212a' ∨
      letter = 'i' ∧ c = '\u0130' ∨ letter = 'i' ∧ c = '\u0131' := by
  rw [otherCases] at h
  split_ifs at h <;> simp_all

theorem sameLetter_iff {letter c : Char} :
    sameLetter letter c = true ↔ c.toLower = letter ∨ c ∈ otherCases letter := by
  simp [sameLetter]

/-- **A character is a case of one letter only.** -/
theorem sameLetter_unique {p q c : Char} (hp : p.toNat < 128) (hq : q.toNat < 128)
    (hpc : sameLetter p c = true) (hqc : sameLetter q c = true) : p = q := by
  have hother : ∀ {letter : Char}, c ∈ otherCases letter → ¬ c.toLower.toNat < 128 ∧
      ∀ letter' : Char, c ∈ otherCases letter' → letter = letter' := by
    intro letter h
    refine ⟨?_, fun letter' h' => ?_⟩
    · rcases mem_otherCases h with ⟨-, rfl⟩ | ⟨-, rfl⟩ | ⟨-, rfl⟩ | ⟨-, rfl⟩ <;> decide
    · have hletter' := mem_otherCases h'
      rcases mem_otherCases h with ⟨rfl, rfl⟩ | ⟨rfl, rfl⟩ | ⟨rfl, rfl⟩ | ⟨rfl, rfl⟩ <;> simp_all
  rcases sameLetter_iff.1 hpc with hpc | hpc <;> rcases sameLetter_iff.1 hqc with hqc | hqc
  · exact hpc.symm.trans hqc
  · exact absurd (hpc ▸ hp) (hother hqc).1
  · exact absurd (hqc ▸ hq) (hother hpc).1
  · exact (hother hpc).2 q hqc

/-- A sign that is no letter is spelled in one way. -/
theorem eq_of_sameLetter {sign c : Char} (hsign : sign.toNat < 97 ∨ 122 < sign.toNat)
    (h : sameLetter sign c = true) : c = sign := by
  rcases sameLetter_iff.1 h with hlower | hother
  · rcases toLower_cases c with hself | ⟨-, hletter⟩
    · exact hself.symm.trans hlower
    · rw [hlower] at hletter
      omega
  · rcases mem_otherCases hother with ⟨rfl, -⟩ | ⟨rfl, -⟩ | ⟨rfl, -⟩ | ⟨rfl, -⟩ <;> simp at hsign

/-- No case of a letter is a blank. -/
theorem isBlank_of_sameLetter {letter c : Char} (hletter : isBlank letter = false)
    (h : sameLetter letter c = true) : isBlank c = false := by
  rcases sameLetter_iff.1 h with hlower | hother
  · rcases toLower_cases c with hself | ⟨hupper, -⟩
    · rwa [← hself, hlower]
    · refine Bool.eq_false_iff.2 fun hblank => ?_
      simp only [isBlank, isWhiteSpace, Bool.or_eq_true, Bool.and_eq_true, decide_eq_true_eq,
        beq_iff_eq] at hblank
      omega
  · rcases mem_otherCases hother with ⟨-, rfl⟩ | ⟨-, rfl⟩ | ⟨-, rfl⟩ | ⟨-, rfl⟩ <;> decide

/-! ## Words

A word is read letter by letter, and a sign in it, an underscore or a hyphen, in one way only. -/

/-- The text is this word, whatever the case of its letters. -/
def SpelledAs (word : String) (cs : List Char) : Prop :=
  List.Forall₂ (fun letter c => sameLetter letter c = true) word.toList cs

theorem afterCaseless?_eq_some_iff {w rest : List Char} :
    afterCaseless? w cs = some rest ↔
      ∃ spelled, cs = spelled ++ rest ∧
        List.Forall₂ (fun letter c => sameLetter letter c = true) w spelled := by
  induction w generalizing cs with
  | nil =>
    constructor
    · intro h
      exact ⟨[], Option.some.inj h, .nil⟩
    · rintro ⟨_, rfl, hspelled⟩
      cases hspelled
      rfl
  | cons letter w ih =>
    cases cs with
    | nil =>
      refine iff_of_false (by simp [afterCaseless?]) ?_
      rintro ⟨spelled, hcut, hspelled⟩
      obtain ⟨rfl, -⟩ := List.nil_eq_append_iff.1 hcut
      cases hspelled
    | cons c cs =>
      rw [afterCaseless?, Option.ite_none_right_eq_some, ih]
      constructor
      · rintro ⟨hc, spelled, rfl, hspelled⟩
        exact ⟨c :: spelled, rfl, .cons hc hspelled⟩
      · rintro ⟨_, hcut, hspelled⟩
        cases hspelled with
        | cons hc hspelled =>
          obtain ⟨rfl, rfl⟩ := List.cons.inj hcut
          exact ⟨hc, _, rfl, hspelled⟩

theorem afterCaseless?_append (v w cs : List Char) :
    afterCaseless? (v ++ w) cs = (afterCaseless? v cs).bind (afterCaseless? w) := by
  induction v generalizing cs with
  | nil => rfl
  | cons letter v ih =>
    cases cs with
    | nil => rfl
    | cons c cs =>
      rw [List.cons_append, afterCaseless?, afterCaseless?]
      split
      · exact ih cs
      · rfl

theorem afterCaseless?_sign {sign : Char} {rest : List Char}
    (hsign : sign.toNat < 97 ∨ 122 < sign.toNat) (hself : sameLetter sign sign = true) :
    afterCaseless? [sign] cs = some rest ↔ cs = sign :: rest := by
  rw [afterCaseless?_eq_some_iff]
  constructor
  · rintro ⟨_, rfl, hspelled⟩
    obtain ⟨c, _, hc, hnil, rfl⟩ := List.forall₂_cons_left_iff.1 hspelled
    cases hnil
    rw [eq_of_sameLetter hsign hc]
    rfl
  · rintro rfl
    exact ⟨[sign], rfl, .cons hself .nil⟩

/-- Two words that begin with different letters are not both read at one place. -/
theorem afterCaseless?_eq_none {p q : Char} {v w rest : List Char} (hp : p.toNat < 128)
    (hq : q.toNat < 128) (hne : p ≠ q) (h : afterCaseless? (q :: w) cs = some rest) :
    afterCaseless? (p :: v) cs = none := by
  obtain ⟨spelled, rfl, hspelled⟩ := afterCaseless?_eq_some_iff.1 h
  cases hspelled with
  | cons hc => exact if_neg fun hpc => hne (sameLetter_unique hp hq hpc hc)

end CodeReview.Rule
