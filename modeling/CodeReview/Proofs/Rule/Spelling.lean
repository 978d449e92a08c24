import CodeReview.Proofs.Text.Place
import CodeReview.Rule.LocalFix
import Mathlib.Data.List.TakeWhile

/-!
# How the lines are spelled that the fixes change

A pattern is found in a line if the line can be written in a certain way.  This is said here for
the patterns that the local fixes go by: those of lines that are dropped (`isDebugging_iff`) and of
lines that are rewritten (`isVarDeclaration_iff`).  They differ from what the rules look for.  A
line is dropped if `console.log` is anywhere in it, called or not, where the rule asks for a call.

A rewritten line differs from the line it was in one word, the first `var` that stands for itself
(`exists_firstWordAt_varToConst`).  The word of a declaration stands for itself too, so there is
such a word in every line that declares; but it need not be the first.
-/

set_option autoImplicit false

namespace CodeReview.Rule

open CodeReview.Text Pattern

variable {line before rest : List Char}

/-! ## Words

`WordAt` is a word at a place, with both its ends; `FirstWordAt` is the one with the least text
before it. -/

/-- The word stands for itself in the line, between `before` and `rest`. -/
structure WordAt (w : String) (line before rest : List Char) : Prop where
  cut : line = before ++ (w.toList ++ rest)
  opens : opensWord before.getLast? = true
  closes : closesWord rest = true

/-- It does so here for the first time. -/
structure FirstWordAt (w : String) (line before rest : List Char) : Prop
    extends WordAt w line before rest where
  first : ∀ before' rest', WordAt w line before' rest' → before.length ≤ before'.length

theorem word_eq_true_iff {w : String} {previous : Option Char} {here : List Char} :
    word w previous here = true ↔
      opensWord previous = true ∧ ∃ rest, here = w.toList ++ rest ∧ closesWord rest = true := by
  simp [word, atWordStart, Option.any_eq_true, after?_eq_some_iff]

theorem inLine_iff {pattern : Place} : inLine pattern line = true ↔
    ∃ before here, line = before ++ here ∧ pattern before.getLast? here = true := by
  simp [inLine, somewhere_iff]

theorem inLine_word_iff {w : String} :
    inLine (word w) line = true ↔ ∃ before rest, WordAt w line before rest := by
  rw [inLine_iff]
  constructor
  · rintro ⟨before, here, rfl, h⟩
    obtain ⟨hopens, rest, rfl, hcloses⟩ := word_eq_true_iff.1 h
    exact ⟨before, rest, rfl, hopens, hcloses⟩
  · rintro ⟨before, rest, hcut, hopens, hcloses⟩
    exact ⟨before, _, hcut, word_eq_true_iff.2 ⟨hopens, rest, rfl, hcloses⟩⟩

/-- The line holds `console.log`, or `debugger` as a word. -/
def ShowsDebugging (line : List Char) : Prop :=
  (∃ before rest, line = before ++ ("console.log".toList ++ rest)) ∨
    ∃ before rest, WordAt "debugger" line before rest

/-- **Debugging output or a breakpoint.** -/
theorem isDebugging_iff : isDebugging line = true ↔ ShowsDebugging line := by
  rw [ShowsDebugging, isDebugging, Bool.or_eq_true, debuggerWord, inLine_word_iff, inLine_iff]
  refine or_congr_left (exists_congr fun before => ?_)
  simp only [consoleLog, Option.isSome_iff_exists, after?_eq_some_iff]
  constructor
  · rintro ⟨_, rfl, rest, rfl⟩
    exact ⟨rest, rfl⟩
  · rintro ⟨rest, rfl⟩
    exact ⟨_, rfl, rest, rfl⟩

instance : DecidablePred ShowsDebugging := fun _ => decidable_of_iff _ isDebugging_iff

/-! ## Declarations

A declaration is the word, blanks and the beginning of a name.  That the name follows makes the
word end, so there is no condition on its end. -/

/-- Blanks, at least one, and a character of a word behind them. -/
def OpensName (rest : List Char) : Prop :=
  ∃ blanks c more, rest = blanks ++ c :: more ∧ blanks ≠ [] ∧ (∀ b ∈ blanks, isBlank b = true) ∧
    isWord c = true

/-- A declaration with `var` begins in the line, between `before` and `rest`. -/
structure DeclarationAt (line before rest : List Char) : Prop where
  cut : line = before ++ ("var".toList ++ rest)
  opens : opensWord before.getLast? = true
  name : OpensName rest

theorem opensName_iff : OpensName rest ↔
    startsWithChar isBlank rest = true ∧ startsWithChar isWord (skipBlanks rest) = true := by
  constructor
  · rintro ⟨blanks, c, more, rfl, hne, hblanks, hc⟩
    obtain ⟨b, blanks, rfl⟩ := List.exists_cons_of_ne_nil hne
    have hstop : ¬ isBlank c = true := fun hblank => by
      rw [isWord_of_isBlank hblank] at hc
      cases hc
    have hskip : skipBlanks (b :: blanks ++ c :: more) = c :: more := by
      rw [skipBlanks, List.dropWhile_append_of_pos hblanks, List.dropWhile_cons_of_neg hstop]
    refine ⟨hblanks b List.mem_cons_self, ?_⟩
    rw [hskip]
    exact hc
  · rintro ⟨hblank, hword⟩
    obtain ⟨c, more, hskip⟩ : ∃ c more, skipBlanks rest = c :: more :=
      List.exists_cons_of_ne_nil fun hnil => by simp [hnil, startsWithChar] at hword
    refine ⟨rest.takeWhile isBlank, c, more, ?_, ?_, fun b hb => List.mem_takeWhile_imp hb, ?_⟩
    · rw [← hskip, skipBlanks, List.takeWhile_append_dropWhile]
    · cases rest with
      | nil => cases hblank
      | cons b rest =>
        have hb : isBlank b = true := hblank
        simp [hb]
    · rw [hskip] at hword
      exact hword

instance : DecidablePred OpensName := fun _ =>
  decidable_of_iff (_ ∧ _) opensName_iff.symm

theorem OpensName.closesWord (h : OpensName rest) : closesWord rest = true := by
  obtain ⟨blanks, c, more, rfl, hne, hblanks, -⟩ := h
  obtain ⟨b, blanks, rfl⟩ := List.exists_cons_of_ne_nil hne
  simp [Text.closesWord, isWord_of_isBlank (hblanks b List.mem_cons_self)]

/-- The word of a declaration stands for itself. -/
theorem DeclarationAt.wordAt (h : DeclarationAt line before rest) :
    WordAt "var" line before rest :=
  ⟨h.cut, h.opens, h.name.closesWord⟩

/-- A declaration with `var` begins somewhere in the line. -/
def Declares (line : List Char) : Prop := ∃ before rest, DeclarationAt line before rest

/-- **A declaration with `var`.** -/
theorem isVarDeclaration_iff : isVarDeclaration line = true ↔ Declares line := by
  simp only [Declares, isVarDeclaration, inLine_iff, varDeclaration, atWordStart, Bool.and_eq_true,
    Option.any_eq_true, after?_eq_some_iff]
  constructor
  · rintro ⟨before, _, rfl, hopens, rest, rfl, hname⟩
    exact ⟨before, rest, rfl, hopens, opensName_iff.2 hname⟩
  · rintro ⟨before, rest, hcut, hopens, hname⟩
    exact ⟨before, _, hcut, hopens, rest, rfl, opensName_iff.1 hname⟩

instance : DecidablePred Declares := fun _ => decidable_of_iff _ isVarDeclaration_iff

theorem Declares.inLine_varWord (h : Declares line) : inLine varWord line = true := by
  obtain ⟨before, rest, hdeclaration⟩ := h
  exact inLine_word_iff.2 ⟨before, rest, hdeclaration.wordAt⟩

/-! ## The rewritten line

Where a line was rewritten can be told from the two lines, so that there is one place of this kind.
-/

/-- **The first `var` that stands for itself becomes `const`,** and nothing else changes. -/
theorem exists_firstWordAt_varToConst (h : inLine varWord line = true) :
    ∃ before rest, FirstWordAt "var" line before rest ∧
      varToConst line = before ++ ("const".toList ++ rest) := by
  obtain ⟨before, here, hplace⟩ := exists_isFirstPlace h
  have hpasses : varWord before.getLast? here = true := by simpa using hplace.passes
  obtain ⟨hopens, rest, rfl, hcloses⟩ := word_eq_true_iff.1 hpasses
  refine ⟨before, rest, ⟨⟨hplace.cut, hopens, hcloses⟩, fun before' rest' hat => ?_⟩, ?_⟩
  · refine hplace.first before' _ hat.cut ?_
    rw [Option.or_none]
    exact word_eq_true_iff.2 ⟨hat.opens, rest', rfl, hat.closes⟩
  · rw [varToConst, hplace.replaceFirst (by simp)]
    rfl

/-- A line and the line it is rewritten to tell where it was rewritten. -/
theorem cut_unique {before' rest' : List Char}
    (hvar : before ++ ("var".toList ++ rest) = before' ++ ("var".toList ++ rest'))
    (hconst : before ++ ("const".toList ++ rest) = before' ++ ("const".toList ++ rest')) :
    before = before' ∧ rest = rest' := by
  have hbefore : before = before' := by
    rcases List.append_eq_append_iff.1 hvar with ⟨gap, rfl, hgap⟩ | ⟨gap, rfl, hgap⟩
    all_goals
      rw [List.append_assoc, List.append_cancel_left_eq] at hconst
      cases gap with
      | nil => simp
      | cons c gap =>
        have hv := congrArg List.head? hgap
        have hc := congrArg List.head? hconst
        simp at hv hc
        simp [← hv] at hc
  subst hbefore
  simpa using hvar

end CodeReview.Rule
