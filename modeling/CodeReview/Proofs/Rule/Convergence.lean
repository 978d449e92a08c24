import CodeReview.Proofs.Rule.Cleaning
import Mathlib.Logic.Function.Iterate

/-!
# Cleaning up again and again

One round drops every line that shows debugging, and takes one word `var` out of each line that
declares with it.  Does it come to an end when it is repeated?  Every round that applies something
takes a line or a `var` out of the text, so it does; how soon is another question, and the number
of lines or of findings is no good answer.  All lines are worked on in every round, so what counts
is the line that takes longest.

A rewritten line shows no debugging that was not there, so debugging is over after one round.
Declarations are over after as many rounds as the word `var` stands in a line, since each round
takes one of them out (`varCount_varToConst`).  So `max 1 (mostVars text)` rounds are enough
(`cleanUp_converges`).

The account is kept line by line: `Settled bound n line` says what a line can still ask for after
`n` rounds.  It holds before the first round for every line of the text, and each round takes it
from `n` to `n + 1` (`Settled.cleaned`), whatever lines were dropped around it.
-/

set_option autoImplicit false

namespace CodeReview.Rule

open CodeReview.Text Pattern

variable {path text : String} {line image : List Char} {ls : List (List Char)} {n bound : Nat}

/-! ## Counting the word

The word is counted by the places at which it stands for itself.  Replacing one of them changes the
characters around the others, so it takes an argument that none is lost and none comes up: a word
that begins before the place does not end in it, and behind it `r` and `t` are both characters of a
word. -/

/-- How often `var` stands for itself in the line. -/
def varCount (line : List Char) : Nat := countPlaces varWord none line

/-- How often it does so in the line of a text that has the most of it. -/
def mostVars (text : String) : Nat := ((lines text.toList).map varCount).max?.getD 0

theorem varCount_le_mostVars (h : line ∈ lines text.toList) : varCount line ≤ mostVars text :=
  List.le_max?_getD_of_mem (List.mem_map_of_mem h)

theorem varCount_pos (h : Declares line) : 0 < varCount line :=
  countPlaces_pos_iff.2 h.inLine_varWord

/-- No word that begins before the rewritten one ends in it. -/
theorem varWord_cons {c : Char} {cs cs' : List Char} (h : Renamed cs cs')
    (previous : Option Char) : varWord previous (c :: cs) = varWord previous (c :: cs') := by
  have hrest : Option.Rel Renamed (after? "var".toList (c :: cs))
      (after? "var".toList (c :: cs')) := by
    show Option.Rel Renamed (if 'v' = c then after? "ar".toList cs else none)
      (if 'v' = c then after? "ar".toList cs' else none)
    split
    · exact h.after? (by decide)
    · exact .none
  exact congrArg (opensWord previous && ·) (any_eq_of_rel hrest fun _ _ h => h.closesWord)

/-- Within a word, none begins. -/
theorem varWord_of_isWord {c : Char} (hc : isWord c = true) (cs : List Char) :
    varWord (some c) cs = false := by
  have hopens : opensWord (some c) = false := by rw [opensWord, hc]; rfl
  exact Bool.and_eq_false_imp.2 fun h => absurd (hopens.symm.trans h) (by decide)

theorem countPlaces_varWord_behind (rest : List Char) :
    countPlaces varWord (some 'r') rest = countPlaces varWord (some 't') rest := by
  have hr := varWord_of_isWord (c := 'r') (by decide) rest
  have ht := varWord_of_isWord (c := 't') (by decide) rest
  cases rest with
  | nil => rw [countPlaces, countPlaces, hr, ht]
  | cons c rest => rw [countPlaces, countPlaces, hr, ht]

theorem countPlaces_varWord_append {rest : List Char} (front : List Char) (previous : Option Char)
    (hopens : opensWord (front.getLast?.or previous) = true) (hcloses : closesWord rest = true) :
    countPlaces varWord previous (front ++ ("var".toList ++ rest))
      = countPlaces varWord previous (front ++ ("const".toList ++ rest)) + 1 := by
  induction front generalizing previous with
  | nil =>
    have hword : varWord previous ("var".toList ++ rest) = true :=
      word_eq_true_iff.2 ⟨hopens, rest, rfl, hcloses⟩
    have hother : varWord previous ("const".toList ++ rest) = false := Bool.and_false _
    have hletters : ['v', 'a', 'c', 'o', 'n', 's'].all isWord = true := by decide
    have hwithin := fun c hc cs => varWord_of_isWord (List.all_eq_true.1 hletters c hc) cs
    simp only [List.forall_mem_cons] at hwithin
    obtain ⟨hv, ha, hc, ho, hn, hs, -⟩ := hwithin
    show (varWord previous ("var".toList ++ rest)).toNat + ((varWord (some 'v') _).toNat
        + ((varWord (some 'a') _).toNat + countPlaces varWord (some 'r') rest))
      = (varWord previous ("const".toList ++ rest)).toNat + ((varWord (some 'c') _).toNat
        + ((varWord (some 'o') _).toNat + ((varWord (some 'n') _).toNat
          + ((varWord (some 's') _).toNat + countPlaces varWord (some 't') rest)))) + 1
    rw [hword, hother, hv, ha, hc, ho, hn, hs, countPlaces_varWord_behind]
    simp [Nat.add_comm]
  | cons c front ih =>
    have hrenamed : Renamed (front ++ ("var".toList ++ rest)) (front ++ ("const".toList ++ rest)) :=
      (Renamed.word hcloses).append front
    rw [getLast?_cons_or] at hopens
    rw [List.cons_append, List.cons_append, countPlaces, countPlaces, ih (some c) hopens,
      varWord_cons hrenamed previous]
    exact (Nat.add_assoc _ _ _).symm

/-- **One word less** stands in the rewritten line. -/
theorem varCount_varToConst (h : Declares line) :
    varCount line = varCount (varToConst line) + 1 := by
  obtain ⟨before, rest, hat, heq⟩ := exists_firstWordAt_varToConst h.inLine_varWord
  rw [heq, hat.cut]
  exact countPlaces_varWord_append before none (by simpa using hat.opens) hat.closes

/-! ## What a line asks for

`IsClean` is about one line, and what follows it does not matter: the one rule that looks further
cannot be repaired. -/

/-- The line is left as it is. -/
def IsClean (line : List Char) : Prop := cleaned line = some line

theorem isClean_iff : IsClean line ↔ (isLineComment line = false →
    (inLine consoleLogCall line || inLine debuggerWord line) = false ∧ ¬ Declares line) := by
  rw [IsClean, cleaned]
  split
  · rename_i hcomment
    simp [hcomment]
  · rename_i hcomment
    split
    · rename_i hflagged
      simp [hcomment, hflagged]
    · rename_i hflagged
      split
      · rename_i hdeclares
        have hlength := length_varToConst hdeclares
        have hne : varToConst line ≠ line := fun heq => by
          rw [heq] at hlength
          omega
        simp [hcomment, hdeclares, hne]
      · rename_i hdeclares
        simp [hcomment, hflagged, hdeclares]

/-- What a line may still ask for after `n` rounds: for debugging only before the first of them, and
for a declaration only if the word has stood in it more often than that. -/
structure Settled (bound n : Nat) (line : List Char) : Prop where
  debugging : 1 ≤ n → isLineComment line = false →
    (inLine consoleLogCall line || inLine debuggerWord line) = false
  declares : isLineComment line = false → Declares line → varCount line + n ≤ bound

/-- Nothing is asked of the empty line. -/
theorem settled_nil (bound n : Nat) : Settled bound n [] where
  debugging _ _ := by decide
  declares _ h := absurd h (by decide)

/-- **One round** on one line. -/
theorem Settled.cleaned (h : Settled bound n line) (himage : cleaned line = some image) :
    Settled bound (n + 1) image := by
  rcases cleaned_cases himage with rfl | ⟨hcomment, hflagged, hdeclares, rfl⟩
  · have hclean := isClean_iff.1 himage
    exact ⟨fun _ hcomment => (hclean hcomment).1, fun hcomment hdeclares =>
      absurd hdeclares (hclean hcomment).2⟩
  · have hword := hdeclares.inLine_varWord
    refine ⟨fun _ _ => ?_, fun _ _ => ?_⟩
    · rw [overlooks_consoleLogCall.inLine_varToConst hword,
        overlooks_debuggerWord.inLine_varToConst hword]
      exact hflagged
    · have hcount := varCount_varToConst hdeclares
      have hbound := h.declares hcomment hdeclares
      omega

/-- After as many rounds as the word stands in it, a line is clean. -/
theorem Settled.isClean (h : Settled bound n line) (hn : 1 ≤ n) (hbound : bound ≤ n) :
    IsClean line := by
  refine isClean_iff.2 fun hcomment => ⟨h.debugging hn hcomment, fun hdeclares => ?_⟩
  have hcount := varCount_pos hdeclares
  have hle := h.declares hcomment hdeclares
  omega

/-! ## Rounds

A line after some rounds was a line before each of them, or it is the empty line of a text of which
nothing was left. -/

/-- A line of a text that was cleaned up is what became of one of its lines. -/
theorem mem_lines_cleanUp (h : image ∈ lines (cleanUp path text).1.toList) :
    image = [] ∨ ∃ line ∈ lines text.toList, cleaned line = some image := by
  rw [lines_cleanUp, map_cleanedLines] at h
  split at h
  · exact .inl (List.mem_singleton.1 h)
  · exact .inr (List.mem_filterMap.1 h)

/-- The text after so many rounds. -/
def cleanedUp (path : String) (n : Nat) (text : String) : String :=
  (fun text => (cleanUp path text).1)^[n] text

theorem settled_cleanedUp (path text : String) (n : Nat) :
    ∀ line ∈ lines (cleanedUp path n text).toList, Settled (mostVars text) n line := by
  induction n with
  | zero => exact fun line hline => ⟨fun h => absurd h (by decide), fun _ _ =>
      varCount_le_mostVars hline⟩
  | succ n ih =>
    intro image himage
    rw [cleanedUp, Function.iterate_succ_apply'] at himage
    rcases mem_lines_cleanUp himage with rfl | ⟨line, hline, hcleaned⟩
    · exact settled_nil _ _
    · exact (ih line hline).cleaned hcleaned

theorem filterMap_cleaned_eq_self_iff :
    ls.filterMap cleaned = ls ↔ ∀ line ∈ ls, IsClean line := by
  induction ls with
  | nil => simp
  | cons line ls ih =>
    rw [List.forall_mem_cons, ← ih, IsClean, List.filterMap_cons]
    split
    · rename_i hdropped
      have hlength := List.length_filterMap_le cleaned ls
      refine iff_of_false (fun heq => ?_) (by simp [hdropped])
      rw [heq, List.length_cons] at hlength
      omega
    · rename_i image himage
      rw [List.cons.injEq, himage, Option.some.injEq]

/-- **Nothing is applied** exactly if every line is clean. -/
theorem cleanUp_snd_eq_zero_iff_isClean :
    (cleanUp path text).2 = 0 ↔ ∀ line ∈ lines text.toList, IsClean line := by
  rw [cleanUp_snd_eq_zero_iff, map_cleanedLines, filterMap_cleaned_eq_self_iff]

/-- A line is clean if no rule flags it that can be repaired. -/
theorem isClean_iff_flags (path : String) (line : List Char) (following : List (List Char)) :
    IsClean line ↔
      ∀ r ∈ defaults, r.autoFixable = true → r.flags path line following = false := by
  have hrules : (defaults.filter (·.autoFixable)) = [noConsoleLog, noVar, noDebugger] := rfl
  have hflags : (∀ r ∈ defaults, r.autoFixable = true → r.flags path line following = false) ↔
      ∀ r ∈ [noConsoleLog, noVar, noDebugger], r.flags path line following = false := by
    rw [← hrules]
    simp only [List.mem_filter, and_imp]
  rw [hflags, isClean_iff, ← isVarDeclaration_iff]
  simp only [List.forall_mem_cons, flags_eq_of_flagsCode (rfl : noConsoleLog.flags = _),
    flags_eq_of_flagsCode (rfl : noVar.flags = _),
    flags_eq_of_flagsCode (rfl : noDebugger.flags = _), isVarDeclaration]
  cases isLineComment line
  · simp only [Bool.or_eq_false_iff, Bool.not_eq_true]
    tauto
  · simp

/-- **Nothing can be repaired** exactly if every line is clean. -/
theorem autoFixable_eq_false_iff : (∀ f ∈ scanText text path, f.autoFixable = false) ↔
    ∀ line ∈ lines text.toList, IsClean line := by
  constructor
  · intro hnone line hline
    obtain ⟨before, following, hcut⟩ := List.append_of_mem hline
    refine (isClean_iff_flags path line following).2 fun r hr hfixable => ?_
    refine Bool.eq_false_iff.2 fun hflags => ?_
    have hfound := hnone _ (mem_scanText.2
      ⟨r, hr, mem_findingsFrom.2 ⟨before, line, following, hcut, hflags, rfl⟩⟩)
    exact absurd (hfixable.symm.trans hfound) (by decide)
  · intro hclean f hf
    obtain ⟨r, hr, hfound⟩ := mem_scanText.1 hf
    obtain ⟨before, line, following, hcut, hflags, rfl⟩ := mem_findingsFrom.1 hfound
    have hline : line ∈ lines text.toList := by rw [hcut]; simp
    have hnot := (isClean_iff_flags path line following).1 (hclean line hline) r hr
    exact Bool.eq_false_iff.2 fun hfixable =>
      absurd (hflags.symm.trans (hnot hfixable)) (by decide)

/-- **Cleaning up comes to an end.**  A round applies nothing exactly if the scan finds nothing that
can be repaired, and then the text stays as it is.  Such a text is reached after as many rounds as
the word `var` stands in one line of the text, or after one round. -/
theorem cleanUp_converges (path : String) :
    (∀ text, ((cleanUp path text).2 = 0 ↔ ∀ f ∈ scanText text path, f.autoFixable = false) ∧
      ((cleanUp path text).2 = 0 → (cleanUp path text).1 = text)) ∧
      ∀ text, ∃ n ≤ max 1 (mostVars text), (cleanUp path (cleanedUp path n text)).2 = 0 := by
  refine ⟨fun text => ⟨?_, fun hzero => ?_⟩, fun text => ?_⟩
  · rw [cleanUp_snd_eq_zero_iff_isClean, autoFixable_eq_false_iff]
  · exact cleanUp_fst_eq_iff.2 (cleanUp_snd_eq_zero_iff.1 hzero)
  · refine ⟨max 1 (mostVars text), le_rfl, cleanUp_snd_eq_zero_iff_isClean.2 fun line hline => ?_⟩
    exact (settled_cleanedUp path text _ line hline).isClean (le_max_left _ _) (le_max_right _ _)

end CodeReview.Rule
