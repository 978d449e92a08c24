import CodeReview.Proofs.Rule.Repairing
import CodeReview.Proofs.Rule.Scanning

/-!
# Repairing what a scan has found

A scan that is repaired at once (`cleanUp`) does the same thing to every line (`cleaned`): a line
comment stays, a line that shows debugging is dropped, and a declaration with `var` is rewritten,
once.  The round trip through findings is gone from this description, which is what makes it
useful: `cleaned` is a function of a line, where `cleanUp` scans a text, sorts what it finds, and
repairs from the last line to the first.

From findings to lines it goes in two steps.  How many findings ask for a line, and on behalf of
which category, can be counted rule by rule (`countP_asks_scan`); and what so many findings leave
of a line is known from the repair itself (`repairedLine_scanText`).

At the end stands a remark on what "rewritten" means.  A line is rewritten because it declares with
`var`, but the word that is replaced is the first `var` of the line, which may be another one: the
name of a property, say.  `cleanUp_rewrites_first` tells the two cases apart.
-/

set_option autoImplicit false

namespace CodeReview.Rule

open CodeReview.Text Pattern

variable {r : Rule} {path text : String} {line : List Char} {number i : Nat}

/-- A text with what the rules find in it repaired, and the number of repairs. -/
def cleanUp (path text : String) : String × Nat := applyFixes text (scanText text path)

/-- What becomes of a line. -/
def cleaned (line : List Char) : Option (List Char) :=
  if isLineComment line then some line
  else if inLine consoleLogCall line || inLine debuggerWord line then none
  else if Declares line then some (varToConst line)
  else some line

/-! ## How many findings ask for a line

A rule flags a line or does not, so it has one finding of it or none.  Rules of one category that
can be repaired are counted together. -/

/-- The rule flags the line at this position. -/
def flagsAt (r : Rule) (path : String) (ls : List (List Char)) (i : Nat) : Bool :=
  ls[i]?.any fun line => r.flags path line (ls.drop (i + 1))

/-- **A rule has one finding** of a line that it flags, and none of another. -/
theorem countP_line_findingsFrom (r : Rule) (path : String) (number : Nat) (ls : List (List Char))
    (i : Nat) : (r.findingsFrom path number ls).countP (·.line == number + i)
      = (r.flagsAt path ls i).toNat := by
  induction ls generalizing number i with
  | nil => rfl
  | cons line ls ih =>
    have hfirst : (r.finding path number line).line = number := rfl
    rw [findingsFrom]
    cases i with
    | zero =>
      have hlater : (r.findingsFrom path (number + 1) ls).countP (·.line == number + 0) = 0 := by
        refine List.countP_eq_zero.2 fun f hf => ?_
        have hline := (of_mem_findingsFrom hf).2.2
        rw [beq_iff_eq]
        omega
      have hflags : r.flagsAt path (line :: ls) 0 = r.flags path line ls := rfl
      rw [hflags]
      split
      · rename_i h
        rw [List.countP_cons_of_pos (by simp [hfirst]), hlater, h]
        rfl
      · rename_i h
        rw [hlater, Bool.eq_false_iff.2 h]
        rfl
    | succ i =>
      have hrest : (r.findingsFrom path (number + 1) ls).countP (·.line == number + (i + 1))
          = (r.flagsAt path (line :: ls) (i + 1)).toNat := by
        rw [Nat.add_left_comm, Nat.add_comm i]
        exact ih (number + 1) i
      split
      · rw [List.countP_cons_of_neg (by simp [hfirst]), hrest]
      · exact hrest

/-- What a rule asks for, it asks for on behalf of its category. -/
theorem countP_asks_findings (r : Rule) (category text path : String) (i : Nat) :
    (r.findings text path).countP (asks category (i + 1))
      = if r.autoFixable && r.category == category then
          (r.flagsAt path (lines text.toList) i).toNat
        else 0 := by
  have hasks : ∀ f ∈ r.findings text path, asks category (i + 1) f = true ↔
      (r.autoFixable && r.category == category) = true ∧ (f.line == 1 + i) = true := by
    intro f hf
    obtain ⟨before, line, following, -, -, rfl⟩ := mem_findingsFrom.1 hf
    simp only [asks, finding, Bool.and_eq_true, Nat.add_comm i]
    tauto
  split
  · rename_i h
    rw [← countP_line_findingsFrom, findings]
    exact List.countP_congr fun f hf => (hasks f hf).trans (and_iff_right h)
  · rename_i h
    exact List.countP_eq_zero.2 fun f hf hasked => h ((hasks f hf).1 hasked).1

/-- **Findings that ask for a line,** on behalf of a category. -/
theorem countP_asks_scan (rules : List Rule) (category text path : String) (i : Nat) :
    (scan rules text path).countP (asks category (i + 1))
      = (rules.filter fun r => r.autoFixable && r.category == category).countP
          (flagsAt · path (lines text.toList) i) := by
  rw [scan, (Finding.sort_perm _).countP_eq]
  induction rules with
  | nil => rfl
  | cons r rules ih =>
    rw [List.flatMap_cons, List.countP_append, ih, countP_asks_findings, List.filter_cons]
    split
    · rw [List.countP_cons, Nat.add_comm]
      cases r.flagsAt path (lines text.toList) i <;> rfl
    · rw [Nat.zero_add]

/-! ## What is asked of a line

Three rules can be repaired, and two of them drop the line.  The one for declarations asks for one
rewriting, so a line is rewritten once in a round however many declarations are in it. -/

theorem flagsAt_of_getElem? (r : Rule) {ls : List (List Char)} (h : ls[i]? = some line) :
    r.flagsAt path ls i = r.flags path line (ls.drop (i + 1)) := by
  rw [flagsAt, h, Option.any_some]

/-- A rule about code looks for its pattern in lines that are no comments. -/
theorem flags_eq_of_flagsCode {pattern : Place} (h : r.flags = flagsCode pattern) (path : String)
    (line : List Char) (following : List (List Char)) :
    r.flags path line following = (!isLineComment line && inLine pattern line) := by
  rw [h, flagsCode]

/-- The rules of debugging ask for lines that show it. -/
theorem showsDebugging_of_flagged
    (h : (inLine consoleLogCall line || inLine debuggerWord line) = true) :
    ShowsDebugging line := by
  refine isDebugging_iff.1 ?_
  rw [Bool.or_eq_true] at h
  rw [isDebugging, Bool.or_eq_true]
  refine h.imp_left fun hcall => ?_
  obtain ⟨before, here, hcut, hplace⟩ := inLine_iff.1 hcall
  obtain ⟨rest, hrest, -⟩ := (Option.any_eq_true _ _).1 hplace
  exact inLine_iff.2 ⟨before, here, hcut, Option.isSome_of_mem hrest⟩

/-- **What the findings of a scan leave of a line.** -/
theorem repairedLine_scanText (path : String) (h : (lines text.toList)[i]? = some line) :
    repairedLine (scanText text path) (i + 1) line = cleaned line := by
  have hquality : (scanText text path).any (asks "Code Quality" (i + 1))
      = (!isLineComment line && (inLine consoleLogCall line || inLine debuggerWord line)) := by
    have hpos : (scanText text path).any (asks "Code Quality" (i + 1)) = true ↔
        0 < (scanText text path).countP (asks "Code Quality" (i + 1)) := by
      rw [List.any_eq_true, List.countP_pos_iff]
    have hrules : (defaults.filter fun r => r.autoFixable && r.category == "Code Quality")
        = [noConsoleLog, noDebugger] := rfl
    rw [Bool.eq_iff_iff, hpos, scanText, countP_asks_scan, hrules, List.countP_pos_iff]
    simp only [List.mem_cons, List.not_mem_nil, or_false, exists_eq_or_imp, exists_eq_left,
      flagsAt_of_getElem? _ h, flags_eq_of_flagsCode (rfl : noConsoleLog.flags = _),
      flags_eq_of_flagsCode (rfl : noDebugger.flags = _)]
    cases isLineComment line <;> cases inLine consoleLogCall line <;>
      cases inLine debuggerWord line <;> decide
  have hpractices : (scanText text path).countP (asks "Best Practices" (i + 1))
      = (!isLineComment line && isVarDeclaration line).toNat := by
    have hrules : (defaults.filter fun r => r.autoFixable && r.category == "Best Practices")
        = [noVar] := rfl
    rw [scanText, countP_asks_scan, hrules, List.countP_singleton, flagsAt_of_getElem? _ h,
      flags_eq_of_flagsCode (rfl : noVar.flags = _), isVarDeclaration]
    cases !isLineComment line && inLine varDeclaration line <;> rfl
  rw [repairedLine, hquality, hpractices, cleaned]
  cases hcomment : isLineComment line with
  | true => rfl
  | false =>
    cases hflagged : inLine consoleLogCall line || inLine debuggerWord line with
    | true => exact if_pos ⟨rfl, showsDebugging_of_flagged hflagged⟩
    | false =>
      cases hdeclares : isVarDeclaration line with
      | true => simp [rewritten, isVarDeclaration_iff.1 hdeclares]
      | false =>
        have hnot : ¬ Declares line := fun hdeclared =>
          Bool.eq_false_iff.1 hdeclares (isVarDeclaration_iff.2 hdeclared)
        simp [rewritten, hnot]

/-! ## The text

The lines that are left keep the number that they had, so that a line can be traced to where it
was. If no line is left the text is empty, and then it has one line, an empty one. -/

/-- The lines that are left of a text, each under the number that it had. -/
def cleanedLines (text : String) : List (Nat × List Char) :=
  ((lines text.toList).zipIdx 1).filterMap fun p => (cleaned p.1).map fun line => (p.2, line)

theorem survivors_scanText (text path : String) :
    survivors (scanText text path) text = cleanedLines text := by
  refine List.filterMap_congr fun p hp => ?_
  obtain ⟨line, number⟩ := p
  obtain ⟨hle, hline⟩ := List.mk_mem_zipIdx_iff_le_and_getElem?_sub.1 hp
  obtain ⟨i, rfl⟩ := Nat.exists_eq_add_of_le' hle
  rw [repairedLine_scanText (i := i) path hline]

theorem map_cleanedLines (text : String) :
    (cleanedLines text).map Prod.snd = (lines text.toList).filterMap cleaned := by
  conv_rhs => rw [← List.zipIdx_map_fst 1 (lines text.toList), List.filterMap_map]
  rw [cleanedLines, List.map_filterMap]
  refine List.filterMap_congr fun p _ => ?_
  rw [Option.map_map]
  exact Option.map_id'

theorem mem_cleanedLines_iff {p : Nat × List Char} : p ∈ cleanedLines text ↔
    ∃ i line, (lines text.toList)[i]? = some line ∧ p.1 = i + 1 ∧ cleaned line = some p.2 := by
  rw [← survivors_scanText text "", mem_survivors_iff]
  refine exists_congr fun i => exists_congr fun line => and_congr_right fun hline => ?_
  rw [repairedLine_scanText "" hline]

theorem cleanUp_fst (path text : String) : (cleanUp path text).1
    = String.ofList (unlines ((cleanedLines text).map Prod.snd)) := by
  rw [cleanUp, applyFixes_fst, survivors_scanText]

theorem cleanUp_snd_eq_zero_iff : (cleanUp path text).2 = 0 ↔
    (cleanedLines text).map Prod.snd = lines text.toList := by
  rw [cleanUp, applyFixes_snd_eq_zero_iff, survivors_scanText]

theorem cleanUp_fst_eq_iff : (cleanUp path text).1 = text ↔
    (cleanedLines text).map Prod.snd = lines text.toList := by
  rw [cleanUp, applyFixes_fst_eq_iff, survivors_scanText]

/-- **The lines of a text that was cleaned up** are the lines that are left, if there are any. -/
theorem lines_cleanUp (path text : String) : lines (cleanUp path text).1.toList
    = if cleanedLines text = [] then [[]] else (cleanedLines text).map Prod.snd := by
  rw [cleanUp_fst, String.toList_ofList]
  split
  · rename_i hnone
    rw [hnone]
    rfl
  · rename_i hleft
    rw [← survivors_scanText text path] at hleft ⊢
    exact lines_unlines_survivors hleft

/-! ## Rewritten declarations

The first word `var` of a line and its first declaration need not be at one place. -/

/-- A line that is left is as it was, or it declared with `var` and was rewritten. -/
theorem cleaned_cases {image : List Char} (h : cleaned line = some image) :
    image = line ∨ isLineComment line = false ∧
      (inLine consoleLogCall line || inLine debuggerWord line) = false ∧ Declares line ∧
        image = varToConst line := by
  rw [cleaned] at h
  split at h
  · exact .inl (Option.some.inj h).symm
  · rename_i hcomment
    split at h
    · cases h
    · rename_i hflagged
      split at h
      · rename_i hdeclares
        exact .inr ⟨Bool.eq_false_iff.2 hcomment, Bool.eq_false_iff.2 hflagged, hdeclares,
          (Option.some.inj h).symm⟩
      · exact .inl (Option.some.inj h).symm

/-- **A pattern that overlooks the word** is found in a line that is left if it was in the line. -/
theorem Overlooks.inLine_cleaned {pattern : Place} {image : List Char} (hp : Overlooks pattern)
    (h : cleaned line = some image) : inLine pattern image = inLine pattern line := by
  rcases cleaned_cases h with rfl | ⟨-, -, hdeclares, rfl⟩
  · rfl
  · exact hp.inLine_varToConst hdeclares.inLine_varWord

theorem isLineComment_cleaned {image : List Char} (h : cleaned line = some image) :
    isLineComment image = isLineComment line := by
  rcases cleaned_cases h with rfl | ⟨-, -, hdeclares, rfl⟩
  · rfl
  · exact isLineComment_varToConst hdeclares.inLine_varWord

/-- **Which `var` is rewritten.**  Let a line be left of a text, and let it be changed.  It declared
with `var`, and its first word `var` has become `const`.  So a declaration was rewritten exactly if
that word is followed by blanks and a name; else another word was, and the declaration behind it
stands as it did. -/
theorem cleanUp_rewrites_first (path text : String) :
    (cleanUp path text).1 = String.ofList (unlines ((cleanedLines text).map Prod.snd)) ∧
      ∀ i line image, (lines text.toList)[i]? = some line → (i + 1, image) ∈ cleanedLines text →
        image ≠ line →
        Declares line ∧ ∃ before rest, FirstWordAt "var" line before rest ∧
          image = before ++ ("const".toList ++ rest) ∧
          ((∃ before' rest', DeclarationAt line before' rest' ∧
            image = before' ++ ("const".toList ++ rest')) ↔ OpensName rest) := by
  refine ⟨cleanUp_fst path text, fun i line image hline hleft hchanged => ?_⟩
  obtain ⟨j, line', hline', hj, himage⟩ := mem_cleanedLines_iff.1 hleft
  obtain rfl : i = j := Nat.succ.inj hj
  obtain rfl : line = line' := Option.some.inj (hline.symm.trans hline')
  obtain ⟨-, -, hdeclares, rfl⟩ := (cleaned_cases himage).resolve_left hchanged
  obtain ⟨before, rest, hat, heq⟩ := exists_firstWordAt_varToConst hdeclares.inLine_varWord
  refine ⟨hdeclares, before, rest, hat, heq, ?_⟩
  constructor
  · rintro ⟨before', rest', hdeclaration, heq'⟩
    obtain ⟨rfl, rfl⟩ := cut_unique (hat.cut.symm.trans hdeclaration.cut) (heq.symm.trans heq')
    exact hdeclaration.name
  · intro hname
    exact ⟨before, rest, ⟨hat.cut, hat.opens, hname⟩, heq⟩

/-- **A property is renamed** in place of the declaration behind it. -/
theorem cleanUp_renames_property :
    let line := "x.var = 1; var y".toList
    let image := "x.const = 1; var y".toList
    (cleanUp "a.js" "x.var = 1; var y").1 = "x.const = 1; var y" ∧
      cleanedLines "x.var = 1; var y" = [(1, image)] ∧
      ¬ ∃ before rest, DeclarationAt line before rest ∧
        image = before ++ ("const".toList ++ rest) := by
  intro line image
  refine ⟨?_, by decide +kernel, ?_⟩
  · rw [cleanUp_fst]
    decide +kernel
  · rintro ⟨before, rest, hdeclaration, heq⟩
    have hcut : line = "x.".toList ++ ("var".toList ++ " = 1; var y".toList) := rfl
    have hrenamed : image = "x.".toList ++ ("const".toList ++ " = 1; var y".toList) := rfl
    obtain ⟨-, rfl⟩ := cut_unique (hcut.symm.trans hdeclaration.cut) (hrenamed.symm.trans heq)
    exact absurd hdeclaration.name (by decide +kernel)

end CodeReview.Rule
