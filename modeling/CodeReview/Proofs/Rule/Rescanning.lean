import CodeReview.Proofs.Rule.Cleaning

/-!
# Scanning what was cleaned up

After the fixes a text may be scanned again, and one expects to find less.  Every rule but one
looks at a line for itself, and sees in a line that was left what it saw before, if that much
(`flags_of_cleaned`).  The rule of empty catch blocks looks at the lines that follow.  A block that
held nothing but debugging is empty once that is dropped (`Emptied`), and is found then, where it
was not found before.

These blocks are all.  `scanText_cleanUp` has both directions: what is found in a text that was
cleaned up was found before or is a block of this kind, and every block of this kind is found, if
the line that opens it is left.

To compare the two scans one has to know which line became which.  The lines that are left carry
the number that they had (`cleanedLines`), so a line of the new text is traced to one of the old,
and the lines that follow it to what is left of the lines that followed that
(`origin_of_cleanedLines`).
## What is here

* `exists_finding_iff` — findings and flags;
* `origin_of_cleanedLines` — where a line of the new text comes from;
* `flags_of_cleaned` — the rules that look at one line;
* `IsBare` — lines that close a block, which cleaning up leaves alone;
* `ClosesBehind`, `Emptied`, `flags_noEmptyCatch_cleaned_iff` — the rule that looks further;
* `scanText_cleanUp` — the two scans compared.
-/

set_option autoImplicit false

namespace CodeReview.Rule

open CodeReview.Text Pattern

variable {r : Rule} {path text : String} {line image : List Char} {ls following : List (List Char)}
  {i k : Nat}

/-! ## Which rule made a finding

The message of a finding tells its rule, so whether a line has a finding with that message is
whether the rule flags it. -/

/-- **A rule's message stands at a line** exactly if the rule flags it. -/
theorem exists_finding_iff (hr : r ∈ defaults) :
    (∃ f ∈ scanText text path, f.line = i + 1 ∧ f.message = r.message) ↔
      r.flagsAt path (lines text.toList) i = true := by
  constructor
  · rintro ⟨f, hf, hline, hmessage⟩
    obtain ⟨r', hr', hfound⟩ := mem_scanText.1 hf
    obtain ⟨before, line, following, hcut, hflags, rfl⟩ := mem_findingsFrom.1 hfound
    obtain rfl : r' = r := List.inj_on_of_nodup_map nodup_message_defaults hr' hr hmessage
    obtain rfl : before.length = i := by
      have hnumber : 1 + before.length = i + 1 := hline
      omega
    simpa [flagsAt, hcut] using hflags
  · intro hflags
    obtain ⟨line, hline, hflags⟩ := (Option.any_eq_true _ _).1 hflags
    obtain ⟨hlt, hget⟩ := List.getElem?_eq_some_iff.1 hline
    have hcut : lines text.toList = (lines text.toList).take i ++
        line :: (lines text.toList).drop (i + 1) := by
      rw [← hget, List.getElem_cons_drop, List.take_append_drop]
    have hnumber : 1 + ((lines text.toList).take i).length = i + 1 := by
      rw [List.length_take, Nat.min_eq_left hlt.le, Nat.add_comm]
    refine ⟨r.finding path (i + 1) line, mem_scanText.2 ⟨r, hr, ?_⟩, rfl, rfl⟩
    exact mem_findingsFrom.2 ⟨_, line, _, hcut, hflags, by rw [hnumber]⟩

/-! ## Where a line comes from

If no line is left the text has one line all the same, which is empty; no rule flags it, so a
flagged line was a line of the text. -/

/-- A value kept from a list, where it comes from, and what was kept behind it. -/
theorem exists_origin {α β : Type} {f : α → Option β} (l : List α) {n k m : Nat} {b : β}
    (h : ((l.zipIdx n).filterMap fun p => (f p.1).map fun b => (p.2, b))[k]? = some (m, b)) :
    ∃ i a, m = n + i ∧ l[i]? = some a ∧ f a = some b ∧
      ((l.filterMap f).drop (k + 1)) = (l.drop (i + 1)).filterMap f := by
  -- `k` counts what was kept, `i` everything
  induction l generalizing n k with
  | nil => cases h
  | cons a l ih =>
    rw [List.zipIdx_cons, List.filterMap_cons] at h
    rw [List.filterMap_cons]
    cases hfirst : f a with
    | none =>
      simp only [hfirst, Option.map_none] at h
      obtain ⟨i, a', rfl, hget, ha', hdrop⟩ := ih h
      exact ⟨i + 1, a', by omega, hget, ha', hdrop⟩
    | some b' =>
      simp only [hfirst, Option.map_some] at h
      cases k with
      | zero =>
        obtain ⟨rfl, rfl⟩ : n = m ∧ b' = b := by simpa using h
        exact ⟨0, a, rfl, rfl, hfirst, rfl⟩
      | succ k =>
        obtain ⟨i, a', rfl, hget, ha', hdrop⟩ := ih h
        exact ⟨i + 1, a', by omega, hget, ha', hdrop⟩

/-- **A line that is left,** with the line that it was, and the lines that follow the two. -/
theorem origin_of_cleanedLines (path : String)
    (h : (cleanedLines text)[k]? = some (i + 1, image)) :
    ∃ line, (lines text.toList)[i]? = some line ∧ cleaned line = some image ∧
      (lines (cleanUp path text).1.toList)[k]? = some image ∧
      (lines (cleanUp path text).1.toList).drop (k + 1)
        = ((lines text.toList).drop (i + 1)).filterMap cleaned := by
  obtain ⟨j, line, hj, hline, himage, hdrop⟩ := exists_origin _ h
  obtain rfl : i = j := by omega
  have hleft : cleanedLines text ≠ [] := by
    intro hnone
    rw [hnone] at h
    cases h
  refine ⟨line, hline, himage, ?_⟩
  rw [lines_cleanUp, if_neg hleft]
  refine ⟨by rw [List.getElem?_map, h, Option.map_some], ?_⟩
  rw [map_cleanedLines, hdrop]

/-- No rule flags the empty line. -/
theorem flags_nil (hr : r ∈ defaults) (path : String) (following : List (List Char)) :
    r.flags path [] following = false := by
  have hall : ∀ r ∈ defaults, r.flags path [] following = false := by
    simp only [defaults, List.forall_mem_cons]
    exact ⟨rfl, rfl, rfl, Bool.and_false _, rfl, rfl, rfl, rfl, by simp⟩
  exact hall r hr

/-- A line that is flagged was a line of the text. -/
theorem exists_cleanedLines_of_flagsAt (hr : r ∈ defaults)
    (h : r.flagsAt path (lines (cleanUp path text).1.toList) k = true) :
    ∃ i image, (cleanedLines text)[k]? = some (i + 1, image) := by
  obtain ⟨image, himage, hflags⟩ := (Option.any_eq_true _ _).1 h
  have hempty : image ≠ [] := by
    rintro rfl
    rw [flags_nil hr] at hflags
    cases hflags
  rw [lines_cleanUp] at himage
  split at himage
  · obtain rfl : image = [] := List.mem_singleton.1 (List.mem_of_getElem? himage)
    exact absurd rfl hempty
  · rw [List.getElem?_map] at himage
    obtain ⟨⟨number, _⟩, hget, rfl⟩ := Option.map_eq_some_iff.1 himage
    obtain ⟨i, line, -, hnumber, -⟩ := mem_cleanedLines_iff.1 (List.mem_of_getElem? hget)
    obtain rfl : number = i + 1 := hnumber
    exact ⟨i, _, hget⟩

/-! ## One line for itself

The patterns of these rules overlook the rewritten word, and the rule for declarations is the one
that it was rewritten for. -/

/-- **What a rule sees in a line that is left,** it saw in the line that it was, empty catch blocks
apart. -/
theorem flags_of_cleaned (hr : r ∈ defaults) (hcatch : r ≠ noEmptyCatch)
    (hcleaned : cleaned line = some image) {following' : List (List Char)}
    (h : r.flags path image following' = true) : r.flags path line following = true := by
  have hcomment := isLineComment_cleaned hcleaned
  have hvar : inLine varDeclaration image = true → inLine varDeclaration line = true := by
    intro himage
    rcases cleaned_cases hcleaned with rfl | ⟨-, -, hdeclares, rfl⟩
    · exact himage
    · exact isVarDeclaration_iff.2 hdeclares
  have hcode : ∀ {pattern : Place}, Overlooks pattern →
      flagsCode pattern path line following = flagsCode pattern path image following' := by
    intro pattern hpattern
    show (!isLineComment line && inLine pattern line)
      = (!isLineComment image && inLine pattern image)
    rw [hcomment, hpattern.inLine_cleaned hcleaned]
  simp only [defaults, List.mem_cons, List.not_mem_nil, or_false] at hr
  rcases hr with rfl | rfl | rfl | rfl | rfl | rfl | rfl | rfl
  · exact (overlooks_evalCall.inLine_cleaned hcleaned).symm.trans h
  · exact (hcode overlooks_consoleLogCall).trans h
  · obtain ⟨hnone, himage⟩ := Bool.and_eq_true_iff.1 h
    exact Bool.and_eq_true_iff.2 ⟨hcomment ▸ hnone, hvar himage⟩
  · obtain ⟨hending, himage⟩ := Bool.and_eq_true_iff.1 h
    exact Bool.and_eq_true_iff.2 ⟨hending, (hcode overlooks_anyType).trans himage⟩
  · exact absurd rfl hcatch
  · exact (hcode overlooks_credential).trans h
  · exact (overlooks_todoComment.inLine_cleaned hcleaned).symm.trans h
  · exact (hcode overlooks_debuggerWord).trans h

/-! ## Lines without letters

A block is closed by a line with nothing but a brace in it.  Such a line is neither dropped nor
rewritten, and no other line becomes one. -/

theorem mem_dropWhile_of_not {p : Char → Bool} {c : Char} {cs : List Char} (h : c ∈ cs)
    (hc : p c = false) : c ∈ cs.dropWhile p := by
  rw [← List.takeWhile_append_dropWhile (p := p) (l := cs), List.mem_append] at h
  refine h.resolve_left fun hmem => ?_
  exact Bool.eq_false_iff.1 hc (List.mem_takeWhile_imp hmem)

theorem mem_trim {c : Char} (h : c ∈ line) (hc : isBlank c = false) : c ∈ trim line :=
  List.mem_reverse.2 (mem_dropWhile_of_not
    (List.mem_reverse.2 (mem_dropWhile_of_not h hc)) hc)

/-- The line has no character but blanks and a closing brace. -/
def IsBare (line : List Char) : Prop := ∀ c ∈ line, isBlank c = true ∨ c = '\x7d'

theorem isBare_of_isAllBlank (h : isAllBlank line = true) : IsBare line := fun _ hc =>
  .inl (List.all_eq_true.1 h _ hc)

theorem isBare_of_trim (h : trim line = ['\x7d']) : IsBare line := by
  intro c hc
  cases hblank : isBlank c with
  | true => exact .inl rfl
  | false => exact .inr (List.mem_singleton.1 (h ▸ mem_trim hc hblank))

theorem not_isAllBlank_of_trim (h : trim line = ['\x7d']) : ¬ isAllBlank line = true := by
  intro hblank
  rw [trim_eq_nil_of_isAllBlank hblank] at h
  cases h

theorem IsBare.not_mem (h : IsBare line) {c : Char} (hc : isWord c = true) : c ∉ line := by
  intro hmem
  rcases h c hmem with hblank | rfl
  · rw [isWord_of_isBlank hblank] at hc
    cases hc
  · exact absurd hc (by decide)

/-- **A line without letters** stays as it is. -/
theorem IsBare.cleaned (h : IsBare line) : cleaned line = some line := by
  have hg := h.not_mem (c := 'g') (by decide)
  have hr := h.not_mem (c := 'r') (by decide)
  have hshows : ¬ ShowsDebugging line := by
    rintro (⟨before, rest, rfl⟩ | ⟨before, rest, hat⟩)
    · simp at hg
    · rw [hat.cut] at hg
      simp at hg
  have hdeclares : ¬ Declares line := by
    rintro ⟨before, rest, hdeclaration⟩
    rw [hdeclaration.cut] at hr
    simp at hr
  rw [Rule.cleaned, if_neg fun hflagged => hshows (showsDebugging_of_flagged hflagged),
    if_neg hdeclares, ite_self]

/-- No other line comes to it. -/
theorem IsBare.eq_of_cleaned (h : IsBare image) (hcleaned : Rule.cleaned line = some image) :
    image = line := by
  refine (cleaned_cases hcleaned).resolve_right ?_
  rintro ⟨-, -, hdeclares, rfl⟩
  obtain ⟨before, rest, -, heq⟩ := exists_firstWordAt_varToConst hdeclares.inLine_varWord
  have hc := h.not_mem (c := 'c') (by decide)
  rw [heq] at hc
  simp at hc

/-! ## Catch blocks

Between the line that opens a block and the one that closes it, a scan passes over blank lines, and
a scan of what was cleaned up over blank lines and dropped ones.  The difference between the two is
`Emptied`. -/

/-- The block ends in a line of its own, and what stands before that line is passed over. -/
def ClosesBehind (skipped : List Char → Prop) (ls : List (List Char)) : Prop :=
  ∃ between closing behind, ls = between ++ closing :: behind ∧
    (∀ line ∈ between, skipped line) ∧ trim closing = ['\x7d']

theorem closesNext_iff : closesNext ls = true ↔ ClosesBehind (isAllBlank · = true) ls := by
  rw [closesNext]
  constructor
  · intro h
    split at h
    · cases h
    · rename_i closing behind hrest
      refine ⟨ls.takeWhile isAllBlank, closing, behind, ?_, fun line hline =>
        List.mem_takeWhile_imp hline, beq_iff_eq.1 h⟩
      rw [← hrest, List.takeWhile_append_dropWhile]
  · rintro ⟨blanks, closing, behind, rfl, hblanks, hclosing⟩
    rw [List.dropWhile_append_of_pos hblanks,
      List.dropWhile_cons_of_neg (not_isAllBlank_of_trim hclosing)]
    exact beq_iff_eq.2 hclosing

/-- **Once cleaned up,** a block is closed next if all that is in the way is blank or dropped. -/
theorem closesNext_filterMap_cleaned_iff : closesNext (ls.filterMap cleaned) = true ↔
    ClosesBehind (fun line => isAllBlank line = true ∨ cleaned line = none) ls := by
  rw [closesNext_iff]
  constructor
  · rintro ⟨blanks, closing, behind, hcut, hblanks, hclosing⟩
    obtain ⟨front, back, rfl, hfront, hback⟩ := List.filterMap_eq_append_iff.1 hcut
    obtain ⟨dropped, line, rest, rfl, hdropped, hline, -⟩ := List.filterMap_eq_cons_iff.1 hback
    obtain rfl := (isBare_of_trim hclosing).eq_of_cleaned hline
    refine ⟨front ++ dropped, closing, rest, by rw [List.append_assoc], ?_, hclosing⟩
    intro line hmem
    rcases List.mem_append.1 hmem with hmem | hmem
    · cases himage : cleaned line with
      | none => exact .inr rfl
      | some image =>
        have hblank : isAllBlank image = true :=
          hblanks image (hfront ▸ List.mem_filterMap.2 ⟨line, hmem, himage⟩)
        obtain rfl := (isBare_of_isAllBlank hblank).eq_of_cleaned himage
        exact .inl hblank
    · exact .inr (hdropped line hmem)
  · rintro ⟨between, closing, behind, rfl, hbetween, hclosing⟩
    refine ⟨between.filterMap cleaned, closing, behind.filterMap cleaned, ?_, ?_, hclosing⟩
    · rw [List.filterMap_append, List.filterMap_cons_some (isBare_of_trim hclosing).cleaned]
    · intro image himage
      obtain ⟨line, hline, hcleaned⟩ := List.mem_filterMap.1 himage
      rcases hbetween line hline with hblank | hdropped
      · rw [(isBare_of_isAllBlank hblank).cleaned] at hcleaned
        exact Option.some.inj hcleaned ▸ hblank
      · rw [hdropped] at hcleaned
        cases hcleaned

/-- A catch block is opened in the line, and lines are dropped from it until none but blank ones
stand in it. -/
structure Emptied (line : List Char) (following : List (List Char)) : Prop where
  opens : inLine catchOpening line = true
  closes : ∃ between closing behind, following = between ++ closing :: behind ∧
    trim closing = ['\x7d'] ∧ (∀ line ∈ between, isAllBlank line = true ∨ cleaned line = none) ∧
    ∃ line ∈ between, cleaned line = none

/-- A block that is emptied was not empty. -/
theorem Emptied.closesNext (h : Emptied line following) : closesNext following = false := by
  obtain ⟨between, closing, behind, rfl, -, hbetween, line, hline, hdropped⟩ := h.closes
  refine Bool.eq_false_iff.2 fun hcloses => ?_
  obtain ⟨blanks, closing', behind', hcut, hblanks, hclosing'⟩ := closesNext_iff.1 hcloses
  have hnot : line ∉ blanks := fun hmem => by
    rw [(isBare_of_isAllBlank (hblanks line hmem)).cleaned] at hdropped
    cases hdropped
  -- either the dropped line is one of the blanks, or the line behind them is passed over itself
  rcases List.append_eq_append_iff.1 hcut with ⟨gap, rfl, -⟩ | ⟨gap, rfl, hgap⟩
  · exact hnot (List.mem_append_left _ hline)
  · cases gap with
    | nil => exact hnot (by simpa using hline)
    | cons first gap =>
      obtain ⟨rfl, -⟩ := List.cons.inj hgap
      rcases hbetween closing' (by simp) with hblank | hgone
      · exact not_isAllBlank_of_trim hclosing' hblank
      · rw [(isBare_of_trim hclosing').cleaned] at hgone
        cases hgone

/-- **Empty catch blocks** that are left were empty, or were emptied. -/
theorem flags_noEmptyCatch_cleaned_iff (hcleaned : cleaned line = some image) :
    noEmptyCatch.flags path image (following.filterMap cleaned) = true ↔
      noEmptyCatch.flags path line following = true ∨ Emptied line following := by
  have hsame := overlooks_catchOpening.inLine_cleaned hcleaned
  simp only [noEmptyCatch, flagsEmptyCatch, Bool.and_eq_true, hsame]
  rw [closesNext_filterMap_cleaned_iff, closesNext_iff]
  constructor
  · rintro ⟨hopens, between, closing, behind, hcut, hbetween, hclosing⟩
    by_cases hdropped : ∃ line ∈ between, cleaned line = none
    · exact .inr ⟨hopens, between, closing, behind, hcut, hclosing, hbetween, hdropped⟩
    · refine .inl ⟨hopens, between, closing, behind, hcut, fun line hline => ?_, hclosing⟩
      exact (hbetween line hline).resolve_right fun hnone => hdropped ⟨line, hline, hnone⟩
  · rintro (⟨hopens, between, closing, behind, hcut, hbetween, hclosing⟩ | ⟨hopens, hcloses⟩)
    · exact ⟨hopens, between, closing, behind, hcut, fun line hline => .inl (hbetween line hline),
        hclosing⟩
    · obtain ⟨between, closing, behind, hcut, hclosing, hbetween, -⟩ := hcloses
      exact ⟨hopens, between, closing, behind, hcut, hbetween, hclosing⟩

/-! ## The text

What holds of the lines is put together for the text, with the findings in place of the flags. -/

/-- **What a rule flags in a text that was cleaned up,** it flagged in the line it stems from, or
that line opens a catch block that was emptied. -/
theorem flagsAt_of_cleanUp (hr : r ∈ defaults) (h : (cleanedLines text)[k]? = some (i + 1, image))
    (hflags : r.flagsAt path (lines (cleanUp path text).1.toList) k = true) :
    r.flagsAt path (lines text.toList) i = true ∨ r = noEmptyCatch ∧
      ∃ line, (lines text.toList)[i]? = some line ∧
        Emptied line ((lines text.toList).drop (i + 1)) := by
  obtain ⟨line, hline, hcleaned, hget, hdrop⟩ := origin_of_cleanedLines path h
  rw [flagsAt_of_getElem? r hget, hdrop] at hflags
  rw [flagsAt_of_getElem? r hline]
  by_cases hcatch : r = noEmptyCatch
  · subst hcatch
    exact ((flags_noEmptyCatch_cleaned_iff hcleaned).1 hflags).imp_right fun hemptied =>
      ⟨rfl, line, hline, hemptied⟩
  · exact .inl (flags_of_cleaned hr hcatch hcleaned hflags)

/-- **Cleaning up leads to no new finding but of catch blocks that it empties.**  What is found in a
text that was cleaned up stems from a line of the text.  The same was found there; or it is an empty
catch block, and all that stood in it was dropped.  Where a block was emptied and its first line is
left, the finding is there, and was not before. -/
theorem scanText_cleanUp (path text : String) :
    (cleanUp path text).1 = String.ofList (unlines ((cleanedLines text).map Prod.snd)) ∧
      (∀ g ∈ scanText (cleanUp path text).1 path, ∃ i image,
        (cleanedLines text)[g.line - 1]? = some (i + 1, image) ∧
        ((∃ f ∈ scanText text path, f.line = i + 1 ∧ f.message = g.message) ∨
          g.message = noEmptyCatch.message ∧ ∃ line, (lines text.toList)[i]? = some line ∧
            Emptied line ((lines text.toList).drop (i + 1)))) ∧
      ∀ k i image line, (cleanedLines text)[k]? = some (i + 1, image) →
        (lines text.toList)[i]? = some line → Emptied line ((lines text.toList).drop (i + 1)) →
        (∃ g ∈ scanText (cleanUp path text).1 path,
          g.line = k + 1 ∧ g.message = noEmptyCatch.message) ∧
        ¬ ∃ f ∈ scanText text path, f.line = i + 1 ∧ f.message = noEmptyCatch.message := by
  have hrule : noEmptyCatch ∈ defaults := by simp [defaults]
  refine ⟨cleanUp_fst path text, fun g hg => ?_, fun k i image line h hline hemptied => ?_⟩
  · obtain ⟨r, hr, hfound⟩ := mem_scanText.1 hg
    obtain ⟨-, hmessage, hpos⟩ := of_mem_findingsFrom hfound
    obtain ⟨k, hk⟩ := Nat.exists_eq_add_of_le' hpos
    have hflags := (exists_finding_iff hr).1 ⟨g, hg, hk, hmessage⟩
    obtain ⟨i, image, hleft⟩ := exists_cleanedLines_of_flagsAt hr hflags
    refine ⟨i, image, by rw [hk]; exact hleft, ?_⟩
    rw [hmessage]
    exact (flagsAt_of_cleanUp hr hleft hflags).imp (exists_finding_iff hr).2 fun ⟨hcatch, hline⟩ =>
      ⟨by rw [hcatch], hline⟩
  · obtain ⟨line', hline', hcleaned, hget, hdrop⟩ := origin_of_cleanedLines path h
    obtain rfl : line = line' := Option.some.inj (hline.symm.trans hline')
    rw [exists_finding_iff hrule, exists_finding_iff hrule, flagsAt_of_getElem? _ hget,
      flagsAt_of_getElem? _ hline, hdrop]
    refine ⟨(flags_noEmptyCatch_cleaned_iff hcleaned).2 (.inr hemptied), fun hflags => ?_⟩
    have hcloses : closesNext ((lines text.toList).drop (i + 1)) = true :=
      (Bool.and_eq_true_iff.1 hflags).2
    rw [hemptied.closesNext] at hcloses
    cases hcloses

/-- **An error that is only logged** is ignored once the text is cleaned up. -/
theorem cleanUp_empties_catch :
    let text := "try \x7b f(); \x7d catch (e) \x7b\n  console.log(e);\n\x7d"
    let first := "try \x7b f(); \x7d catch (e) \x7b"
    (cleanUp "a.js" text).1 = first ++ "\n\x7d" ∧ (cleanedLines text)[0]? = some (1, first.toList) ∧
      ∃ g ∈ scanText (cleanUp "a.js" text).1 "a.js", g.line = 1 ∧
        ¬ ∃ f ∈ scanText text "a.js", f.line = 1 ∧ f.message = g.message := by
  intro text first
  have hrule : noEmptyCatch ∈ defaults := by simp [defaults]
  have htext : (cleanUp "a.js" text).1 = first ++ "\n\x7d" := by
    rw [cleanUp_fst]
    decide +kernel
  refine ⟨htext, by decide +kernel, ?_⟩
  obtain ⟨g, hg, hline, hmessage⟩ := (exists_finding_iff (i := 0) hrule).2
    (by decide +kernel : noEmptyCatch.flagsAt "a.js" (lines (first ++ "\n\x7d").toList) 0 = true)
  rw [htext]
  refine ⟨g, hg, hline, ?_⟩
  rw [hmessage, exists_finding_iff hrule]
  decide +kernel

end CodeReview.Rule
