import CodeReview.Proofs.Rule.Convergence
import CodeReview.Proofs.Text.Ending

/-!
# What local fixes make of a text file

A file is read, cleaned up and written (`refiled`).  The fixes see its lines without their ends,
and writing ends them anew, so two things change: the lines, as the fixes have it, and all line
ends. After any number of rounds that write the file, the lines are those that so many rounds leave
(`swept`), and all of them end in a line feed, but for the last one (`endedLines_iterate_refiled`).

A line with nothing to fix is still there, between what is left of the lines before it and behind
it, but with the end of its new place (`exists_untouched`).  So it is not what it was if it ended
in anything but a line feed, or if it was the last and is not, or the other way round.
-/

set_option autoImplicit false

namespace CodeReview.Rule

open CodeReview.Text

variable {line image : List Char} {ls front behind : List (List Char)}

/-! ## Lines after some rounds

A round is a function of each line, so rounds of a text that was put together are rounds of its
parts. -/

/-- The lines that are left after so many rounds of fixes. -/
def swept (rounds : Nat) (ls : List (List Char)) : List (List Char) :=
  (List.filterMap cleaned)^[rounds] ls

theorem swept_succ (rounds : Nat) (ls : List (List Char)) :
    swept (rounds + 1) ls = (swept rounds ls).filterMap cleaned :=
  Function.iterate_succ_apply' _ rounds ls

theorem swept_append (rounds : Nat) (front behind : List (List Char)) :
    swept rounds (front ++ behind) = swept rounds front ++ swept rounds behind := by
  induction rounds with
  | zero => rfl
  | succ rounds ih => rw [swept_succ, ih, List.filterMap_append, ← swept_succ, ← swept_succ]

/-- A line with nothing to fix outlasts every round. -/
theorem swept_cons (h : IsClean line) (rounds : Nat) (behind : List (List Char)) :
    swept rounds (line :: behind) = line :: swept rounds behind := by
  induction rounds with
  | zero => rfl
  | succ rounds ih => rw [swept_succ, ih, List.filterMap_cons_some h, ← swept_succ]

theorem mem_cleaned {c : Char} (h : cleaned line = some image) (hc : c ∈ image) :
    c ∈ line ∨ c ∈ "const".toList := by
  rcases cleaned_cases h with rfl | ⟨-, -, hdeclares, rfl⟩
  · exact .inl hc
  · exact mem_varToConst hdeclares hc

/-- No round puts a line end into a line. -/
theorem not_mem_swept (h : ∀ line ∈ ls, '\r' ∉ line ∧ '\n' ∉ line) (rounds : Nat) :
    ∀ line ∈ swept rounds ls, '\r' ∉ line ∧ '\n' ∉ line := by
  induction rounds with
  | zero => exact h
  | succ rounds ih =>
    intro image himage
    rw [swept_succ] at himage
    obtain ⟨line, hline, hcleaned⟩ := List.mem_filterMap.1 himage
    have hconst : '\r' ∉ "const".toList ∧ '\n' ∉ "const".toList := by decide
    exact ⟨fun hc => (mem_cleaned hcleaned hc).elim (ih line hline).1 hconst.1,
      fun hc => (mem_cleaned hcleaned hc).elim (ih line hline).2 hconst.2⟩

/-! ## Stand-ins

A text may hold characters that stand in for surrogates, and then it cannot be written.  The fixes
bring in the letters of `const` and nothing else, so they do not change whether a text can be. -/

/-- No stand-in is among the characters of the first four planes. -/
theorem isStandIn_of_lt [spare : Spare] {c : Char} (h : c.toNat < 0x40000) :
    isStandIn c = false := by
  have hstart : Spare.start = 0x40000 + 0x800 * spare.index.val := rfl
  rw [isStandIn, unitOf?, if_neg (by omega)]
  rfl

/-- A text that can be written can be written after a round as well. -/
theorem isWritable_cleanUp [Spare] {path text : String} (h : isWritable text = true) :
    isWritable (cleanUp path text).1 = true := by
  have hconst : ∀ c ∈ "const".toList, c.toNat < 0x40000 := by simp
  rw [isWritable, List.all_eq_true] at h ⊢
  simp only [Bool.not_eq_true'] at h ⊢
  intro c hc
  rw [cleanUp_fst, String.toList_ofList, map_cleanedLines] at hc
  by_cases hfeed : c = '\n'
  · exact isStandIn_of_lt (by rw [hfeed]; decide)
  obtain ⟨image, himage, hc⟩ := (mem_unlines_iff hfeed).1 hc
  obtain ⟨line, hline, hcleaned⟩ := List.mem_filterMap.1 himage
  rcases mem_cleaned hcleaned hc with hc | hc
  · refine h c ?_
    rw [← unlines_lines text.toList]
    exact (mem_unlines_iff hfeed).2 ⟨line, hline, hc⟩
  · exact isStandIn_of_lt (hconst c hc)

/-- A file of a text that can be written is read as one. -/
theorem isWritable_readBack [Spare] {text : String} (h : isWritable text = true) :
    isWritable (readBack text) = true := by
  rw [isWritable, List.all_eq_true] at h ⊢
  intro c hc
  rw [readBack, String.toList_ofList] at hc
  rcases mem_unifyLineEnds hc with hc | rfl
  · exact h c hc
  · rw [isStandIn_of_lt (by decide)]
    rfl

/-! ## Files after some rounds

After the first round all line ends are line feeds, so that reading and writing do nothing further
to them. -/

/-- The text that is written when a file of this text is fixed. -/
def refiled (text : String) : String := (cleanUp "" (readBack text)).1

/-- The path of a file does not matter for its fixes. -/
theorem cleanUp_fst_eq_refiled (path text : String) :
    (cleanUp path (readBack text)).1 = refiled text := by
  rw [refiled, cleanUp_fst, cleanUp_fst]

theorem toList_refiled (text : String) :
    (refiled text).toList = unlines (swept 1 (fileLines text)) := by
  rw [refiled, cleanUp_fst, String.toList_ofList, map_cleanedLines, lines_readBack]
  rfl

theorem toList_iterate_refiled (text : String) (rounds : Nat) :
    (refiled^[rounds + 1] text).toList = unlines (swept (rounds + 1) (fileLines text)) := by
  induction rounds with
  | zero => exact toList_refiled text
  | succ rounds ih =>
    rw [Function.iterate_succ_apply', toList_refiled,
      fileLines_of_toList ih (not_mem_swept (not_mem_fileLines text) _), swept_succ (rounds + 1)]
    split
    · -- a file without lines has an empty one, and that is left as it is
      rename_i hnone
      rw [hnone]
      rfl
    · rfl

/-- **A file that was fixed.** -/
theorem endedLines_iterate_refiled (text : String) {rounds : Nat} (h : 0 < rounds) :
    endedLines (refiled^[rounds] text).toList = relined (swept rounds (fileLines text)) := by
  obtain ⟨rounds, rfl⟩ := Nat.exists_eq_succ_of_ne_zero h.ne'
  rw [toList_iterate_refiled, endedLines_unlines (not_mem_swept (not_mem_fileLines text) _)]

/-- **A line that has nothing to fix** in a file that was fixed. -/
theorem exists_untouched {text : String} {rounds : Nat} (h : 0 < rounds)
    {before after : List EndedLine} {l : EndedLine}
    (hcut : endedLines text.toList = before ++ l :: after) (hclean : IsClean l.line) :
    ∃ after', after'.map EndedLine.line = swept rounds (after.map EndedLine.line) ∧
      endedLines (refiled^[rounds] text).toList
        = (swept rounds (before.map EndedLine.line)).map (fun line => ⟨line, ['\n']⟩)
          ++ ⟨l.line, if after' = [] then [] else ['\n']⟩ :: after' := by
  obtain ⟨after', hafter, hrelined⟩ := relined_append
    (swept rounds (before.map EndedLine.line)) l.line (swept rounds (after.map EndedLine.line))
  refine ⟨after', hafter, ?_⟩
  rw [endedLines_iterate_refiled text h, fileLines, hcut, List.map_append, List.map_cons,
    swept_append, swept_cons hclean, hrelined, ← hafter]
  simp only [List.map_eq_nil_iff]

end CodeReview.Rule
