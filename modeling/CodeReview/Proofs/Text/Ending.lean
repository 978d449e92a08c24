import CodeReview.Proofs.Text.Lines
import Mathlib.Data.List.Basic
import Mathlib.Tactic.Tauto

/-!
# Lines with their ends

The lines of a text file end in a carriage return with a line feed behind it, in a carriage return,
or in a line feed, as it comes; the last one has no end.  A `List (List Char)` of lines forgets
which it was, and that is just what has to be spoken about when a file is read, changed in one line
and written again: the other lines are the same, but are their ends?

So `endedLines` keeps each line with its own end (`EndedLine`), and nothing is lost:

* `flatMap_endedLines` — a text is its lines with their ends, one after the other;
* `lines_unifyLineEnds` — reading unifies the ends, and the lines of what it gives are the lines of
  the file: what differs is in `EndedLine.ending` alone;
* `endedLines_unlines` — lines that are joined to be written all end in a line feed, but for the
  last one (`relined`), whatever they ended in before.

The last two together are what happens to a file that is written back after a change: every line
end in it is a line feed from then on.  `fileLines` and `readBack` put this in terms of the text of
a file.
-/

set_option autoImplicit false

namespace CodeReview.Text

/-- A line, and what ends it. -/
structure EndedLine where
  line : List Char
  ending : List Char
  deriving Repr, DecidableEq

/-- The line with a character in front. -/
def EndedLine.cons (c : Char) (l : EndedLine) : EndedLine := ⟨c :: l.line, l.ending⟩

/-- The line with its end. -/
def EndedLine.whole (l : EndedLine) : List Char := l.line ++ l.ending

/-- The lines of a text, each with its own end. -/
def endedLines : List Char → List EndedLine
  | [] => [⟨[], []⟩]
  | '\r' :: '\n' :: cs => ⟨[], ['\r', '\n']⟩ :: endedLines cs
  | '\r' :: cs => ⟨[], ['\r']⟩ :: endedLines cs
  | '\n' :: cs => ⟨[], ['\n']⟩ :: endedLines cs
  | c :: cs => (endedLines cs).modifyHead (.cons c)

/-- Lines that all end in a line feed, but for the last one. -/
def relined : List (List Char) → List EndedLine
  | [] => [⟨[], []⟩]
  | [line] => [⟨line, []⟩]
  | line :: following => ⟨line, ['\n']⟩ :: relined following

variable {cs line : List Char} {ls following : List (List Char)}

/-! ## The lines of a text

`endedLines` looks two characters ahead, so its own induction has a case in which a carriage return
stands before anything but a line feed, and this has to be told apart from the first case each
time.  `endedLines_induction` does it once: a text is empty, or starts with one of the three line
ends, or with a character that belongs to a line. -/

theorem endedLines_carriage (h : cs.head? ≠ some '\n') :
    endedLines ('\r' :: cs) = ⟨[], ['\r']⟩ :: endedLines cs := by
  rw [endedLines]
  rintro cs' rfl
  exact h rfl

theorem endedLines_cons {c : Char} (hreturn : c ≠ '\r') (hfeed : c ≠ '\n') (cs : List Char) :
    endedLines (c :: cs) = (endedLines cs).modifyHead (.cons c) := by
  rw [endedLines] <;> simp [hreturn, hfeed]

theorem unifyLineEnds_carriage (h : cs.head? ≠ some '\n') :
    unifyLineEnds ('\r' :: cs) = '\n' :: unifyLineEnds cs := by
  rw [unifyLineEnds]
  rintro cs' rfl
  exact h rfl

theorem unifyLineEnds_cons {c : Char} (hreturn : c ≠ '\r') (cs : List Char) :
    unifyLineEnds (c :: cs) = c :: unifyLineEnds cs := by
  rw [unifyLineEnds] <;> simp [hreturn]

/-- A text is empty, or a line end and a text, or a character in a line and a text. -/
theorem endedLines_induction {motive : List Char → Prop} (nil : motive [])
    (both : ∀ cs, motive cs → motive ('\r' :: '\n' :: cs))
    (carriage : ∀ cs, cs.head? ≠ some '\n' → motive cs → motive ('\r' :: cs))
    (feed : ∀ cs, motive cs → motive ('\n' :: cs))
    (char : ∀ c cs, c ≠ '\r' → c ≠ '\n' → motive cs → motive (c :: cs)) (cs : List Char) :
    motive cs := by
  induction cs using endedLines.induct with
  | case1 => exact nil
  | case2 cs ih => exact both cs ih
  | case3 cs hfeed ih =>
    refine carriage cs (fun h => ?_) ih
    exact hfeed _ (List.eq_cons_of_mem_head? h)
  | case4 cs ih => exact feed cs ih
  | case5 c cs _ hreturn hfeed ih => exact char c cs hreturn hfeed ih

theorem endedLines_ne_nil (cs : List Char) : endedLines cs ≠ [] := by
  induction cs using endedLines_induction with
  | nil => exact List.cons_ne_nil _ _
  | both cs ih => exact List.cons_ne_nil _ _
  | carriage cs h ih =>
    rw [endedLines_carriage h]
    exact List.cons_ne_nil _ _
  | feed cs ih => exact List.cons_ne_nil _ _
  | char c cs hreturn hfeed ih =>
    rw [endedLines_cons hreturn hfeed]
    simpa using ih

/-- **A text is its lines with their ends.** -/
theorem flatMap_endedLines (cs : List Char) : (endedLines cs).flatMap EndedLine.whole = cs := by
  induction cs using endedLines_induction with
  | nil => rfl
  | both cs ih => rw [endedLines, List.flatMap_cons, ih]; rfl
  | carriage cs h ih => rw [endedLines_carriage h, List.flatMap_cons, ih]; rfl
  | feed cs ih => rw [endedLines, List.flatMap_cons, ih]; rfl
  | char c cs hreturn hfeed ih =>
    have hwhole : ((endedLines cs).modifyHead (.cons c)).flatMap EndedLine.whole
        = c :: (endedLines cs).flatMap EndedLine.whole := by
      obtain ⟨first, more, hlines⟩ := List.exists_cons_of_ne_nil (endedLines_ne_nil cs)
      rw [hlines]
      rfl
    rw [endedLines_cons hreturn hfeed, hwhole, ih]

/-- No line has a line end in it. -/
theorem not_mem_endedLines (cs : List Char) :
    ∀ l ∈ endedLines cs, '\r' ∉ l.line ∧ '\n' ∉ l.line := by
  have hempty : '\r' ∉ ([] : List Char) ∧ '\n' ∉ ([] : List Char) :=
    ⟨List.not_mem_nil, List.not_mem_nil⟩
  induction cs using endedLines_induction with
  | nil => exact List.forall_mem_singleton.2 hempty
  | both cs ih => exact List.forall_mem_cons.2 ⟨hempty, ih⟩
  | carriage cs h ih =>
    rw [endedLines_carriage h]
    exact List.forall_mem_cons.2 ⟨hempty, ih⟩
  | feed cs ih => exact List.forall_mem_cons.2 ⟨hempty, ih⟩
  | char c cs hreturn hfeed ih =>
    obtain ⟨first, more, hlines⟩ := List.exists_cons_of_ne_nil (endedLines_ne_nil cs)
    rw [hlines, List.forall_mem_cons] at ih
    rw [endedLines_cons hreturn hfeed, hlines, List.modifyHead_cons, List.forall_mem_cons]
    exact ⟨⟨List.not_mem_cons_of_ne_of_not_mem hreturn.symm ih.1.1,
      List.not_mem_cons_of_ne_of_not_mem hfeed.symm ih.1.2⟩, ih.2⟩

/-! ## Reading

A file is read with all its line ends unified, and then cut at line feeds.  Both go along the text,
and the induction that fits is the one for `endedLines`. -/

theorem lines_feed (cs : List Char) : lines ('\n' :: cs) = [] :: lines cs := by
  rw [lines, List.splitOn_eq_splitOnP, List.splitOnP_cons_eq_if_modifyHead]
  rfl

theorem lines_cons {c : Char} (h : c ≠ '\n') (cs : List Char) :
    lines (c :: cs) = (lines cs).modifyHead (c :: ·) := by
  rw [lines, List.splitOn_eq_splitOnP, List.splitOnP_cons_eq_if_modifyHead,
    if_neg (by simpa using h)]
  rfl

/-- **Reading unifies the ends of lines,** and leaves the lines. -/
theorem lines_unifyLineEnds (cs : List Char) :
    lines (unifyLineEnds cs) = (endedLines cs).map EndedLine.line := by
  induction cs using endedLines_induction with
  | nil => rfl
  | both cs ih => rw [endedLines, unifyLineEnds, lines_feed, ih]; rfl
  | carriage cs h ih => rw [endedLines_carriage h, unifyLineEnds_carriage h, lines_feed, ih]; rfl
  | feed cs ih => rw [endedLines, unifyLineEnds_cons (by decide), lines_feed, ih]; rfl
  | char c cs hreturn hfeed ih =>
    rw [endedLines_cons hreturn hfeed, unifyLineEnds_cons hreturn, lines_cons hfeed, ih]
    cases endedLines cs <;> rfl

theorem mem_unifyLineEnds {c : Char} (h : c ∈ unifyLineEnds cs) : c ∈ cs ∨ c = '\n' := by
  induction cs using endedLines_induction with
  | nil => cases h
  | both cs ih =>
    rw [unifyLineEnds, List.mem_cons] at h
    simp only [List.mem_cons]
    tauto
  | carriage cs hfeed ih =>
    rw [unifyLineEnds_carriage hfeed, List.mem_cons] at h
    rw [List.mem_cons]
    tauto
  | feed cs ih =>
    rw [unifyLineEnds_cons (by decide), List.mem_cons] at h
    rw [List.mem_cons]
    tauto
  | char c' cs hreturn _ ih =>
    rw [unifyLineEnds_cons hreturn, List.mem_cons] at h
    rw [List.mem_cons]
    tauto

/-- The text that is read from a file of this text. -/
def readBack (text : String) : String := String.ofList (unifyLineEnds text.toList)

/-- The lines of a file, without their ends. -/
def fileLines (text : String) : List (List Char) := (endedLines text.toList).map EndedLine.line

theorem lines_readBack (text : String) : lines (readBack text).toList = fileLines text := by
  rw [readBack, String.toList_ofList, lines_unifyLineEnds, fileLines]

theorem not_mem_fileLines (text : String) : ∀ line ∈ fileLines text, '\r' ∉ line ∧ '\n' ∉ line :=
  List.forall_mem_map.2 (not_mem_endedLines text.toList)

/-! ## Writing

What is written has been cut at line feeds before, and comes from a text without carriage returns;
so no line of it has a line end within.  Without that, joining and cutting again would give other
lines. -/

theorem endedLines_append (hreturn : '\r' ∉ line) (hfeed : '\n' ∉ line) (cs : List Char) :
    endedLines (line ++ cs) = (endedLines cs).modifyHead fun l => ⟨line ++ l.line, l.ending⟩ := by
  induction line with
  | nil => exact (congrFun List.modifyHead_id (endedLines cs)).symm
  | cons c line ih =>
    rw [List.mem_cons, not_or] at hreturn hfeed
    rw [List.cons_append, endedLines_cons (Ne.symm hreturn.1) (Ne.symm hfeed.1),
      ih hreturn.2 hfeed.2, List.modifyHead_modifyHead]
    rfl

theorem relined_cons (line : List Char) (h : following ≠ []) :
    relined (line :: following) = ⟨line, ['\n']⟩ :: relined following := by
  obtain ⟨next, following, rfl⟩ := List.exists_cons_of_ne_nil h
  rfl

/-- **Lines that are joined** end in a line feed, but for the last one. -/
theorem endedLines_unlines (h : ∀ line ∈ ls, '\r' ∉ line ∧ '\n' ∉ line) :
    endedLines (unlines ls) = relined ls := by
  induction ls with
  | nil => rfl
  | cons line ls ih =>
    rw [List.forall_mem_cons] at h
    by_cases hls : ls = []
    · have hline := endedLines_append h.1.1 h.1.2 []
      simpa [hls, unlines, endedLines, relined] using hline
    · rw [unlines_cons line hls, endedLines_append h.1.1 h.1.2, endedLines, ih h.2,
        relined_cons line hls, List.modifyHead_cons, List.append_nil]

theorem map_line_relined (h : ls ≠ []) : (relined ls).map EndedLine.line = ls := by
  induction ls with
  | nil => exact absurd rfl h
  | cons line ls ih =>
    by_cases hls : ls = []
    · rw [hls]
      rfl
    · rw [relined_cons line hls, List.map_cons, ih hls]

/-- The lines of a file that was written, if there are any. -/
theorem fileLines_of_toList {text : String} (htext : text.toList = unlines ls)
    (h : ∀ line ∈ ls, '\r' ∉ line ∧ '\n' ∉ line) : fileLines text = if ls = [] then [[]] else ls := by
  rw [fileLines, htext, endedLines_unlines h]
  split
  · rename_i hnone
    rw [hnone]
    rfl
  · rename_i hleft
    exact map_line_relined hleft

/-- A line among others: a line feed is behind it if there is a line behind it. -/
theorem relined_append (front : List (List Char)) (line : List Char) (behind : List (List Char)) :
    ∃ behind', behind'.map EndedLine.line = behind ∧
      relined (front ++ line :: behind) = front.map (fun l => ⟨l, ['\n']⟩)
        ++ ⟨line, if behind = [] then [] else ['\n']⟩ :: behind' := by
  induction front with
  | nil =>
    by_cases hbehind : behind = []
    · exact ⟨[], by rw [hbehind]; rfl, by rw [hbehind]; rfl⟩
    · exact ⟨relined behind, map_line_relined hbehind, by
        rw [List.nil_append, relined_cons line hbehind, if_neg hbehind]; rfl⟩
  | cons first front ih =>
    obtain ⟨behind', hbehind, hrelined⟩ := ih
    refine ⟨behind', hbehind, ?_⟩
    rw [List.cons_append, relined_cons first (by simp), hrelined]
    rfl

end CodeReview.Text
