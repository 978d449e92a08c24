import CodeReview.Text.Lines

/-!
# Cutting at line feeds and joining

The local fixes take a text apart at its line feeds, work on the lines, and join them again; the
transcripts of a stand-in service are read line by line.  Both need to know that cutting and
joining undo each other.  In one direction they always do (`unlines_lines`).  In the other they do
for lines without a line feed in them, and that is the kind that cutting gives:

* `not_mem_of_mem_lines` — no line of a text has a line feed in it;
* `lines_unlines` — lines without a line feed, joined and cut again, are the same lines.  No line
  at all is the exception: joined, they are the empty text, which has one line.

Cutting at every line boundary is another matter, as it forgets which boundary it was.  All that is
asked of it is that it takes off the first line if a line feed ends it
(`logicalLines_append_cons`), so that a text that was put together line by line is taken apart line
by line.
-/

set_option autoImplicit false

namespace CodeReview.Text

variable {cs line : List Char}

theorem mem_intercalate_iff {α : Type} {a : α} {between : List α} (h : a ∉ between)
    {parts : List (List α)} : a ∈ between.intercalate parts ↔ ∃ part ∈ parts, a ∈ part := by
  induction parts with
  | nil => simp
  | cons part parts ih =>
    cases parts with
    | nil => simp
    | cons part' parts =>
      rw [List.intercalate_cons_cons, List.mem_append, List.mem_append, ih]
      simp [h]

/-- A joined text has no character but line feeds that is not in one of its lines. -/
theorem mem_unlines_iff {c : Char} (hc : c ≠ '\n') {ls : List (List Char)} :
    c ∈ unlines ls ↔ ∃ line ∈ ls, c ∈ line :=
  mem_intercalate_iff (by simpa using hc)

/-- A list is cut at its separators, so none is left in a part. -/
theorem not_mem_of_mem_splitOn {α : Type} [DecidableEq α] {sep : α} {whole part : List α}
    (h : part ∈ whole.splitOn sep) : sep ∉ part := by
  rw [List.splitOn_eq_splitOnP] at h
  induction whole generalizing part with
  | nil => simp_all
  | cons c cs ih =>
    rw [List.splitOnP_cons_eq_if_modifyHead] at h
    obtain ⟨first, more, hlines⟩ := List.exists_cons_of_ne_nil (List.splitOnP_ne_nil (· == sep) cs)
    rw [hlines] at h ih
    split at h
    · rcases List.mem_cons.1 h with rfl | h
      · exact List.not_mem_nil
      · exact ih h
    · rename_i hc
      rcases List.mem_cons.1 h with rfl | h
      · have hne : sep ≠ c := fun heq => hc (beq_iff_eq.2 heq.symm)
        exact List.not_mem_cons_of_ne_of_not_mem hne (ih List.mem_cons_self)
      · exact ih (List.mem_cons_of_mem _ h)

theorem not_mem_of_mem_lines (h : line ∈ lines cs) : '\n' ∉ line := not_mem_of_mem_splitOn h

theorem unlines_cons {following : List (List Char)} (line : List Char) (h : following ≠ []) :
    unlines (line :: following) = line ++ '\n' :: unlines following := by
  obtain ⟨next, following, rfl⟩ := List.exists_cons_of_ne_nil h
  rw [unlines, List.intercalate_cons_cons, List.append_assoc]
  rfl

/-- **Lines that were joined** are the lines of the text, if there are any. -/
theorem lines_unlines {ls : List (List Char)} (hls : ls ≠ []) (h : ∀ line ∈ ls, '\n' ∉ line) :
    lines (unlines ls) = ls :=
  List.splitOn_intercalate '\n' h hls

/-! ## All line boundaries

A carriage return is dropped before a line feed and nowhere else, so a line without one is passed
over unchanged. -/

theorem dropCarriage_append_cons (h : '\r' ∉ line) (rest : List Char) :
    logicalLines.dropCarriage (line ++ '\n' :: rest)
      = line ++ '\n' :: logicalLines.dropCarriage rest := by
  induction line with
  | nil => rfl
  | cons c line ih =>
    obtain ⟨hc, hline⟩ := List.ne_and_not_mem_of_not_mem_cons h
    rw [List.cons_append, logicalLines.dropCarriage, ih hline]
    · rfl
    · rintro _ rfl
      exact absurd rfl hc

/-- **A line that a line feed ends** is the first one. -/
theorem logicalLines_append_cons (h : ∀ c ∈ line, isLineBoundary c = false) (rest : List Char) :
    logicalLines (line ++ '\n' :: rest) = line :: logicalLines rest := by
  have hcarriage : '\r' ∉ line := fun hmem => absurd (h _ hmem) (by decide)
  have hsplit := List.splitOnP_append_cons_of_forall_mem h '\n' (by decide)
    (logicalLines.dropCarriage rest)
  have hne := List.splitOnP_ne_nil isLineBoundary (logicalLines.dropCarriage rest)
  obtain ⟨first, more, hmore⟩ := List.exists_cons_of_ne_nil hne
  rw [logicalLines, logicalLines, dropCarriage_append_cons hcarriage, hsplit, hmore]
  simp only [List.getLast?_cons_cons, List.dropLast_cons_cons]
  split <;> rfl

end CodeReview.Text
