import CodeReview.Proofs.Reply.Span

/-!
# Trimmed texts

Trimming takes away blanks and nothing else, so it keeps every other character as often as it was
there (`count_trim`).  This is how a trimmed text is told from another without looking at where the
blanks were: a count does not depend on the place.

For a text behind a label the places matter after all.  A label starts with a character that is no
blank, so the whole is trimmed at its end only (`trim_cons_append`); and to trim what is left of
the text then is to trim it (`trim_trimEnd`), so that it does not matter whether the label or the
blanks are taken off first.
-/

set_option autoImplicit false

namespace CodeReview.Text

open CodeReview.Reply

variable {p : Char → Bool} {c : Char} {cs : List Char}

theorem count_dropWhile (hc : p c = false) : (cs.dropWhile p).count c = cs.count c := by
  have htaken : (cs.takeWhile p).count c = 0 :=
    List.count_eq_zero.2 fun hmem => Bool.eq_false_iff.1 hc (List.mem_takeWhile_imp hmem)
  have hcount := congrArg (List.count c) (List.takeWhile_append_dropWhile (p := p) (l := cs))
  rwa [List.count_append, htaken, Nat.zero_add] at hcount

theorem count_dropEndWhile (hc : p c = false) : (dropEndWhile p cs).count c = cs.count c := by
  rw [dropEndWhile, List.count_reverse, count_dropWhile hc, List.count_reverse]

/-- **Trimming keeps all characters but blanks.** -/
theorem count_trim (hc : isBlank c = false) : (trim cs).count c = cs.count c := by
  rw [trim, trimBy, count_dropEndWhile hc, count_dropWhile hc]

theorem trimEnd_ne_nil (h : isAllBlank cs = false) : trimEnd cs ≠ [] := by
  rw [trimEnd, Ne, Span.dropEndWhile_eq_nil_iff]
  intro hall
  exact Bool.eq_false_iff.1 h (List.all_eq_true.2 hall)

/-- A text behind one that starts with no blank loses the blanks at its end. -/
theorem trim_cons_append (hc : isBlank c = false) (label : List Char) (h : isAllBlank cs = false) :
    trim (c :: label ++ cs) = c :: label ++ trimEnd cs := by
  rw [trim, trimBy, List.cons_append, List.dropWhile_cons_of_neg (by simp [hc]), ← List.cons_append,
    Span.dropEndWhile_append_of_ne_nil (trimEnd_ne_nil h), trimEnd]

theorem trim_trimEnd (cs : List Char) : trim (trimEnd cs) = trim cs := by
  obtain ⟨run, hrun, hblank⟩ := Span.exists_run isBlank cs
  rw [← trimEnd] at hrun
  generalize trimEnd cs = kept at hrun
  rw [hrun, trim, trim, trimBy, trimBy, List.dropWhile_append]
  split
  · rename_i hnil
    rw [List.isEmpty_iff.1 hnil, List.dropWhile_eq_nil_iff.2 hblank]
  · exact (Span.dropEndWhile_append_of_all hblank).symm

end CodeReview.Text
