import CodeReview.Proofs.Rule.Shape

/-!
# Catch blocks that are flagged

The rule of empty catch blocks looks for a line that opens a block and for a line behind it that
does nothing but close one.  It does not look at what stands behind the brace in the first line.
If that is blank, or if it closes the block itself, the block is empty; otherwise there is
something in the block (`isEmptyBlock_iff_of_closesBehind`), and the line is flagged all the same
(`emptyCatch_flags_statement`).

To say so, one has to say what an empty block is, and this is not a matter of lines.
`IsEmptyBlock` looks at the text from behind the opening brace on: blanks and a closing brace.  So
the lines behind the first are joined to the rest of it again, and the two ways to look at a block
are compared.  They agree but for that rest (`scanText_catch`).
-/

set_option autoImplicit false

namespace CodeReview.Rule

open CodeReview.Text Pattern

variable {cs rest more : List Char} {following : List (List Char)} {path text : String}

/-! ## Empty blocks

Up to the next closing brace a block is known from its first character that is no blank. -/

/-- A block is open before this text, and up to the next closing brace there are only blanks. -/
def IsEmptyBlock (cs : List Char) : Prop :=
  ∃ blanks rest, cs = blanks ++ '\x7d' :: rest ∧ isAllBlank blanks = true

theorem isEmptyBlock_iff : IsEmptyBlock cs ↔ (skipBlanks cs).head? = some '\x7d' := by
  have hbrace : isBlank '\x7d' = false := by decide
  constructor
  · rintro ⟨blanks, rest, hcut, hblanks⟩
    rw [(skipBlanks_eq_cons_iff hbrace).2 ⟨blanks, hcut, hblanks⟩, List.head?_cons]
  · intro h
    obtain ⟨blanks, hcut, hblanks⟩ :=
      (skipBlanks_eq_cons_iff hbrace).1 (List.eq_cons_of_mem_head? h)
    exact ⟨blanks, _, hcut, hblanks⟩

instance : DecidablePred IsEmptyBlock := fun _ => decidable_of_iff _ isEmptyBlock_iff.symm

/-- Blanks in front do not matter. -/
theorem isEmptyBlock_blanks_append (h : isAllBlank rest = true) :
    IsEmptyBlock (rest ++ more) ↔ IsEmptyBlock more := by
  rw [isEmptyBlock_iff, isEmptyBlock_iff, skipBlanks,
    List.dropWhile_append_of_pos (List.all_eq_true.1 h)]
  rfl

/-- A line end in front does not matter. -/
theorem isEmptyBlock_feed (cs : List Char) : IsEmptyBlock ('\n' :: cs) ↔ IsEmptyBlock cs := by
  have hblank : isAllBlank ['\n'] = true := by decide
  exact isEmptyBlock_blanks_append hblank

/-- What is behind something else than blanks does not matter. -/
theorem isEmptyBlock_append (h : isAllBlank rest = false) :
    IsEmptyBlock (rest ++ more) ↔ IsEmptyBlock rest := by
  have hskip : skipBlanks rest ≠ [] := by
    rw [skipBlanks, Ne, List.dropWhile_eq_nil_iff, ← List.all_eq_true]
    exact Bool.eq_false_iff.1 h
  have happend : skipBlanks (rest ++ more) = skipBlanks rest ++ more := by
    rw [skipBlanks, List.dropWhile_append, if_neg (by simpa [skipBlanks] using hskip)]
    rfl
  rw [isEmptyBlock_iff, isEmptyBlock_iff, happend, List.head?_append_of_ne_nil _ hskip]

theorem isEmptyBlock_of_trim (h : trim cs = ['\x7d']) (more : List Char) :
    IsEmptyBlock (cs ++ more) := by
  have hfirst : startsWith ['\x7d'] (cs.dropWhile isBlank) = true := by
    have hstart : ['\x7d'].any isBlank = false := by decide
    rw [← startsWith_dropEndWhile hstart]
    show startsWith ['\x7d'] (trim cs) = true
    rw [h]
    rfl
  obtain ⟨rest, hrest⟩ := List.isPrefixOf_iff_prefix.1 hfirst
  have hcut : cs ++ more = cs.takeWhile isBlank ++ '\x7d' :: (rest ++ more) := by
    conv_lhs => rw [← List.takeWhile_append_dropWhile (p := isBlank) (l := cs), ← hrest]
    simp
  exact ⟨_, _, hcut, List.all_eq_true.2 fun c hc => List.mem_takeWhile_imp hc⟩

/-! ## Blocks over several lines

A line feed is a blank, so blank lines between the braces are blanks. -/

/-- A block that is closed behind blank lines is empty. -/
theorem isEmptyBlock_of_closesBehind (h : ClosesBehind (isAllBlank · = true) following) :
    IsEmptyBlock (unlines following) := by
  obtain ⟨between, closing, behind, rfl, hbetween, hclosing⟩ := h
  induction between with
  | nil =>
    cases behind with
    | nil => simpa [unlines] using isEmptyBlock_of_trim hclosing []
    | cons next behind =>
      rw [List.nil_append, unlines_cons _ (by simp)]
      exact isEmptyBlock_of_trim hclosing _
  | cons blank between ih =>
    rw [List.forall_mem_cons] at hbetween
    rw [List.cons_append, unlines_cons _ (by simp), isEmptyBlock_blanks_append hbetween.1]
    exact (isEmptyBlock_feed _).2 (ih hbetween.2)

/-- **A block that is closed behind blank lines** is empty if the rest of the line that opens it is
blank, or closes it. -/
theorem isEmptyBlock_iff_of_closesBehind (h : ClosesBehind (isAllBlank · = true) following) :
    IsEmptyBlock (unlines (rest :: following)) ↔ isAllBlank rest = true ∨ IsEmptyBlock rest := by
  have hne : following ≠ [] := by
    obtain ⟨between, closing, behind, rfl, -⟩ := h
    simp
  rw [unlines_cons _ hne]
  cases hrest : isAllBlank rest with
  | true =>
    refine iff_of_true ?_ (.inl rfl)
    rw [isEmptyBlock_blanks_append hrest]
    exact (isEmptyBlock_feed _).2 (isEmptyBlock_of_closesBehind h)
  | false =>
    rw [isEmptyBlock_append hrest, or_iff_right Bool.false_ne_true]

/-! ## Findings

The opening of a block may be read at several places of a line, and what stands behind the brace is
then another text each time.  The statement is for each of them. -/

/-- **Which catch blocks are flagged.**  Every finding of the rule is made of a line in which a
catch block is opened, and the next line that is not blank does nothing but close one; and every
line of that kind is flagged.  A block opened in such a line is empty exactly if there is nothing but
blanks behind its brace in the line, or if it is closed there behind nothing but blanks. -/
theorem scanText_catch (text path : String) :
    (∀ f ∈ scanText text path, f.message = noEmptyCatch.message →
      ∃ before line following, lines text.toList = before ++ line :: following ∧
        f.line = before.length + 1 ∧ OpensCatch line ∧
        ClosesBehind (isAllBlank · = true) following ∧
        ∀ front opening rest, line = front ++ opening ++ rest → IsCatchOpening opening →
          (IsEmptyBlock (unlines (rest :: following)) ↔
            isAllBlank rest = true ∨ IsEmptyBlock rest)) ∧
      ∀ before line following, lines text.toList = before ++ line :: following → OpensCatch line →
        ClosesBehind (isAllBlank · = true) following →
        ∃ f ∈ scanText text path, f.line = before.length + 1 ∧ f.message = noEmptyCatch.message := by
  have hrule : noEmptyCatch ∈ defaults := by simp [defaults]
  constructor
  · intro f hf hmessage
    obtain ⟨r, hr, hfound⟩ := mem_scanText.1 hf
    obtain rfl : r = noEmptyCatch := List.inj_on_of_nodup_map nodup_message_defaults hr hrule
      ((of_mem_findingsFrom hfound).2.1.symm.trans hmessage)
    obtain ⟨before, line, following, hcut, hflagged, rfl⟩ := mem_findingsFrom.1 hfound
    obtain ⟨hopens, hcloses⟩ := flags_noEmptyCatch_iff.1 hflagged
    exact ⟨before, line, following, hcut, Nat.add_comm 1 _, hopens, hcloses,
      fun front opening rest _ _ => isEmptyBlock_iff_of_closesBehind hcloses⟩
  · intro before line following hcut hopens hcloses
    have hflagged : noEmptyCatch.flags path line following = true :=
      flags_noEmptyCatch_iff.2 ⟨hopens, hcloses⟩
    refine ⟨_, mem_scanText.2 ⟨noEmptyCatch, hrule, mem_findingsFrom.2
      ⟨before, line, following, hcut, hflagged, rfl⟩⟩, Nat.add_comm 1 _, rfl⟩

/-- **A block with a statement in it** is flagged. -/
theorem emptyCatch_flags_statement :
    let line := "catch (e) \x7b f();".toList
    lines "catch (e) \x7b f();\n\x7d".toList = [line, ['\x7d']] ∧
      (∃ f ∈ scanText "catch (e) \x7b f();\n\x7d" "a.js",
        f.line = 1 ∧ f.message = noEmptyCatch.message) ∧
      ¬ ∃ front opening rest, line = front ++ opening ++ rest ∧ IsCatchOpening opening ∧
        IsEmptyBlock (unlines [rest, ['\x7d']]) := by
  intro line
  have hrule : noEmptyCatch ∈ defaults := by simp [defaults]
  refine ⟨by decide +kernel, (exists_finding_iff hrule).2 (by decide +kernel), ?_⟩
  rintro ⟨front, _, rest, hcut, ⟨blanks, caught, blanks', rfl, -⟩, hempty⟩
  -- there is one brace in the line only, so the block begins behind it
  have hline : line = "catch (e) ".toList ++ '\x7b' :: " f();".toList := rfl
  have hbrace : "catch (e) ".toList ++ '\x7b' :: " f();".toList
      = (front ++ ("catch".toList ++ blanks ++ '(' :: caught ++ ')' :: blanks'))
        ++ '\x7b' :: rest := by
    rw [← hline, hcut]
    simp
  obtain ⟨-, -, rfl⟩ := (List.append_cons_inj_of_notMem (by decide) (by decide)).1 hbrace
  revert hempty
  decide +kernel

end CodeReview.Rule
