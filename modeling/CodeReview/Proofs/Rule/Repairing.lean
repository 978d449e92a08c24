import CodeReview.Proofs.Rule.Renamed
import CodeReview.Proofs.Text.Lines
import Mathlib.Data.List.ReduceOption

/-!
# Repairing line by line

Findings are repaired in a list of lines that gets shorter on the way.  A finding tells its line by
number, and numbers change when a line is dropped; that this does no harm depends on the findings
being taken from the last line to the first, on remembering which lines were dropped, and on the
sort being stable.  It is not something one sees.

So the lines are seen as *cells* (`Shows`).  Every line of the text has a cell; it is changed in
its place, or emptied in its place, and none is ever moved.  The list under repair is what stands
in the cells.  A line that is dropped moves only lines behind it, whose repair is over, so a
finding hits the cell of its line (`Shows.step`), and a repair comes to what its findings make of
each line for itself (`repairedLine`), in whatever order they are given.

That something was applied exactly if the text has changed (`applyFixes_eq_lineByLine`) is not part
of this, as two repairs might undo each other.  They cannot, because each of them takes a line away
or adds characters to one (`Repair.GoesOn`).
## What is here

* `repairedLine`, `survivors` — what findings leave of a line, and of a text;
* `foldl_mend` — findings of one line, one after another, come to that;
* `Shows`, `Shows.step`, `Shows.foldl` — the invariant of the loop, its step, and the loop;
* `lines_repaired` — the lines at the end are those of `survivors`;
* `Repair.GoesOn` — why a repair that has applied something has changed the text.
-/

set_option autoImplicit false

namespace CodeReview.Rule

open CodeReview.Text Pattern

variable {fs gs : List Finding} {f : Finding} {number : Nat} {line : List Char}
  {r : Repair} {cells : List (Option (List Char))}

/-! ## What findings make of a line

A line is dropped, or rewritten as often as findings ask for it and it still declares.  That a line
shows debugging is not changed by rewriting it, so it does not matter which comes first. -/

/-- The finding is of this category, and asks for this line to be repaired. -/
def asks (category : String) (number : Nat) (f : Finding) : Bool :=
  f.autoFixable && (f.line == number && f.category == category)

/-- The line with its first word `var` rewritten so many times, as long as it declares with it. -/
def rewritten : Nat → List Char → List Char
  | 0, line => line
  | n + 1, line => if Declares line then rewritten n (varToConst line) else line

/-- What findings leave of the line with this number: nothing, if one of them is about the quality
of the code and the line shows debugging. -/
def repairedLine (fs : List Finding) (number : Nat) (line : List Char) : Option (List Char) :=
  if fs.any (asks "Code Quality" number) ∧ ShowsDebugging line then none
  else some (rewritten (fs.countP (asks "Best Practices" number)) line)

/-- The lines that findings leave of a text, each under the number that it had. -/
def survivors (fs : List Finding) (text : String) : List (Nat × List Char) :=
  ((lines text.toList).zipIdx 1).filterMap fun p =>
    (repairedLine fs p.2 p.1).map fun line => (p.2, line)

theorem rewritten_of_not_declares (h : ¬ Declares line) (n : Nat) : rewritten n line = line := by
  cases n with
  | zero => rfl
  | succ n => rw [rewritten, if_neg h]

theorem repairedLine_perm (h : gs.Perm fs) (number : Nat) (line : List Char) :
    repairedLine gs number line = repairedLine fs number line := by
  rw [repairedLine, repairedLine, h.any_eq, h.countP_eq]

/-! ## One finding after another

`mend` is one finding on the line it is about, and folding it over findings is `repairedLine`. -/

/-- What one finding makes of its line. -/
def mend (f : Finding) (line : List Char) : Option (List Char) :=
  if f.category = "Code Quality" ∧ isDebugging line = true then none
  else if f.category = "Best Practices" ∧ isVarDeclaration line = true then some (varToConst line)
  else some line

theorem showsDebugging_varToConst (h : Declares line) :
    ShowsDebugging (varToConst line) ↔ ShowsDebugging line := by
  rw [← isDebugging_iff, ← isDebugging_iff, isDebugging_varToConst h.inLine_varWord]

theorem foldl_bind_none {α β : Type} (g : β → α → Option α) (l : List β) :
    l.foldl (fun cell b => cell.bind (g b)) none = none := by
  induction l with
  | nil => rfl
  | cons b l ih => exact ih

/-- **One after another** comes to all at once. -/
theorem foldl_mend (fs : List Finding) (line : List Char) :
    fs.foldl (fun cell f => cell.bind (mend f)) (some line)
      = if fs.any (·.category == "Code Quality") ∧ ShowsDebugging line then none
        else some (rewritten (fs.countP (·.category == "Best Practices")) line) := by
  induction fs generalizing line with
  | nil => rfl
  | cons f fs ih =>
    rw [List.foldl_cons, Option.bind_some, mend]
    simp only [isDebugging_iff, isVarDeclaration_iff]
    split
    · rename_i hdrop
      rw [foldl_bind_none, if_pos ⟨by simp [hdrop.1], hdrop.2⟩]
    · rename_i hdrop
      split
      · rename_i hrewrite
        obtain ⟨hcategory, hdeclares⟩ := hrewrite
        have hcount : (f :: fs).countP (·.category == "Best Practices")
            = fs.countP (·.category == "Best Practices") + 1 :=
          List.countP_cons_of_pos (by simp [hcategory])
        have hany : (f :: fs).any (·.category == "Code Quality")
            = fs.any (·.category == "Code Quality") := by
          simp [hcategory]
        rw [ih, hcount, hany, rewritten, if_pos hdeclares]
        simp only [showsDebugging_varToConst hdeclares]
      · rename_i hrewrite
        have hdrops : ((f :: fs).any (·.category == "Code Quality") ∧ ShowsDebugging line) ↔
            (fs.any (·.category == "Code Quality") ∧ ShowsDebugging line) := by
          refine and_congr_left fun hshows => ?_
          have hf : ¬ f.category = "Code Quality" := fun hf => hdrop ⟨hf, hshows⟩
          simp [hf]
        have hrewrites : rewritten ((f :: fs).countP (·.category == "Best Practices")) line
            = rewritten (fs.countP (·.category == "Best Practices")) line := by
          by_cases hf : f.category = "Best Practices"
          · have hnot : ¬ Declares line := fun hdeclares => hrewrite ⟨hf, hdeclares⟩
            rw [rewritten_of_not_declares hnot, rewritten_of_not_declares hnot]
          · rw [List.countP_cons_of_neg (by simpa using hf)]
        rw [ih, hrewrites]
        simp only [hdrops]

/-! ## Cells

The invariant `Shows` has two parts.  The lines are those that stand in the cells, and the
positions that were dropped are those of the empty cells; the second lets a later finding of a
dropped line do nothing. -/

/-- One finding repaired in its cell. -/
def mendCell (cells : List (Option (List Char))) (f : Finding) : List (Option (List Char)) :=
  if f.line = 0 then cells else cells.modify (f.line - 1) (·.bind (mend f))

/-- The repair has come to these cells: its lines stand in them, and those it dropped are empty. -/
structure Shows (r : Repair) (cells : List (Option (List Char))) : Prop where
  lines : r.lines = cells.reduceOption
  dropped : ∀ i, i ∈ r.dropped ↔ cells[i]? = some none

theorem getElem?_mendCell (cells : List (Option (List Char))) (f : Finding) (i : Nat) :
    (mendCell cells f)[i]?
      = cells[i]?.map fun cell => if f.line = i + 1 then cell.bind (mend f) else cell := by
  rw [mendCell]
  by_cases hzero : f.line = 0
  · simp [hzero]
  · have hline : f.line - 1 = i ↔ f.line = i + 1 := by omega
    rw [if_neg hzero, List.getElem?_modify]
    simp only [hline, Option.map_eq_map]

/-- A line that stands behind lines that all stand has the position of its cell. -/
theorem Shows.exists_cut (h : Shows r cells) {i : Nat} (hbefore : ∀ j < i, cells[j]? ≠ some none)
    (hcell : cells[i]? = some (some line)) :
    ∃ front back : List (List Char), front.length = i ∧ r.lines = front ++ line :: back ∧
      ∀ cell : Option (List Char),
        (cells.set i cell).reduceOption = front ++ (cell.toList ++ back) := by
  obtain ⟨hlt, hget⟩ := List.getElem?_eq_some_iff.1 hcell
  have hstand : ∀ cell ∈ cells.take i, cell.isSome = true := by
    intro cell hmem
    obtain ⟨j, hj, rfl⟩ := List.mem_take_iff_getElem.1 hmem
    refine Option.isSome_iff_ne_none.2 fun hnone => hbefore j (by omega) ?_
    rw [List.getElem?_eq_getElem (by omega), hnone]
  have hset : ∀ cell, (cells.set i cell).reduceOption
      = (cells.take i).reduceOption ++ (cell.toList ++ (cells.drop (i + 1)).reduceOption) := by
    intro cell
    rw [List.set_eq_take_append_cons_drop, if_pos hlt, List.reduceOption_append,
      ← List.singleton_append, List.reduceOption_append, List.reduceOption_singleton]
  refine ⟨(cells.take i).reduceOption, (cells.drop (i + 1)).reduceOption, ?_, ?_, hset⟩
  · rw [List.reduceOption_length_eq_iff.2 hstand, List.length_take, Nat.min_eq_left hlt.le]
  · have hsame := hset (some line)
    rw [← hget, List.set_getElem_self, hget] at hsame
    rw [h.lines, hsame, Option.toList_some, List.singleton_append]

/-- What one finding does where its line stands. -/
theorem Repair.step_of_stands {i : Nat} (hf : f.line = i + 1) (hstands : i ∉ r.dropped)
    (hline : r.lines[i]? = some line) :
    r.step f =
      if f.category = "Code Quality" ∧ isDebugging line = true then
        ⟨r.lines.eraseIdx i, i :: r.dropped, r.applied + 1⟩
      else if f.category = "Best Practices" ∧ isVarDeclaration line = true then
        ⟨r.lines.set i (varToConst line), r.dropped, r.applied + 1⟩
      else r := by
  simp [Repair.step, hf, hstands, hline]

/-- **One finding** is repaired in its cell, if no line before it was dropped. -/
theorem Shows.step (h : Shows r cells) (hbefore : ∀ i, i + 1 < f.line → cells[i]? ≠ some none) :
    Shows (r.step f) (mendCell cells f) := by
  by_cases hzero : f.line = 0
  · simpa [Repair.step, mendCell, hzero] using h
  obtain ⟨i, hf⟩ := Nat.exists_eq_succ_of_ne_zero hzero
  have hcells : mendCell cells f = cells.modify i (·.bind (mend f)) := by simp [mendCell, hf]
  rw [hcells, List.modify_eq_set_getElem?]
  rcases hcell : cells[i]? with _ | _ | line
  · -- behind the last line
    have hlines : r.lines[i]? = none := by
      rw [h.lines, List.getElem?_eq_none_iff]
      exact (List.reduceOption_length_le cells).trans (List.getElem?_eq_none_iff.1 hcell)
    simpa [Repair.step, hf, hlines] using h
  · -- a line that was dropped
    obtain ⟨hlt, hget⟩ := List.getElem?_eq_some_iff.1 hcell
    have hsame : cells.set i none = cells := by rw [← hget, List.set_getElem_self]
    have hdropped : i ∈ r.dropped := (h.dropped i).2 hcell
    simpa [Repair.step, hf, hdropped, hsame] using h
  · obtain ⟨hlt, -⟩ := List.getElem?_eq_some_iff.1 hcell
    have hstands : i ∉ r.dropped := by simp [h.dropped, hcell]
    obtain ⟨front, back, rfl, hlines, hset⟩ :=
      h.exists_cut (fun j hj => hbefore j (by omega)) hcell
    have hdropped : ∀ (j : Nat) (line : List Char),
        j ∈ r.dropped ↔ (cells.set front.length (some line))[j]? = some none := by
      intro j line
      rw [h.dropped, List.getElem?_set]
      split
      · rename_i hj
        rw [← hj, hcell]
        simp
      · rfl
    have hline : r.lines[front.length]? = some line := by simp [hlines]
    rw [Repair.step_of_stands hf hstands hline]
    simp only [Option.map_eq_map, Option.map_some, Option.getD_some, Option.bind_some, mend]
    split
    · have herase : (front ++ line :: back).eraseIdx front.length = front ++ back := by
        rw [List.eraseIdx_append_of_length_le le_rfl, Nat.sub_self, List.eraseIdx_zero,
          List.tail_cons]
      refine ⟨by simp [hlines, hset, herase], fun j => ?_⟩
      rw [List.mem_cons, h.dropped, List.getElem?_set]
      by_cases hj : front.length = j
      · rw [if_pos hj, if_pos hlt]
        simp [hj]
      · rw [if_neg hj, or_iff_right (Ne.symm hj)]
    · split
      · exact ⟨by simp [hlines, hset], fun j => hdropped j _⟩
      · exact ⟨by simp [hlines, hset], fun j => hdropped j _⟩

/-- **Findings from the last line to the first** are repaired in their cells. -/
theorem Shows.foldl (hsorted : fs.Pairwise fun f g => g.line ≤ f.line) (h : Shows r cells)
    (hbefore : ∀ f ∈ fs, ∀ i, i + 1 < f.line → cells[i]? ≠ some none) :
    Shows (fs.foldl Repair.step r) (fs.foldl mendCell cells) := by
  induction fs generalizing r cells with
  | nil => exact h
  | cons f fs ih =>
    have hf := hbefore f List.mem_cons_self
    refine ih hsorted.of_cons (h.step hf) fun g hg i hi => ?_
    have hline : i + 1 < f.line := hi.trans_le (List.rel_of_pairwise_cons hsorted hg)
    rw [getElem?_mendCell]
    have hkeep : ¬ f.line = i + 1 := by omega
    simp only [hkeep, if_false, Option.map_id']
    exact hf i hline

/-- Every cell sees the findings of its line only. -/
theorem getElem?_foldl_mendCell (fs : List Finding) (cells : List (Option (List Char))) (i : Nat) :
    (fs.foldl mendCell cells)[i]? = cells[i]?.map fun cell =>
      (fs.filter (·.line == i + 1)).foldl (fun cell f => cell.bind (mend f)) cell := by
  induction fs generalizing cells with
  | nil => simp
  | cons f fs ih =>
    rw [List.foldl_cons, ih, getElem?_mendCell, Option.map_map]
    refine Option.map_congr fun cell _ => ?_
    by_cases hf : f.line = i + 1
    · simp [hf]
    · simp [hf]

/-! ## The text

Sorted by line from the last to the first, the findings meet the condition of `Shows.foldl`. -/

/-- The text at the end of the repair. -/
def repaired (text : String) (fs : List Finding) : Repair :=
  (fixable fs).foldl Repair.step ⟨lines text.toList, [], 0⟩

theorem applyFixes_eq (text : String) (fs : List Finding) :
    applyFixes text fs
      = (String.ofList (unlines (repaired text fs).lines), (repaired text fs).applied) :=
  rfl

theorem fixable_pairwise (fs : List Finding) :
    (fixable fs).Pairwise fun f g => g.line ≤ f.line := by
  have hsorted : (fixable fs).Pairwise fun f g => decide (g.line ≤ f.line) = true :=
    List.pairwise_mergeSort (fun f g h hfg hgh => by simp only [decide_eq_true_eq] at *; omega)
      (fun f g => by simp only [Bool.or_eq_true, decide_eq_true_eq]; omega) _
  exact hsorted.imp of_decide_eq_true

theorem foldl_mend_fixable (fs : List Finding) (number : Nat) (line : List Char) :
    ((fixable fs).filter (·.line == number)).foldl (fun cell f => cell.bind (mend f)) (some line)
      = repairedLine fs number line := by
  have hperm := List.mergeSort_perm (fs.filter (·.autoFixable)) fun f g => g.line ≤ f.line
  have hcounted : (fun f : Finding => f.category == "Best Practices" && f.line == number
      && f.autoFixable) = asks "Best Practices" number :=
    funext fun f => by simp only [asks, Bool.and_comm]
  rw [foldl_mend, List.any_filter, List.countP_filter, fixable, hperm.any_eq, hperm.countP_eq,
    List.any_filter, List.countP_filter, hcounted]
  rfl

/-- **The lines at the end** are what the findings made of each line for itself. -/
theorem lines_repaired (text : String) (fs : List Finding) :
    (repaired text fs).lines = (survivors fs text).map Prod.snd := by
  have hstart : Shows ⟨lines text.toList, [], 0⟩ ((lines text.toList).map some) :=
    ⟨by simp [List.reduceOption], fun i => by simp⟩
  have hend := hstart.foldl (fixable_pairwise fs) fun f _ i _ => by simp
  have hcells : (fixable fs).foldl mendCell ((lines text.toList).map some)
      = ((lines text.toList).zipIdx 1).map fun p => repairedLine fs p.2 p.1 := by
    refine List.ext_getElem? fun i => ?_
    rw [getElem?_foldl_mendCell, List.getElem?_map, List.getElem?_map, List.getElem?_zipIdx]
    cases (lines text.toList)[i]? with
    | none => rfl
    | some line =>
      rw [Option.map_some, Option.map_some, foldl_mend_fixable, Option.map_some, Option.map_some,
        Nat.add_comm]
  rw [repaired, hend.lines, hcells, survivors, List.reduceOption, List.filterMap_map,
    List.map_filterMap]
  refine List.filterMap_congr fun p _ => ?_
  rw [Option.map_map]
  exact Option.map_id'.symm

/-! ## Repairs count

`const` is two characters longer than `var`, so a rewritten line is longer.  With the number of
lines first and that of characters second, every repair that is applied makes a step in one
direction. -/

theorem length_varToConst (h : Declares line) : (varToConst line).length = line.length + 2 := by
  obtain ⟨before, rest, hat, heq⟩ := exists_firstWordAt_varToConst h.inLine_varWord
  rw [heq, hat.cut]
  simp
  omega

/-- The number of characters. -/
def Repair.size (r : Repair) : Nat := r.lines.flatten.length

/-- The second repair has gone on from the first: fewer lines stand, or as many with more in
them. -/
structure Repair.GoesOn (r r' : Repair) : Prop where
  applied : r.applied < r'.applied
  lines : r'.lines.length < r.lines.length ∨ r'.lines.length = r.lines.length ∧ r.size < r'.size

theorem Repair.GoesOn.trans {r r' r'' : Repair} (h : r.GoesOn r') (h' : r'.GoesOn r'') :
    r.GoesOn r'' :=
  ⟨h.applied.trans h'.applied, by have := h.lines; have := h'.lines; omega⟩

/-- **A finding** changes nothing, or the repair goes on. -/
theorem Repair.step_cases (r : Repair) (f : Finding) : r.step f = r ∨ r.GoesOn (r.step f) := by
  rw [step]
  split
  · exact .inl rfl
  · split
    · exact .inl rfl
    · rename_i line hline
      obtain ⟨hlt, hget⟩ := List.getElem?_eq_some_iff.1 hline
      split
      · refine .inr ⟨Nat.lt_succ_self _, .inl ?_⟩
        show (r.lines.eraseIdx _).length < _
        rw [List.length_eraseIdx_of_lt hlt]
        omega
      · split
        · rename_i hrewrite
          refine .inr ⟨Nat.lt_succ_self _, .inr ⟨List.length_set, ?_⟩⟩
          have hsize : ∀ image : List Char, (r.lines.set (f.line - 1) image).flatten.length
              = (r.lines.take (f.line - 1)).flatten.length
                + (image.length + (r.lines.drop (f.line - 1 + 1)).flatten.length) := by
            intro image
            rw [List.set_eq_take_append_cons_drop, if_pos hlt, List.flatten_append,
              List.flatten_cons, List.length_append, List.length_append]
          have hself : r.lines.set (f.line - 1) line = r.lines := by
            rw [← hget, List.set_getElem_self]
          have hlength := length_varToConst (isVarDeclaration_iff.1 hrewrite.2)
          have hbefore := hsize line
          rw [hself] at hbefore
          rw [size, size, hbefore, hsize]
          omega
        · exact .inl rfl

theorem Repair.foldl_step_cases (r : Repair) (fs : List Finding) :
    fs.foldl step r = r ∨ r.GoesOn (fs.foldl step r) := by
  induction fs generalizing r with
  | nil => exact .inl rfl
  | cons f fs ih =>
    rcases r.step_cases f with hf | hf
    · rw [List.foldl_cons, hf]
      exact ih r
    · rcases ih (r.step f) with hfs | hfs
      · exact .inr (by rwa [List.foldl_cons, hfs])
      · exact .inr (hf.trans hfs)

/-- **Nothing was applied** exactly if every line is as it was. -/
theorem applied_repaired_eq_zero_iff (text : String) (fs : List Finding) :
    (repaired text fs).applied = 0 ↔ (repaired text fs).lines = lines text.toList := by
  rcases Repair.foldl_step_cases ⟨lines text.toList, [], 0⟩ (fixable fs) with hsame | hgoes
  · rw [repaired, hsame]
    simp
  · have happlied : 0 < (repaired text fs).applied := hgoes.applied
    refine iff_of_false (by omega) fun hlines => ?_
    have hgrown := hgoes.lines
    simp only [Repair.size] at hgrown
    rw [show ((fixable fs).foldl Repair.step ⟨lines text.toList, [], 0⟩).lines
      = lines text.toList from hlines] at hgrown
    omega

/-! ## Joining the lines

The lines that are left have no line feed in them, so joined and cut again they are the same; if
none is left, the text is empty. -/

theorem mem_survivors_iff {text : String} {p : Nat × List Char} :
    p ∈ survivors fs text ↔ ∃ i line, (lines text.toList)[i]? = some line ∧ p.1 = i + 1 ∧
      repairedLine fs (i + 1) line = some p.2 := by
  obtain ⟨number, image⟩ := p
  simp only [survivors, List.mem_filterMap, Prod.exists, List.mk_mem_zipIdx_iff_le_and_getElem?_sub,
    Option.map_eq_some_iff, Prod.mk.injEq]
  constructor
  · rintro ⟨line, _, ⟨hle, hline⟩, _, himage, rfl, rfl⟩
    obtain ⟨i, rfl⟩ := Nat.exists_eq_add_of_le' hle
    exact ⟨i, line, hline, rfl, himage⟩
  · rintro ⟨i, line, hline, rfl, himage⟩
    exact ⟨line, i + 1, ⟨by omega, hline⟩, image, himage, rfl, rfl⟩

/-- A rewritten line has the characters that it had, and those of the new word. -/
theorem mem_varToConst {c : Char} (hvar : Declares line) (h : c ∈ varToConst line) :
    c ∈ line ∨ c ∈ "const".toList := by
  obtain ⟨before, rest, hat, heq⟩ := exists_firstWordAt_varToConst hvar.inLine_varWord
  rw [heq, List.mem_append, List.mem_append] at h
  rw [hat.cut, List.mem_append, List.mem_append]
  tauto

theorem not_mem_varToConst (h : '\n' ∉ line) (hvar : Declares line) : '\n' ∉ varToConst line :=
  fun hmem => (mem_varToConst hvar hmem).elim h (by decide)

theorem not_mem_rewritten (h : '\n' ∉ line) (n : Nat) : '\n' ∉ rewritten n line := by
  induction n generalizing line with
  | zero => exact h
  | succ n ih =>
    rw [rewritten]
    split
    · rename_i hvar
      exact ih (not_mem_varToConst h hvar)
    · exact h

theorem eq_rewritten_of_repairedLine {image : List Char}
    (h : repairedLine fs number line = some image) :
    image = rewritten (fs.countP (asks "Best Practices" number)) line := by
  rw [repairedLine] at h
  split at h
  · cases h
  · exact (Option.some.inj h).symm

/-- The empty line is left as it is. -/
theorem repairedLine_nil (fs : List Finding) (number : Nat) :
    repairedLine fs number [] = some [] := by
  have hshows : ¬ ShowsDebugging [] := by decide
  have hdeclares : ¬ Declares [] := by decide
  rw [repairedLine, if_neg fun h => hshows h.2, rewritten_of_not_declares hdeclares]

/-- If a line is left, the lines left are the lines of the repaired text. -/
theorem lines_unlines_survivors {text : String} (h : survivors fs text ≠ []) :
    lines (unlines ((survivors fs text).map Prod.snd)) = (survivors fs text).map Prod.snd := by
  refine lines_unlines (by simpa using h) fun image himage => ?_
  obtain ⟨p, hp, rfl⟩ := List.mem_map.1 himage
  obtain ⟨i, line, hline, -, hleft⟩ := mem_survivors_iff.1 hp
  rw [eq_rewritten_of_repairedLine hleft]
  exact not_mem_rewritten (not_mem_of_mem_lines (List.mem_of_getElem? hline)) _

/-- Joined, the lines left are the text exactly if they are its lines. -/
theorem unlines_survivors_eq_iff (text : String) (fs : List Finding) :
    unlines ((survivors fs text).map Prod.snd) = text.toList ↔
      (survivors fs text).map Prod.snd = lines text.toList := by
  constructor
  · intro htext
    by_cases hleft : survivors fs text = []
    · -- a text without lines would be the empty text, and that has one
      rw [hleft] at htext
      have hempty : text.toList = [] := htext.symm
      have hfirst : (1, []) ∈ survivors fs text :=
        mem_survivors_iff.2 ⟨0, [], by rw [hempty]; rfl, rfl, repairedLine_nil fs 1⟩
      rw [hleft] at hfirst
      cases hfirst
    · rw [← lines_unlines_survivors hleft, htext]
  · intro hlines
    rw [hlines, unlines_lines]

theorem applyFixes_fst (text : String) (fs : List Finding) :
    (applyFixes text fs).1 = String.ofList (unlines ((survivors fs text).map Prod.snd)) := by
  rw [applyFixes_eq, lines_repaired]

/-- Nothing was applied exactly if the lines left are the lines of the text. -/
theorem applyFixes_snd_eq_zero_iff (text : String) (fs : List Finding) :
    (applyFixes text fs).2 = 0 ↔ (survivors fs text).map Prod.snd = lines text.toList := by
  rw [applyFixes_eq, applied_repaired_eq_zero_iff, lines_repaired]

/-- Nothing has changed exactly if the lines left are the lines of the text. -/
theorem applyFixes_fst_eq_iff (text : String) (fs : List Finding) :
    (applyFixes text fs).1 = text ↔ (survivors fs text).map Prod.snd = lines text.toList := by
  rw [applyFixes_fst, ← String.toList_inj, String.toList_ofList, unlines_survivors_eq_iff]

/-- **Repairing is line by line.**  The text is joined again from what the findings leave of each of
its lines for itself; the order of the findings does not matter; and something was applied exactly
if the text has changed. -/
theorem applyFixes_eq_lineByLine (text : String) (fs : List Finding) :
    (applyFixes text fs).1 = String.ofList (unlines ((survivors fs text).map Prod.snd)) ∧
      (∀ gs : List Finding, gs.Perm fs → (applyFixes text gs).1 = (applyFixes text fs).1) ∧
      (0 < (applyFixes text fs).2 ↔ (applyFixes text fs).1 ≠ text) := by
  refine ⟨applyFixes_fst text fs, fun gs hperm => ?_, ?_⟩
  · have hsame : survivors gs text = survivors fs text := by
      simp only [survivors, repairedLine_perm hperm]
    rw [applyFixes_fst, applyFixes_fst, hsame]
  · rw [Nat.pos_iff_ne_zero, Ne, Ne, applyFixes_snd_eq_zero_iff, applyFixes_fst_eq_iff]

end CodeReview.Rule
