import CodeReview.Proofs.Finding.Merged
import CodeReview.Proofs.Rule.Shape

/-!
# The findings of a scan, one by one

A scan makes one finding for each rule and each line that shows what the rule looks for, and no
other.  What a rule looks for is said in `Shape.lean` without patterns, so this is a statement
about texts: read it, and you know what a scan finds (`scanText_listed`).

They stand in the order of severity, of lines, and of the rules.  The sort knows the first two.  It
is stable, and the rules are applied one after another, so the third is left where the two are the
same. `pairwise_of_ties` is this argument for any sorted list: an order within ties is an order of
the list, behind that of ranks and lines.
-/

set_option autoImplicit false

namespace CodeReview

/-! ## Sorted findings

Two findings of one tie stand in the order that they have in the tie by itself. -/

namespace Finding

variable {fs : List Finding} {R : Finding → Finding → Prop}

/-- **In a list in report order,** ties are what the order within them says. -/
theorem pairwise_of_ties (hsorted : fs.Pairwise fun f g => before f g = true)
    (hties : ∀ rank line, (fs.filter (standsAt rank line)).Pairwise R) :
    fs.Pairwise fun f g => f.severity.rank < g.severity.rank ∨
      f.severity.rank = g.severity.rank ∧ (f.line < g.line ∨ f.line = g.line ∧ R f g) := by
  rw [List.pairwise_iff_forall_sublist]
  intro f g hsub
  have hbefore : before f g = true := List.pairwise_iff_forall_sublist.1 hsorted hsub
  simp only [before, Bool.or_eq_true, Bool.and_eq_true, beq_iff_eq, decide_eq_true_eq] at hbefore
  rcases hbefore with hrank | ⟨hrank, hline⟩
  · exact .inl hrank
  refine .inr ⟨hrank, ?_⟩
  rcases Nat.lt_or_eq_of_le hline with hline | hline
  · exact .inl hline
  refine .inr ⟨hline, ?_⟩
  have htie : [f, g].filter (standsAt f.severity.rank f.line) = [f, g] := by
    have hg : standsAt f.severity.rank f.line g = true := by simp [standsAt, hrank, hline]
    rw [List.filter_cons_of_pos (standsAt_self f), List.filter_cons_of_pos hg, List.filter_nil]
  refine List.pairwise_iff_forall_sublist.1 (hties f.severity.rank f.line) ?_
  rw [← htie]
  exact hsub.filter _

end Finding

namespace Rule

open CodeReview.Text Pattern

variable {path text : String} {f : Finding}

/-! ## The order of the rules

The rule that made a finding is known by its message, since no two rules of a review have one
message. -/

/-- The place of the rule that made a finding, among the rules of a review. -/
def placeOf (f : Finding) : Nat := (defaults.map message).idxOf f.message

theorem placeOf_of_mem {r : Rule} (hf : f ∈ r.findings text path) :
    placeOf f = (defaults.map message).idxOf r.message := by
  rw [placeOf, (of_mem_findingsFrom hf).2.1]

theorem pairwise_idxOf_defaults : defaults.Pairwise fun r r' =>
    (defaults.map message).idxOf r.message < (defaults.map message).idxOf r'.message := by
  decide +kernel

/-- Findings of one line are made in the order of the rules. -/
theorem pairwise_placeOf (text path : String) :
    (defaults.flatMap fun r => r.findings text path).Pairwise fun f g =>
      f.line = g.line → placeOf f < placeOf g := by
  refine List.pairwise_flatMap.2
    ⟨fun r _ => ?_, pairwise_idxOf_defaults.imp fun hlt f hf g hg _ => ?_⟩
  · refine (pairwise_line_findingsFrom r path 1 _).imp fun {f g} hlt heq => ?_
    omega
  · rw [placeOf_of_mem hf, placeOf_of_mem hg]
    exact hlt

/-- **The order of a scan.** -/
theorem pairwise_scanText (text path : String) :
    (scanText text path).Pairwise fun f g => f.severity.rank < g.severity.rank ∨
      f.severity.rank = g.severity.rank ∧
        (f.line < g.line ∨ f.line = g.line ∧ placeOf f < placeOf g) := by
  refine Finding.pairwise_of_ties (Finding.sort_pairwise _) fun rank line => ?_
  rw [scanText, scan, Finding.filter_standsAt_sort]
  have hfound := (pairwise_placeOf text path).filter (Finding.standsAt rank line)
  refine hfound.imp_of_mem fun {f g} hf hg hplaces => hplaces ?_
  have hstands := (List.mem_filter.1 hf).2
  have hstands' := (List.mem_filter.1 hg).2
  simp only [Finding.standsAt, Bool.and_eq_true, beq_iff_eq] at hstands hstands'
  rw [hstands.2, hstands'.2]

/-! ## One finding for a rule and a line

The finding of a rule and a line is unique among those of the scan, so a filter that picks it out
has one element or none. -/

/-- The finding is of this rule and this line. -/
def isOf (r : Rule) (number : Nat) (f : Finding) : Bool :=
  f.message == r.message && f.line == number

theorem filter_eq_singleton {α : Type} [DecidableEq α] {l : List α} {p : α → Bool} {a : α}
    (hnodup : l.Nodup) (ha : a ∈ l) (hp : ∀ b ∈ l, p b = true ↔ b = a) : l.filter p = [a] := by
  have hcongr : l.filter p = l.filter (· == a) :=
    List.filter_congr fun b hb => Bool.eq_iff_iff.2 ((hp b hb).trans beq_iff_eq.symm)
  rw [hcongr, List.filter_beq, hnodup.count, if_pos ha, List.replicate_one]

/-- **What a scan finds of a rule and a line.** -/
theorem filter_isOf_scanText {r : Rule} (hr : r ∈ defaults) {before following : List (List Char)}
    {line : List Char} (hcut : lines text.toList = before ++ line :: following) :
    (scanText text path).filter (isOf r (before.length + 1))
      = if r.flags path line following then [r.finding path (before.length + 1) line] else [] := by
  have hnodup : (scanText text path).Nodup := (nodup_keys_scanText text path).of_map _
  -- what is found of the rule and the line is the finding of the rule, and the rule flags the line
  have hof : ∀ f ∈ scanText text path, isOf r (before.length + 1) f = true →
      r.flags path line following = true ∧ f = r.finding path (before.length + 1) line := by
    intro f hf hisOf
    simp only [isOf, Bool.and_eq_true, beq_iff_eq] at hisOf
    obtain ⟨r', hr', hfound⟩ := mem_scanText.1 hf
    obtain ⟨before', line', following', hcut', hflags, rfl⟩ := mem_findingsFrom.1 hfound
    obtain rfl : r' = r := List.inj_on_of_nodup_map nodup_message_defaults hr' hr hisOf.1
    have hlength : before'.length = before.length := by
      have hnumber : 1 + before'.length = before.length + 1 := hisOf.2
      omega
    obtain ⟨rfl, hrest⟩ := List.append_inj (hcut.symm.trans hcut') hlength.symm
    obtain ⟨rfl, rfl⟩ := List.cons.inj hrest
    exact ⟨hflags, by rw [Nat.add_comm]⟩
  split
  · rename_i hflags
    refine filter_eq_singleton hnodup ?_ fun f hf => ⟨fun h => (hof f hf h).2, ?_⟩
    · refine mem_scanText.2 ⟨r, hr, mem_findingsFrom.2 ⟨before, line, following, hcut, hflags, ?_⟩⟩
      rw [Nat.add_comm]
    · rintro rfl
      simp [isOf, finding]
  · rename_i hflags
    exact List.filter_eq_nil_iff.2 fun f hf h => hflags (hof f hf h).1

/-- **What a scan finds.**  For each rule of a review and each line of a text there is exactly one
finding, with the number of the line and the trimmed line, if the line shows what the rule looks
for, and none otherwise.  Every finding is of that kind.  They stand in the order of severity, then
of lines, then of the rules. -/
theorem scanText_listed (text path : String) :
    (∀ r shows, (r, shows) ∈ defaults.zip sought → ∀ before line following,
      lines text.toList = before ++ line :: following →
        (shows path line following → (scanText text path).filter (isOf r (before.length + 1))
          = [r.finding path (before.length + 1) line]) ∧
        (¬ shows path line following →
          (scanText text path).filter (isOf r (before.length + 1)) = [])) ∧
      (∀ f ∈ scanText text path, ∃ r shows before line following, (r, shows) ∈ defaults.zip sought ∧
        lines text.toList = before ++ line :: following ∧ shows path line following ∧
        f = r.finding path (before.length + 1) line) ∧
      (scanText text path).Pairwise fun f g => f.severity.rank < g.severity.rank ∨
        f.severity.rank = g.severity.rank ∧
          (f.line < g.line ∨ f.line = g.line ∧ placeOf f < placeOf g) := by
  have hflags : ∀ {r shows}, (r, shows) ∈ defaults.zip sought → ∀ line following,
      r.flags path line following = true ↔ shows path line following :=
    fun hmem => List.forall₂_iff_zip.1 flags_iff_sought |>.2 hmem path
  refine ⟨fun r shows hmem before line following hcut => ?_, fun f hf => ?_,
    pairwise_scanText text path⟩
  · rw [filter_isOf_scanText (List.of_mem_zip hmem).1 hcut]
    refine ⟨fun hshows => if_pos ((hflags hmem _ _).2 hshows), fun hshows => if_neg fun h => ?_⟩
    exact hshows ((hflags hmem _ _).1 h)
  · obtain ⟨r, hr, hfound⟩ := mem_scanText.1 hf
    obtain ⟨before, line, following, hcut, hflagged, rfl⟩ := mem_findingsFrom.1 hfound
    have hfirst : (defaults.zip sought).map Prod.fst = defaults :=
      List.map_fst_zip (List.Forall₂.length_eq flags_iff_sought).le
    rw [← hfirst] at hr
    obtain ⟨⟨r, shows⟩, hmem, rfl⟩ := List.mem_map.1 hr
    exact ⟨r, shows, before, line, following, hmem, hcut, (hflags hmem _ _).1 hflagged,
      by rw [Nat.add_comm]⟩

end Rule
end CodeReview
