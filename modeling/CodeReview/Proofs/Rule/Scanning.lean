import CodeReview.Proofs.Finding.Distinct
import CodeReview.Rule.Default

/-!
# Scanning finds nothing twice

The key of a finding has its file, its line and its message.  Two findings of one rule differ in
their lines, as a rule says one thing of a line at most; and two of different rules differ in their
message, if the rules have different wordings.  So rules with different wordings never make the
same finding (`nodup_keys_scan`), and the rules of a review have different wordings
(`nodup_keys_scanText`).

A merge whose primary source is a scan therefore repeats no key.
-/

set_option autoImplicit false

namespace CodeReview.Rule

variable {r : Rule} {rules : List Rule} {path text : String} {f : Finding}

/-! ## One rule

A rule goes along the lines with the number of the next one. -/

theorem of_mem_findingsFrom {number : Nat} {ls : List (List Char)}
    (h : f ∈ r.findingsFrom path number ls) :
    f.file = path ∧ f.message = r.message ∧ number ≤ f.line := by
  obtain ⟨before, line, following, -, -, rfl⟩ := mem_findingsFrom.1 h
  exact ⟨rfl, rfl, Nat.le_add_right _ _⟩

/-- **A rule goes from line to line.** -/
theorem pairwise_line_findingsFrom (r : Rule) (path : String) (number : Nat)
    (ls : List (List Char)) :
    (r.findingsFrom path number ls).Pairwise fun f g => f.line < g.line := by
  induction ls generalizing number with
  | nil => exact List.Pairwise.nil
  | cons line following ih =>
    rw [findingsFrom]
    split
    · refine (ih (number + 1)).cons fun g hg => ?_
      have hlater : number + 1 ≤ g.line := (of_mem_findingsFrom hg).2.2
      show number < g.line
      omega
    · exact ih (number + 1)

theorem nodup_keys_findings (r : Rule) (text path : String) :
    ((r.findings text path).map Finding.key).Nodup := by
  have hlines := pairwise_line_findingsFrom r path 1 (Text.lines text.toList)
  refine List.pairwise_map.2 (hlines.imp fun {f g} hlt hkey => ?_)
  have hline : f.line = g.line := congrArg (fun k : Finding.Key => k.2.1) hkey
  omega

/-! ## All rules

The findings of the rules are sorted together, which changes nothing about keys. -/

theorem mem_scanText : f ∈ scanText text path ↔ ∃ r ∈ defaults, f ∈ r.findings text path := by
  simp [scanText, scan, (Finding.sort_perm _).mem_iff]

/-- **Rules with different wordings** make no finding twice. -/
theorem nodup_keys_scan (h : (rules.map message).Nodup) (text path : String) :
    ((scan rules text path).map Finding.key).Nodup := by
  rw [scan, ((Finding.sort_perm _).map Finding.key).nodup_iff]
  refine Finding.nodup_keys_flatMap (fun k => k.2.2) h
    (fun r _ => nodup_keys_findings r text path) fun r _ f hf => ?_
  exact (of_mem_findingsFrom hf).2.1

theorem nodup_message_defaults : (defaults.map message).Nodup := by
  decide

/-- **The rules of a review** find nothing twice in a text. -/
theorem nodup_keys_scanText (text path : String) :
    ((scanText text path).map Finding.key).Nodup :=
  nodup_keys_scan nodup_message_defaults text path

end CodeReview.Rule
