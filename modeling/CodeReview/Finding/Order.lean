import CodeReview.Finding.Basic

/-!
# The order of a report, and merging

Findings are reported by severity, the gravest first, and by line within a severity; the sort is
stable, so what came first stays first.

Two sources are merged with one of them in charge: every finding of the primary source is kept, and
the secondary one adds the first finding of each key that is not there yet (`addNew`).  Merging is
therefore not symmetric.
-/

set_option autoImplicit false

namespace CodeReview.Finding

/-- `f` may stand before `g` in a report. -/
def before (f g : Finding) : Bool :=
  f.severity.rank < g.severity.rank || (f.severity.rank == g.severity.rank && f.line ≤ g.line)

/-- The findings in report order. -/
def sort (fs : List Finding) : List Finding := fs.mergeSort before

/-- The findings whose key is neither in `seen` nor among those before them. -/
def addNew (seen : List Key) : List Finding → List Finding
  | [] => []
  | f :: fs => if f.key ∈ seen then addNew seen fs else f :: addNew (f.key :: seen) fs

/-- All of `primary` and what `secondary` adds to it, in report order. -/
def merge (primary secondary : List Finding) : List Finding :=
  sort (primary ++ addNew (primary.map key) secondary)

/-- The findings that a completion service is asked to repair. -/
def selectGrave (fs : List Finding) : List Finding := fs.filter (·.severity.isGrave)

/-! ## The order is total -/

theorem before_total (f g : Finding) : (before f g || before g f) = true := by
  simp only [before, Bool.or_eq_true, Bool.and_eq_true, beq_iff_eq, decide_eq_true_eq]
  omega

theorem before_trans (f g h : Finding) (hfg : before f g = true) (hgh : before g h = true) :
    before f h = true := by
  simp only [before, Bool.or_eq_true, Bool.and_eq_true, beq_iff_eq, decide_eq_true_eq] at *
  omega

/-- **Sorting loses and adds nothing.** -/
theorem sort_perm (fs : List Finding) : (sort fs).Perm fs := List.mergeSort_perm fs before

/-- **The result is in report order.** -/
theorem sort_pairwise (fs : List Finding) :
    (sort fs).Pairwise fun f g => before f g = true :=
  List.pairwise_mergeSort before_trans before_total fs

end CodeReview.Finding
