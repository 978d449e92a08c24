import CodeReview.Finding.Order

/-!
# Some of the findings

Findings are often asked for by something that their keys decide, such as the file they are in.  A
review merges the findings of all files and then fixes file by file; it could as well have merged
file by file.  That the two are the same is `filter_merge`: whether findings are picked out before
or after sorting and merging makes no difference.

There are two reasons behind it.  A stable sort keeps those picked out in their order
(`filter_sort`). And findings of different keys do not compete when two sources are merged, so that
picking out by something that keys decide takes whole keys or none.  For a property that keys do
not decide, the statement is false: the first finding of a key might be left out and the second be
kept.
-/

set_option autoImplicit false

namespace CodeReview.Finding

variable {p : Finding → Bool}

/-! ## Sorting

Sorting is by insertion as far as the proofs are concerned.  `sort_cons` says where a finding is
put, and that the rest is sorted as without it. -/

theorem sort_of_pairwise {fs : List Finding} (h : fs.Pairwise fun f g => before f g = true) :
    sort fs = fs := List.mergeSort_of_pairwise h

theorem sort_nil : sort [] = [] := sort_of_pairwise .nil

@[simp] theorem sort_sort (fs : List Finding) : sort (sort fs) = sort fs :=
  sort_of_pairwise (sort_pairwise fs)

theorem mem_sort {f : Finding} {fs : List Finding} : f ∈ sort fs ↔ f ∈ fs := (sort_perm fs).mem_iff

/-- A finding is sorted in before the first one that may stand behind it. -/
theorem sort_cons (f : Finding) (fs : List Finding) :
    ∃ l₁ l₂, sort (f :: fs) = l₁ ++ f :: l₂ ∧ sort fs = l₁ ++ l₂ ∧
      ∀ g ∈ l₁, (!before f g) = true :=
  List.mergeSort_cons before_trans before_total f fs

/-- Where a list is divided by a property, it is divided there alone. -/
theorem append_inj_of_divided {α : Type} {q : α → Bool} {l₁ l₂ m₁ m₂ : List α}
    (h : l₁ ++ l₂ = m₁ ++ m₂) (hl₁ : ∀ a ∈ l₁, q a = true) (hl₂ : ∀ a ∈ l₂, q a = false)
    (hm₁ : ∀ a ∈ m₁, q a = true) (hm₂ : ∀ a ∈ m₂, q a = false) : l₁ = m₁ ∧ l₂ = m₂ := by
  have hfirst : l₁ = m₁ := by
    have hq := congrArg (List.filter q) h
    rw [List.filter_append, List.filter_append, List.filter_eq_self.2 hl₁,
      List.filter_eq_self.2 hm₁, List.filter_eq_nil_iff.2 (by simpa using hl₂),
      List.filter_eq_nil_iff.2 (by simpa using hm₂), List.append_nil, List.append_nil] at hq
    exact hq
  rw [hfirst] at h
  exact ⟨hfirst, List.append_cancel_left h⟩

/-- What stands behind the finding that was sorted in may stand behind it. -/
theorem before_of_sort_eq {f g : Finding} {fs l₁ l₂ : List Finding} (h : sort fs = l₁ ++ f :: l₂)
    (hg : g ∈ l₂) : before f g = true := by
  have hsorted := sort_pairwise fs
  rw [h, List.pairwise_append] at hsorted
  exact List.rel_of_pairwise_cons hsorted.2.1 hg

/-- **Findings picked out of a sorted list are sorted as they are by themselves.** -/
theorem filter_sort (p : Finding → Bool) (fs : List Finding) :
    (sort fs).filter p = sort (fs.filter p) := by
  induction fs with
  | nil => exact (congrArg (List.filter p) sort_nil).trans sort_nil.symm
  | cons f fs ih =>
    obtain ⟨l₁, l₂, hl, hrest, hl₁⟩ := sort_cons f fs
    rw [hrest, List.filter_append] at ih
    rw [hl, List.filter_append]
    by_cases hf : p f = true
    · obtain ⟨m₁, m₂, hm, hkept, hm₁⟩ := sort_cons f (fs.filter p)
      rw [List.filter_cons_of_pos hf, List.filter_cons_of_pos hf, hm]
      -- both lists are divided by the findings that may not stand behind `f`
      obtain ⟨h₁, h₂⟩ := append_inj_of_divided (q := fun g => !before f g) (ih.trans hkept)
        (fun g hg => hl₁ g (List.mem_filter.1 hg).1)
        (fun g hg => by simpa using before_of_sort_eq hl (List.mem_filter.1 hg).1)
        hm₁ (fun g hg => by simpa using before_of_sort_eq hm hg)
      rw [h₁, h₂]
    · rw [List.filter_cons_of_neg hf, List.filter_cons_of_neg hf, ih]

/-! ## Merging

The property `p` is one that keys decide. -/

/-- Only keys that occur matter. -/
theorem addNew_congr {seen seen' : List Key} {fs : List Finding}
    (h : ∀ f ∈ fs, f.key ∈ seen ↔ f.key ∈ seen') : addNew seen fs = addNew seen' fs := by
  induction fs generalizing seen seen' with
  | nil => rfl
  | cons f fs ih =>
    rw [List.forall_mem_cons] at h
    by_cases hf : f.key ∈ seen
    · rw [addNew, addNew, if_pos hf, if_pos (h.1.1 hf), ih h.2]
    · rw [addNew, addNew, if_neg hf, if_neg fun hf' => hf (h.1.2 hf')]
      congr 1
      exact ih fun g hg => by rw [List.mem_cons, List.mem_cons, h.2 g hg]

section Keyed

variable (hp : ∀ f g : Finding, f.key = g.key → p f = p g)

include hp

theorem filter_addNew (seen : List Key) (fs : List Finding) :
    (addNew seen fs).filter p = addNew seen (fs.filter p) := by
  induction fs generalizing seen with
  | nil => rfl
  | cons f fs ih =>
    by_cases hseen : f.key ∈ seen
    · rw [addNew, if_pos hseen, ih]
      by_cases hf : p f = true
      · rw [List.filter_cons_of_pos hf, addNew, if_pos hseen]
      · rw [List.filter_cons_of_neg hf]
    · rw [addNew, if_neg hseen]
      by_cases hf : p f = true
      · rw [List.filter_cons_of_pos hf, List.filter_cons_of_pos hf, addNew, if_neg hseen, ih]
      · rw [List.filter_cons_of_neg hf, List.filter_cons_of_neg hf, ih]
        refine addNew_congr fun g hg => ?_
        have hne : g.key ≠ f.key := fun hkey => by
          rw [← hp g f hkey, (List.mem_filter.1 hg).2] at hf
          exact hf rfl
        rw [List.mem_cons, or_iff_right hne]

/-- **Findings picked out of merged ones by something that their keys decide** are those picked out
of both sources, merged. -/
theorem filter_merge (primary secondary : List Finding) :
    (merge primary secondary).filter p = merge (primary.filter p) (secondary.filter p) := by
  rw [merge, merge, filter_sort, List.filter_append, filter_addNew hp]
  congr 2
  refine addNew_congr fun g hg => ?_
  simp only [List.mem_map, List.mem_filter]
  constructor
  · rintro ⟨f, hf, hkey⟩
    exact ⟨f, ⟨hf, by rw [hp f g hkey, (List.mem_filter.1 hg).2]⟩, hkey⟩
  · rintro ⟨f, ⟨hf, -⟩, hkey⟩
    exact ⟨f, hf, hkey⟩

end Keyed

theorem merge_nil (primary : List Finding) : merge primary [] = sort primary := by
  rw [merge, addNew, List.append_nil]

/-- Every finding of the primary source is kept. -/
theorem mem_merge_of_mem {f : Finding} {primary secondary : List Finding} (h : f ∈ primary) :
    f ∈ merge primary secondary := mem_sort.2 (List.mem_append_left _ h)

/-! ## One file

The file of a finding is part of its key. -/

/-- Findings made file by file, each in its own, are made again by picking out a file. -/
theorem filter_flatMap_file {paths : List String} {found : String → List Finding}
    (hnodup : paths.Nodup) (hfile : ∀ path, ∀ f ∈ found path, f.file = path) (path : String) :
    (paths.flatMap found).filter (fun f => f.file == path)
      = if path ∈ paths then found path else [] := by
  induction paths with
  | nil => rfl
  | cons q paths ih =>
    rw [List.nodup_cons] at hnodup
    rw [List.flatMap_cons, List.filter_append, ih hnodup.2]
    by_cases hq : q = path
    · subst hq
      rw [if_neg hnodup.1, if_pos List.mem_cons_self, List.append_nil]
      exact List.filter_eq_self.2 fun f hf => by simpa using hfile q f hf
    · have hnone : (found q).filter (fun f => f.file == path) = [] :=
        List.filter_eq_nil_iff.2 fun f hf => by simpa [hfile q f hf] using hq
      have hmem : path ∈ q :: paths ↔ path ∈ paths := by
        rw [List.mem_cons, or_iff_right (Ne.symm hq)]
      simp only [hnone, List.nil_append, hmem]

theorem file_eq_of_key_eq {f g : Finding} (h : f.key = g.key) : f.file = g.file :=
  (Prod.mk.inj h).1

end CodeReview.Finding
