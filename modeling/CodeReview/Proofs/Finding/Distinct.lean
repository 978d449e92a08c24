import CodeReview.Proofs.Finding.Merging
import Mathlib.Data.List.Nodup

/-!
# Findings of different keys

A report should not tell the same thing twice, so no two findings in it should share a key.
Merging does not see to this by itself: repeats in the primary source are kept.  But if the primary
source repeats no key, the merge repeats none (`nodup_keys_merge`), as what a source adds has keys
that were not there, each once (`nodup_keys_addNew`).  A list in the order of a report that repeats
no key is `Orderly`, and merging into an orderly list leaves it orderly.  That is the invariant of
a review: it starts from the empty list or from the findings of one pass, and everything else is
merged in.

The other half of the file is about a source that was merged by itself first, as the findings of a
service are.  Nothing is lost by that (`merge_merge_nil`): the first finding of a key is the same
one, and a stable sort of a part is undone by no later sort of the whole (`sort_append_sort`).
-/

set_option autoImplicit false

namespace CodeReview.Finding

variable {primary secondary fs gs : List Finding} {seen : List Key}

/-! ## Groups of findings

Findings are made file by file and rule by rule.  Their keys tell the file and the rule, so
findings of different groups have different keys, and only those of one group have to be compared.
-/

/-- **Groups that share no key.**  Findings taken group by group have different keys if those of a
group have, and something that the keys decide tells the groups apart. -/
theorem nodup_keys_flatMap {α β : Type} {groups : List α} {found : α → List Finding}
    {tag : α → β} (tagOf : Key → β) (hgroups : (groups.map tag).Nodup)
    (heach : ∀ x ∈ groups, ((found x).map key).Nodup)
    (htag : ∀ x ∈ groups, ∀ f ∈ found x, tagOf f.key = tag x) :
    ((groups.flatMap found).map key).Nodup := by
  rw [List.map_flatMap, List.nodup_flatMap]
  refine ⟨heach, (List.pairwise_map.1 hgroups).imp_of_mem fun {x y} hx hy hne => ?_⟩
  show List.Disjoint ((found x).map key) ((found y).map key)
  intro k hkx hky
  obtain ⟨f, hf, rfl⟩ := List.mem_map.1 hkx
  obtain ⟨g, hg, hkey⟩ := List.mem_map.1 hky
  have hsame : tag y = tag x := by rw [← htag y hy g hg, hkey, htag x hx f hf]
  exact hne hsame.symm

/-! ## What is added

`addNew` goes along the source with the keys it has met.  Whether it met them in this source or in
an earlier one makes a difference for nothing but the first of each key. -/

/-- Nothing is added under a key that was there. -/
theorem key_not_mem_of_mem_addNew {f : Finding} (h : f ∈ addNew seen fs) : f.key ∉ seen := by
  induction fs generalizing seen with
  | nil => cases h
  | cons g fs ih =>
    rw [addNew] at h
    split at h
    · exact ih h
    · rename_i hnew
      rcases List.mem_cons.1 h with rfl | h
      · exact hnew
      · intro hseen
        exact ih h (List.mem_cons_of_mem _ hseen)

/-- **What is added** has different keys. -/
theorem nodup_keys_addNew (seen : List Key) (fs : List Finding) :
    ((addNew seen fs).map key).Nodup := by
  induction fs generalizing seen with
  | nil => exact List.nodup_nil
  | cons f fs ih =>
    rw [addNew]
    split
    · exact ih seen
    · rw [List.map_cons, List.nodup_cons]
      refine ⟨fun hmem => ?_, ih _⟩
      obtain ⟨g, hg, hkey⟩ := List.mem_map.1 hmem
      have hnew := key_not_mem_of_mem_addNew hg
      rw [hkey] at hnew
      exact hnew List.mem_cons_self

/-- A source that repeats no key adds the findings of all keys that were not there. -/
theorem addNew_of_nodup (h : (fs.map key).Nodup) :
    addNew seen fs = fs.filter fun f => f.key ∉ seen := by
  induction fs generalizing seen with
  | nil => rfl
  | cons f fs ih =>
    rw [List.map_cons, List.nodup_cons] at h
    by_cases hseen : f.key ∈ seen
    · rw [addNew, if_pos hseen, ih h.2, List.filter_cons_of_neg (by simpa using hseen)]
    · have hrest : addNew (f.key :: seen) fs = addNew seen fs := by
        refine addNew_congr fun g hg => ?_
        have hne : g.key ≠ f.key := fun hkey => h.1 (hkey ▸ List.mem_map_of_mem hg)
        rw [List.mem_cons, or_iff_right hne]
      rw [addNew, if_neg hseen, hrest, ih h.2, List.filter_cons_of_pos (by simpa using hseen)]

/-- Keys that were there before the others are passed over in the end as well. -/
theorem addNew_append (seen met : List Key) (fs : List Finding) :
    addNew (seen ++ met) fs = (addNew met fs).filter fun f => f.key ∉ seen := by
  induction fs generalizing met with
  | nil => rfl
  | cons f fs ih =>
    by_cases hmet : f.key ∈ met
    · rw [addNew, addNew, if_pos hmet, if_pos (List.mem_append_right _ hmet), ih]
    · rw [addNew, addNew, if_neg hmet]
      have hnext : ∀ g ∈ fs, g.key ∈ f.key :: (seen ++ met) ↔ g.key ∈ seen ++ f.key :: met := by
        intro g _
        simp only [List.mem_cons, List.mem_append]
        exact or_left_comm
      by_cases hseen : f.key ∈ seen
      · have hskip : ∀ g ∈ fs, g.key ∈ seen ++ met ↔ g.key ∈ f.key :: (seen ++ met) := by
          intro g _
          by_cases hg : g.key = f.key
          · simp [hg, hseen]
          · simp [hg]
        rw [if_pos (List.mem_append_left _ hseen), addNew_congr hskip, addNew_congr hnext, ih,
          List.filter_cons_of_neg (by simpa using hseen)]
      · have hboth : f.key ∉ seen ++ met := by simp [hmet, hseen]
        rw [if_neg hboth, addNew_congr hnext, ih, List.filter_cons_of_pos (by simpa using hseen)]

/-- **A source can be cleaned first:** what it adds is what is new in it. -/
theorem addNew_eq_filter (seen : List Key) (fs : List Finding) :
    addNew seen fs = (addNew [] fs).filter fun f => f.key ∉ seen := by
  have happend := addNew_append seen [] fs
  rwa [List.append_nil] at happend

/-! ## Sorting what was sorted

A stable sort of a list is determined by its order and by the order of ties, and both are the same
if a part was sorted before. -/

/-- A finding is sorted in by the order of the others alone. -/
theorem sort_cons_congr (h : sort fs = sort gs) (f : Finding) :
    sort (f :: fs) = sort (f :: gs) := by
  obtain ⟨l₁, l₂, hl, hfs, hl₁⟩ := sort_cons f fs
  obtain ⟨m₁, m₂, hm, hgs, hm₁⟩ := sort_cons f gs
  obtain ⟨h₁, h₂⟩ := append_inj_of_divided (q := fun g => !before f g)
    (hfs.symm.trans (h.trans hgs)) hl₁ (fun g hg => by simpa using before_of_sort_eq hl hg)
    hm₁ (fun g hg => by simpa using before_of_sort_eq hm hg)
  rw [hl, hm, h₁, h₂]

/-- **Sorting a part first** changes nothing. -/
theorem sort_append_sort (fs gs : List Finding) : sort (fs ++ sort gs) = sort (fs ++ gs) := by
  induction fs with
  | nil => exact sort_sort gs
  | cons f fs ih => exact sort_cons_congr ih f

/-! ## Merging

Sorted once more at the end, what was sorted before does not show. -/

/-- **A source can be merged by itself first.** -/
theorem merge_merge_nil (primary secondary : List Finding) :
    merge primary (merge [] secondary) = merge primary secondary := by
  have hclean : ((merge [] secondary).map key).Nodup :=
    ((sort_perm _).map key).nodup_iff.2 (nodup_keys_addNew _ secondary)
  have hsorted : merge [] secondary = sort (addNew [] secondary) := rfl
  rw [merge, addNew_of_nodup hclean, hsorted, filter_sort, ← addNew_eq_filter, sort_append_sort]
  rfl

/-- **A merge repeats no key** if its primary source repeats none. -/
theorem nodup_keys_merge (h : (primary.map key).Nodup) (secondary : List Finding) :
    ((merge primary secondary).map key).Nodup := by
  have hperm := (sort_perm (primary ++ addNew (primary.map key) secondary)).map key
  rw [merge, hperm.nodup_iff, List.map_append, List.nodup_append]
  refine ⟨h, nodup_keys_addNew _ secondary, fun k hk k' hk' heq => ?_⟩
  obtain ⟨f, hf, rfl⟩ := List.mem_map.1 hk'
  exact key_not_mem_of_mem_addNew hf (heq ▸ hk)

/-- A primary source that is in report order stays so, whatever is merged in between. -/
theorem sublist_merge (h : primary.Pairwise fun f g => before f g = true)
    (secondary : List Finding) : primary.Sublist (merge primary secondary) :=
  List.sublist_mergeSort before_trans before_total h (List.sublist_append_left _ _)

/-! ## Orderly lists

The two properties are what a report is asked for, and they are kept together. -/

/-- The findings have different keys and are in report order. -/
structure Orderly (fs : List Finding) : Prop where
  distinct : (fs.map key).Nodup
  ordered : fs.Pairwise fun f g => before f g = true

theorem orderly_nil : Orderly [] := ⟨List.nodup_nil, List.Pairwise.nil⟩

theorem orderly_sort (h : (fs.map key).Nodup) : Orderly (sort fs) :=
  ⟨((sort_perm fs).map key).nodup_iff.2 h, sort_pairwise fs⟩

/-- **What is merged into an orderly list** leaves it orderly. -/
theorem Orderly.merge (h : Orderly primary) (secondary : List Finding) :
    Orderly (merge primary secondary) :=
  ⟨nodup_keys_merge h.distinct secondary, sort_pairwise _⟩

end CodeReview.Finding
