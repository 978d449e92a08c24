import CodeReview.Proofs.Finding.Distinct

/-!
# What a merge holds

What does a merge hold, and in which order?  The definition answers by an algorithm: keep the
primary source, go along the secondary one, and sort.  The answer wanted is one that does not
mention the algorithm, and it has three parts.

* **How often.**  Every finding of the primary source as often as there, and of each key that only
  the secondary source has its first finding, once (`count_addNew`).
* **Where.**  By rank, and by line within a rank.
* **In which order among equals.**  The findings of the primary source first, those of either
  source in its order.

The last part is where one would have to argue about the sort.  It is made easy by *ties*, the
findings of one rank and one line.  The ties of a sorted list are those of the list before it was
sorted (`filter_standsAt_sort`), which is what it means that the sort is stable; and a list in
report order is known from its ties (`eq_of_ties`).  So an equation of merges is settled tie by
tie, where there is no sorting left.

Main statements: `merge_exactly`, which also says that merging a source again changes nothing, and
`merge_merge_of_nodup`, that three sources can be merged from either side if the one in the middle
repeats no key.  The middle one has to be asked for that: it is the primary source of one merge and
the secondary one of the other, and repeats are kept in the first and dropped in the second.
-/

set_option autoImplicit false

namespace CodeReview.Finding

variable {primary secondary fs gs : List Finding} {seen : List Key}

/-! ## Ties

Two findings that may each stand before the other have one rank and one line.  In a list in report
order those of one tie stand together. -/

/-- The finding has this rank and this line. -/
def standsAt (rank line : Nat) (f : Finding) : Bool := f.severity.rank == rank && f.line == line

/-- The finding stands where it stands. -/
theorem standsAt_self (f : Finding) : standsAt f.severity.rank f.line f = true := by
  simp [standsAt]

theorem before_of_standsAt {rank line : Nat} {f g : Finding} (hf : standsAt rank line f = true)
    (hg : standsAt rank line g = true) : before f g = true := by
  simp only [standsAt, Bool.and_eq_true, beq_iff_eq] at hf hg
  simp [before, hf, hg]

/-- Two findings that may each stand before the other stand at one place. -/
theorem standsAt_of_before {f g : Finding} (hfg : before f g = true) (hgf : before g f = true) :
    standsAt f.severity.rank f.line g = true := by
  simp only [before, standsAt, Bool.or_eq_true, Bool.and_eq_true, beq_iff_eq,
    decide_eq_true_eq] at *
  omega

/-- **A stable sort** keeps the order of a tie. -/
theorem filter_standsAt_sort (rank line : Nat) (fs : List Finding) :
    (sort fs).filter (standsAt rank line) = fs.filter (standsAt rank line) := by
  rw [filter_sort]
  refine sort_of_pairwise (List.pairwise_of_forall_mem_list fun f hf g hg => ?_)
  exact before_of_standsAt (List.mem_filter.1 hf).2 (List.mem_filter.1 hg).2

/-- Lists of the same ties have the same findings. -/
theorem mem_iff_of_ties
    (h : ∀ rank line, fs.filter (standsAt rank line) = gs.filter (standsAt rank line))
    (f : Finding) : f ∈ fs ↔ f ∈ gs := by
  have hf := congrArg (f ∈ ·) (h f.severity.rank f.line)
  simpa [List.mem_filter, standsAt_self] using hf

/-- In report order, the first finding may stand before all of them. -/
theorem before_of_mem_cons {f g : Finding}
    (h : (f :: fs).Pairwise fun f g => before f g = true) (hg : g ∈ f :: fs) :
    before f g = true := by
  rcases List.mem_cons.1 hg with rfl | hg
  · exact before_of_standsAt (standsAt_self g) (standsAt_self g)
  · exact List.rel_of_pairwise_cons h hg

/-- **The ties determine the list,** if it is in report order. -/
theorem eq_of_ties (hfs : fs.Pairwise fun f g => before f g = true)
    (hgs : gs.Pairwise fun f g => before f g = true)
    (h : ∀ rank line, fs.filter (standsAt rank line) = gs.filter (standsAt rank line)) :
    fs = gs := by
  induction fs generalizing gs with
  | nil =>
    cases gs with
    | nil => rfl
    | cons g gs => exact absurd ((mem_iff_of_ties h g).2 List.mem_cons_self) List.not_mem_nil
  | cons f fs ih =>
    cases gs with
    | nil => exact absurd ((mem_iff_of_ties h f).1 List.mem_cons_self) List.not_mem_nil
    | cons g gs =>
      have hfg := before_of_mem_cons hfs ((mem_iff_of_ties h g).2 List.mem_cons_self)
      have hgf := before_of_mem_cons hgs ((mem_iff_of_ties h f).1 List.mem_cons_self)
      -- the two lists begin with one tie, hence with one finding
      have hfirst := h f.severity.rank f.line
      rw [List.filter_cons_of_pos (standsAt_self f),
        List.filter_cons_of_pos (standsAt_of_before hfg hgf)] at hfirst
      obtain ⟨rfl, -⟩ := List.cons.inj hfirst
      refine congrArg (f :: ·) (ih hfs.of_cons hgs.of_cons fun rank line => ?_)
      have htie := h rank line
      by_cases hf : standsAt rank line f = true
      · rw [List.filter_cons_of_pos hf, List.filter_cons_of_pos hf] at htie
        exact (List.cons.inj htie).2
      · rwa [List.filter_cons_of_neg hf, List.filter_cons_of_neg hf] at htie

/-- **Sorting the front first** changes nothing. -/
theorem sort_sort_append (fs gs : List Finding) : sort (sort fs ++ gs) = sort (fs ++ gs) := by
  refine eq_of_ties (sort_pairwise _) (sort_pairwise _) fun rank line => ?_
  simp only [filter_standsAt_sort, List.filter_append]

/-! ## What a source adds

The secondary source adds its `firsts`: the findings at which a key stands for the first time.
This is a filter of the source by position, and has no state that is carried along. -/

/-- The findings at which a key stands for the first time, and is none of those in `seen`. -/
def firsts (seen : List Key) (fs : List Finding) : List Finding :=
  (fs.zipIdx.filter fun p => !(seen ++ (fs.take p.2).map key).contains p.1.key).map Prod.fst

theorem firsts_congr {seen seen' : List Key} (h : ∀ k, k ∈ seen ↔ k ∈ seen') :
    firsts seen fs = firsts seen' fs := by
  simp only [firsts, List.contains_eq_mem, List.mem_append, h]

/-- Behind a finding, its key stands no longer for the first time. -/
theorem firsts_cons (seen : List Key) (f : Finding) (fs : List Finding) :
    firsts seen (f :: fs) = (if f.key ∈ seen then [] else [f]) ++ firsts (f.key :: seen) fs := by
  have hshift : (f :: fs).zipIdx = (f, 0) :: fs.zipIdx.map (Prod.map id (· + 1)) :=
    List.zipIdx_cons'
  have hbehind : (fs.zipIdx.map (Prod.map id (· + 1))).filter
        (fun p => !(seen ++ ((f :: fs).take p.2).map key).contains p.1.key)
      = (fs.zipIdx.filter fun p => !(f.key :: seen ++ (fs.take p.2).map key).contains p.1.key).map
        (Prod.map id (· + 1)) := by
    rw [List.filter_map]
    congr 1
    refine List.filter_congr fun p _ => ?_
    simp [Bool.and_left_comm]
  rw [firsts, hshift, List.filter_cons, hbehind]
  by_cases hf : f.key ∈ seen
  · simp [hf, firsts]
  · simp [hf, firsts]

/-- **A source adds its firsts.** -/
theorem addNew_eq_firsts (seen : List Key) (fs : List Finding) :
    addNew seen fs = firsts seen fs := by
  induction fs generalizing seen with
  | nil => rfl
  | cons f fs ih =>
    rw [addNew, firsts_cons, ih, ih]
    split
    · rename_i hf
      exact firsts_congr fun k => by rw [List.mem_cons, or_iff_right_of_imp (· ▸ hf)]
    · rfl

/-- A finding is added if it is the first of its key and the key is new. -/
theorem mem_addNew_iff {f : Finding} :
    f ∈ addNew seen fs ↔ f.key ∉ seen ∧ fs.find? (·.key = f.key) = some f := by
  induction fs generalizing seen with
  | nil => simp [addNew]
  | cons g fs ih =>
    by_cases hkey : g.key = f.key
    · rw [List.find?_cons_of_pos (by simpa using hkey), Option.some_inj, addNew]
      split
      · rename_i hg
        rw [hkey] at hg
        simp [ih, hg]
      · rename_i hg
        have hmet : f ∉ addNew (g.key :: seen) fs := fun hf =>
          key_not_mem_of_mem_addNew hf (hkey ▸ List.mem_cons_self)
        rw [List.mem_cons, or_iff_left hmet, ← hkey]
        exact ⟨fun h => ⟨hg, h.symm⟩, fun h => h.2.symm⟩
    · rw [List.find?_cons_of_neg (by simpa using hkey), addNew]
      split
      · exact ih
      · have hne : f ≠ g := fun h => hkey (congrArg key h).symm
        rw [List.mem_cons, or_iff_right hne, ih, List.mem_cons, or_iff_right (Ne.symm hkey)]

/-- What is added, counted. -/
theorem count_addNew (seen : List Key) (fs : List Finding) (f : Finding) :
    (addNew seen fs).count f
      = if f.key ∉ seen ∧ fs.find? (·.key = f.key) = some f then 1 else 0 := by
  have hnodup : (addNew seen fs).Nodup := (nodup_keys_addNew seen fs).of_map key
  simp only [hnodup.count, mem_addNew_iff]

/-- Whatever its key is, a finding of the source is not missed. -/
theorem key_mem_addNew {f : Finding} (hf : f ∈ fs) (hnew : f.key ∉ seen) :
    f.key ∈ (addNew seen fs).map key := by
  have hsome : (fs.find? (·.key = f.key)).isSome := by
    rw [List.find?_isSome]
    exact ⟨f, hf, by simp⟩
  obtain ⟨g, hg⟩ := Option.isSome_iff_exists.1 hsome
  have hkey : g.key = f.key := by simpa using List.find?_some hg
  rw [← hkey] at hg hnew ⊢
  exact List.mem_map_of_mem (mem_addNew_iff.2 ⟨hnew, hg⟩)

/-- A source whose keys were all there adds nothing. -/
theorem addNew_eq_nil (h : ∀ f ∈ fs, f.key ∈ seen) : addNew seen fs = [] := by
  refine List.eq_nil_iff_forall_not_mem.2 fun f hf => ?_
  obtain ⟨hnew, hfind⟩ := mem_addNew_iff.1 hf
  exact hnew (h f (List.mem_of_find?_eq_some hfind))

/-! ## Merging again

After a merge every key of either source is there, so nothing is new. -/

/-- **The keys of a merge** are those of its sources. -/
theorem mem_keys_merge_iff {k : Key} :
    k ∈ (merge primary secondary).map key ↔ k ∈ primary.map key ∨ k ∈ secondary.map key := by
  rw [merge, ((sort_perm _).map key).mem_iff, List.map_append, List.mem_append]
  constructor
  · refine Or.imp_right fun hk => ?_
    obtain ⟨f, hf, rfl⟩ := List.mem_map.1 hk
    exact List.mem_map_of_mem (List.mem_of_find?_eq_some (mem_addNew_iff.1 hf).2)
  · rintro (hk | hk)
    · exact .inl hk
    · obtain ⟨f, hf, rfl⟩ := List.mem_map.1 hk
      by_cases hprimary : f.key ∈ primary.map key
      · exact .inl hprimary
      · exact .inr (key_mem_addNew hf hprimary)

/-- A list in report order stays as it is if nothing new is merged into it. -/
theorem merge_eq_self (h : fs.Pairwise fun f g => before f g = true)
    (hkeys : ∀ g ∈ gs, g.key ∈ fs.map key) : merge fs gs = fs := by
  rw [merge, addNew_eq_nil hkeys, List.append_nil, sort_of_pairwise h]

/-- **What a merge holds.**  Every finding of the primary source is there as often as in the source,
and of every key that only the secondary source has there is its first finding; nothing else is
there.  The findings are sorted by rank and line.  Where these agree, the findings of the primary
source come first, and those of either source in its order.  To merge a source again changes
nothing. -/
theorem merge_exactly (primary secondary : List Finding) :
    (∀ f, (merge primary secondary).count f = primary.count f +
        if f.key ∉ primary.map key ∧ secondary.find? (·.key = f.key) = some f then 1 else 0) ∧
      (merge primary secondary).Pairwise (fun f g => f.severity.rank < g.severity.rank ∨
        f.severity.rank = g.severity.rank ∧ f.line ≤ g.line) ∧
      (∀ rank line, (merge primary secondary).filter (standsAt rank line)
        = primary.filter (standsAt rank line)
          ++ (firsts (primary.map key) secondary).filter (standsAt rank line)) ∧
      merge (merge primary secondary) secondary = merge primary secondary ∧
      merge (merge primary secondary) primary = merge primary secondary := by
  have hsorted : (merge primary secondary).Pairwise fun f g => before f g = true :=
    sort_pairwise _
  refine ⟨fun f => ?_, hsorted.imp fun hfg => ?_, fun rank line => ?_, ?_, ?_⟩
  · rw [merge, (sort_perm _).count_eq, List.count_append, count_addNew]
  · simpa [before] using hfg
  · rw [merge, filter_standsAt_sort, List.filter_append, addNew_eq_firsts]
  · exact merge_eq_self hsorted fun f hf => mem_keys_merge_iff.2 (.inr (List.mem_map_of_mem hf))
  · exact merge_eq_self hsorted fun f hf => mem_keys_merge_iff.2 (.inl (List.mem_map_of_mem hf))

/-! ## Three sources

The last source adds what is new to both others, whichever way they were merged, and the ties of
the two sides are then the same three lists one after another. -/

/-- What the third of three sources adds does not depend on how they are merged. -/
theorem addNew_keys_merge (primary middle last : List Finding) :
    addNew ((merge primary middle).map key) last
      = addNew (primary.map key ++ middle.map key) last :=
  addNew_congr fun _ _ => mem_keys_merge_iff.trans List.mem_append.symm

/-- **Three sources can be merged from either side,** if the one in the middle repeats no key.  The
others may. -/
theorem merge_merge_of_nodup (primary last : List Finding) {middle : List Finding}
    (h : (middle.map key).Nodup) :
    merge (merge primary middle) last = merge primary (merge middle last) := by
  have hmiddle : addNew (primary.map key) middle
      = middle.filter fun f => f.key ∉ primary.map key := addNew_of_nodup h
  have hlast : addNew (primary.map key ++ middle.map key) last
      = (addNew (middle.map key) last).filter fun f => f.key ∉ primary.map key :=
    addNew_append _ _ last
  have hright : addNew (primary.map key) (merge middle last)
      = sort (addNew (primary.map key) middle
          ++ addNew (primary.map key ++ middle.map key) last) := by
    rw [addNew_of_nodup (nodup_keys_merge h last), merge, filter_sort, List.filter_append, hmiddle,
      hlast]
  calc merge (merge primary middle) last
      = sort (sort (primary ++ addNew (primary.map key) middle)
          ++ addNew (primary.map key ++ middle.map key) last) := by
        rw [merge, addNew_keys_merge]
        rfl
    _ = sort (primary ++ (addNew (primary.map key) middle
          ++ addNew (primary.map key ++ middle.map key) last)) := by
        rw [sort_sort_append, List.append_assoc]
    _ = merge primary (merge middle last) := by rw [merge, hright, sort_append_sort]

/-- The outer sources repeat their findings, every key of the middle one is in another source too,
and the severities under a key differ. -/
theorem merge_merge_of_nodup_repeated :
    let low : Finding := ⟨.info, .low, "a", "m", "a.js", 5, none, none, none, false⟩
    let grave : Finding := ⟨.error, .critical, "b", "m", "a.js", 5, none, none, none, false⟩
    let other : Finding := ⟨.error, .critical, "c", "n", "b.js", 5, none, none, none, false⟩
    let mild : Finding := ⟨.warning, .medium, "d", "n", "b.js", 5, none, none, none, true⟩
    ([grave, other].map key).Nodup ∧
      merge (merge [low, low] [grave, other]) [mild, mild, grave]
        = merge [low, low] (merge [grave, other] [mild, mild, grave]) := by
  intro low grave other mild
  have hnodup : ([grave, other].map key).Nodup := by decide
  exact ⟨hnodup, merge_merge_of_nodup [low, low] [mild, mild, grave] hnodup⟩

end CodeReview.Finding
