import CodeReview.Proofs.Text.Place

/-!
# Occurrences of a text in another

Two questions are asked about a text inside another: whether it occurs, and where first.  The first
is a matter of `<:+:` (`occursIn_iff_isInfix`).  The second needs a notion of its own, since
several cuts may have the text in the middle: `IsFirstCut part cs before rest` says that this is
one of them and that none leaves less in front.  There is at most one (`IsFirstCut.unique`), and
the search finds it (`splitAtFirst?_eq_some_iff`).

The interesting direction is to know where a text occurs that was *put* somewhere.  A border is put
between a path and the code behind it, and it should be found there; but it might begin in what
stands before and end in itself.  Two criteria rule that out, each by one character:

* `isFirstCut_of_head` — the first character of the border is not in what stands before;
* `isFirstCut_of_last` — the last character of the border is in it only there, and the border does
  not occur in what stands before.  A text that overlaps itself has its last character twice.
-/

set_option autoImplicit false

namespace CodeReview.Text

variable {part cs before rest : List Char}

/-! ## Some occurrence

An occurrence in `front ++ behind` is in one of the two or across the border between them.  A
character that the part lacks, just before the border or just behind it, excludes the last case. -/

theorem occursIn_iff_isInfix : occursIn part cs = true ↔ part <:+: cs := by
  rw [occursIn_iff]
  exact exists_congr fun before => exists_congr fun rest => eq_comm

/-- A text that a character is not in occurs on one side of that character. -/
theorem infix_append_cons_iff {c : Char} (hc : c ∉ part) (front behind : List Char) :
    part <:+: front ++ c :: behind ↔ part <:+: front ∨ part <:+: behind := by
  have hbegins {start : List Char} (hstart : c ∉ start) (h : start <+: c :: behind) :
      start = [] := by
    rcases List.prefix_cons_iff.1 h with hnil | ⟨tail, rfl, -⟩
    · exact hnil
    · exact absurd List.mem_cons_self hstart
  constructor
  · intro h
    rcases List.infix_append_iff.1 h with hfront | hbehind | ⟨start, tail, rfl, hstart, htail⟩
    · exact .inl hfront
    · rcases List.infix_cons_iff.1 hbehind with hhere | hbehind
      · exact .inr (hbegins hc hhere ▸ List.nil_infix)
      · exact .inr hbehind
    · rw [hbegins (fun hmem => hc (List.mem_append_right _ hmem)) htail, List.append_nil]
      exact .inl hstart.isInfix
  · rintro (h | h)
    · exact h.trans (List.prefix_append _ _).isInfix
    · exact h.trans ((List.suffix_cons _ _).trans (List.suffix_append _ _)).isInfix

/-- A text without the last character of what stands before it is nowhere on the border. -/
theorem infix_append_iff_of_getLast? {c : Char} (hc : c ∉ part) {front : List Char}
    (hfront : front.getLast? = some c) (behind : List Char) :
    part <:+: front ++ behind ↔ part <:+: front ∨ part <:+: behind := by
  obtain ⟨front, rfl⟩ := List.getLast?_eq_some_iff.1 hfront
  rw [List.append_assoc, List.singleton_append, infix_append_cons_iff hc,
    infix_append_cons_iff hc front []]
  constructor
  · exact Or.imp_left .inl
  · rintro ((h | h) | h)
    · exact .inl h
    · exact .inl (h.trans List.nil_infix)
    · exact .inr h

/-- A text without the first character of what stands behind it is nowhere on the border. -/
theorem infix_append_iff_of_head? {c : Char} (hc : c ∉ part) (front : List Char)
    {behind : List Char} (hbehind : behind.head? = some c) :
    part <:+: front ++ behind ↔ part <:+: front ∨ part <:+: behind := by
  obtain ⟨behind, rfl⟩ := List.head?_eq_some_iff.1 hbehind
  have hcons := infix_append_cons_iff hc [] behind
  rw [List.nil_append] at hcons
  rw [infix_append_cons_iff hc, hcons]
  constructor
  · exact Or.imp_right .inr
  · rintro (h | h | h)
    · exact .inl h
    · exact .inl (h.trans List.nil_infix)
    · exact .inr h

/-! ## The first occurrence

As `before` is the shortest there is, two first cuts have fronts of one length, and both are fronts
of the same text. -/

/-- The first occurrence of a part is between `before` and `rest`. -/
structure IsFirstCut (part cs before rest : List Char) : Prop where
  cut : cs = before ++ part ++ rest
  first : ∀ front behind, cs = front ++ part ++ behind → before.length ≤ front.length

theorem IsFirstCut.unique {before' rest' : List Char} (h : IsFirstCut part cs before rest)
    (h' : IsFirstCut part cs before' rest') : before = before' ∧ rest = rest' := by
  have hlength := Nat.le_antisymm (h.first before' rest' h'.cut) (h'.first before rest h.cut)
  have hcut := h.cut.symm.trans h'.cut
  rw [List.append_assoc, List.append_assoc] at hcut
  obtain ⟨hbefore, hbehind⟩ := List.append_inj hcut hlength
  exact ⟨hbefore, List.append_cancel_left hbehind⟩

theorem splitAtFirst?_eq_none_iff : splitAtFirst? part cs = none ↔ ¬part <:+: cs := by
  induction cs with
  | nil => cases part <;> simp [splitAtFirst?]
  | cons c cs ih =>
    rw [splitAtFirst?, List.infix_cons_iff, not_or]
    cases hhere : after? part (c :: cs) with
    | some rest =>
      rw [after?_eq_some_iff] at hhere
      simp [hhere]
    | none =>
      have hnot : ¬part <+: c :: cs := by
        rintro ⟨rest, hrest⟩
        rw [after?_eq_some_iff.2 hrest.symm] at hhere
        cases hhere
      rw [Option.map_eq_none_iff, ih]
      exact ⟨fun h => ⟨hnot, h⟩, And.right⟩

/-- **The search cuts at the first occurrence.** -/
theorem isFirstCut_of_splitAtFirst? (h : splitAtFirst? part cs = some (before, rest)) :
    IsFirstCut part cs before rest := by
  refine ⟨splitAtFirst?_eq h, fun front behind hcut => ?_⟩
  induction cs generalizing before front with
  | nil =>
    obtain ⟨hnil, -⟩ := List.append_eq_nil_iff.1 (splitAtFirst?_eq h).symm
    rw [(List.append_eq_nil_iff.1 hnil).1]
    exact Nat.zero_le _
  | cons c cs ih =>
    rw [splitAtFirst?] at h
    split at h
    · obtain ⟨rfl, -⟩ := Prod.mk.inj (Option.some.inj h)
      exact Nat.zero_le _
    · rename_i hhere
      obtain ⟨⟨before', rest'⟩, hrest, heq⟩ := Option.map_eq_some_iff.1 h
      obtain ⟨rfl, rfl⟩ := Prod.mk.inj heq
      cases front with
      | nil =>
        rw [List.nil_append] at hcut
        rw [after?_eq_some_iff.2 hcut] at hhere
        cases hhere
      | cons d front =>
        have htail : cs = front ++ part ++ behind := (List.cons.inj hcut).2
        exact Nat.succ_le_succ (ih hrest front htail)

theorem splitAtFirst?_eq_some_iff :
    splitAtFirst? part cs = some (before, rest) ↔ IsFirstCut part cs before rest := by
  refine ⟨isFirstCut_of_splitAtFirst?, fun h => ?_⟩
  cases hsplit : splitAtFirst? part cs with
  | none => exact absurd ⟨before, rest, h.cut.symm⟩ (splitAtFirst?_eq_none_iff.1 hsplit)
  | some cut =>
    obtain ⟨rfl, rfl⟩ := (isFirstCut_of_splitAtFirst? hsplit).unique h
    rfl

/-- What is appended does not come before the first occurrence. -/
theorem IsFirstCut.append (h : IsFirstCut part cs before rest) (more : List Char) :
    IsFirstCut part (cs ++ more) before (rest ++ more) := by
  refine ⟨by rw [h.cut, List.append_assoc], fun front behind hcut => ?_⟩
  by_contra hlt
  have hlength := congrArg List.length h.cut
  simp only [List.length_append] at hlength
  have hbegins : front ++ part <+: cs := by
    refine List.prefix_of_prefix_length_le ⟨behind, hcut.symm⟩ (List.prefix_append cs more) ?_
    rw [List.length_append]
    omega
  obtain ⟨tail, htail⟩ := hbegins
  exact hlt (h.first front tail htail.symm)

/-- Before the first occurrence the part does not occur. -/
theorem IsFirstCut.absent_before (h : IsFirstCut part cs before rest) (hpart : part ≠ []) :
    ¬part <:+: before := by
  rintro ⟨front, behind, hcut⟩
  have hle := h.first front (behind ++ part ++ rest) (by rw [h.cut, ← hcut]; simp)
  have hlength := congrArg List.length hcut
  simp only [List.length_append] at hlength
  have hpos := List.length_pos_iff.2 hpart
  omega

/-- Of two parts at the start of a text, the shorter is a part of the longer. -/
theorem prefix_of_append_eq {xs ys xs' ys' : List Char} (h : xs ++ ys = xs' ++ ys')
    (hle : xs.length ≤ xs'.length) : xs <+: xs' :=
  List.prefix_of_prefix_length_le (List.prefix_append xs ys) (h ▸ List.prefix_append xs' ys') hle

/-- A part comes first where its first character comes first. -/
theorem isFirstCut_of_head {c : Char} {tail : List Char} (hc : c ∉ before) (rest : List Char) :
    IsFirstCut (c :: tail) (before ++ (c :: tail) ++ rest) before rest := by
  refine ⟨rfl, fun front behind hcut => ?_⟩
  by_contra hlt
  have hsplit : (front ++ [c]) ++ (tail ++ behind) = before ++ ((c :: tail) ++ rest) := by
    rw [← List.append_assoc before, hcut]
    simp
  have hle : (front ++ [c]).length ≤ before.length := by
    rw [List.length_append]
    exact Nat.not_le.1 hlt
  have hbegins := prefix_of_append_eq hsplit hle
  exact hc (hbegins.subset (List.mem_append_right _ List.mem_cons_self))

/-- A part whose last character is not in it twice does not overlap itself, so it comes first where
it was put behind a text without it. -/
theorem isFirstCut_of_last {c : Char} {stem : List Char} (hc : c ∉ stem)
    (hpart : part = stem ++ [c]) (h : ¬part <:+: before) (rest : List Char) :
    IsFirstCut part (before ++ part ++ rest) before rest := by
  refine ⟨rfl, fun front behind hcut => ?_⟩
  by_contra hlt
  rw [List.append_assoc, List.append_assoc] at hcut
  obtain ⟨x, rfl⟩ := prefix_of_append_eq hcut.symm (by omega)
  rw [List.append_assoc, List.append_cancel_left_eq] at hcut
  -- the part starts with `x`, or `x` with the part
  rcases List.prefix_or_prefix_of_prefix ⟨_, hcut⟩ (List.prefix_append part behind) with
    ⟨y, hy⟩ | hstart
  · have hbehind : x ++ (part ++ rest) = x ++ (y ++ behind) := by
      rw [hcut, ← List.append_assoc x, hy]
    rw [List.append_cancel_left_eq, hpart, List.append_assoc] at hbehind
    have hlength := congrArg List.length (hy.trans hpart)
    simp only [List.length_append, List.length_singleton] at hlength hlt
    have hstem : y <+: stem := prefix_of_append_eq hbehind.symm (by omega)
    rcases List.suffix_concat_iff.1 ⟨x, hy.trans hpart⟩ with rfl | ⟨z, rfl, -⟩
    · rw [List.append_nil] at hy
      exact h (hy ▸ (List.suffix_append front x).isInfix)
    · exact hc (hstem.subset List.mem_concat_self)
  · exact h (hstart.isInfix.trans (List.suffix_append front x).isInfix)

end CodeReview.Text
