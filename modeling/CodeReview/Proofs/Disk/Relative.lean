import CodeReview.Proofs.Disk.Joined

/-!
# Ways between paths

A report names files by the way to them from a directory.  Two files should not get one name by
this, as their findings would stand under one heading.  The way goes up as often as needed and then
down, and what is dropped from both paths is not in it, so it is not plain that the way tells which
path it leads to.

It does, for normal paths and seen from one directory (`relativeTo_eq_iff`): the points of a way
are its first parts and no others, so their number tells which part of the directory the path
shares. Both halves of that need the paths to be normal.  A path with two points among its parts
would make points that are no way up, and a path with another number of slashes in front has the
same parts.
-/

set_option autoImplicit false

namespace CodeReview.Path

variable {path path' : String} {taken ps start down down' : List String}

/-- The path starts with one slash, and making it absolute leaves it as it is. -/
def IsNormal (path : String) : Prop := normalize path = path ∧ rootSlashes path = "/"

instance (path : String) : Decidable (IsNormal path) := inferInstanceAs (Decidable (_ ∧ _))

/-! ## Parts of a way

The parts of a path that was made absolute are names, with no two points among them. -/

theorem ne_up_of_mem_climb {part : String} (htaken : ".." ∉ taken) (h : part ∈ climb taken ps) :
    part ≠ ".." := by
  induction ps generalizing taken with
  | nil =>
    rintro rfl
    exact htaken (List.mem_reverse.1 h)
  | cons p ps ih =>
    rw [climb] at h
    split at h
    · exact ih htaken h
    · split at h
      · exact ih (fun hmem => htaken (List.mem_of_mem_tail hmem)) h
      · rename_i hup
        exact ih (by simp [htaken, Ne.symm hup]) h

/-- Parts that are joined by slashes are the parts of what they make. -/
theorem parts_intercalate (hne : ps ≠ []) (h : ∀ p ∈ ps, '/' ∉ p.toList) :
    parts (String.intercalate "/" ps) = ps := by
  have hsplit : (['/'].intercalate (ps.map String.toList)).splitOn '/' = ps.map String.toList :=
    List.splitOn_intercalate '/' (by simpa using h) (by simpa using hne)
  have hslash : "/".toList = ['/'] := rfl
  rw [parts, String.toList_intercalate, hslash, hsplit, List.map_map]
  simp [Function.comp_def]

/-! ## Ways

A way is a list of parts first, and its text second, for which no part may have a slash in it.  The
way of no parts is written as a point. -/

/-- The parts of a way from one list of parts to another. -/
def wayTo (start path : List String) : List String :=
  List.replicate (dropCommon start path).1.length ".." ++ (dropCommon start path).2

/-- The text of a way; a way to where it starts is a point. -/
def wayText (way : List String) : String :=
  if way.isEmpty then "." else String.intercalate "/" way

theorem relativeTo_eq (base path : String) :
    relativeTo base path
      = wayText (wayTo (climb [] (parts (join "/" base))) (climb [] (parts (join "/" path)))) := rfl

/-- What is dropped from both lists stands before what is left of them. -/
theorem exists_common (ps qs : List String) :
    ∃ common, ps = common ++ (dropCommon ps qs).1 ∧ qs = common ++ (dropCommon ps qs).2 := by
  induction ps generalizing qs with
  | nil => exact ⟨[], by simp [dropCommon], by simp [dropCommon]⟩
  | cons p ps ih =>
    cases qs with
    | nil => exact ⟨[], by simp [dropCommon], by simp [dropCommon]⟩
    | cons q qs =>
      rw [dropCommon]
      split
      · rename_i heq
        obtain ⟨common, hp, hq⟩ := ih qs
        exact ⟨p :: common, by rw [List.cons_append, ← hp], by rw [List.cons_append, ← hq, heq]⟩
      · exact ⟨[], rfl, rfl⟩

theorem mem_of_mem_wayTo {part : String} (h : part ∈ wayTo start ps) : part = ".." ∨ part ∈ ps := by
  obtain ⟨common, -, hps⟩ := exists_common start ps
  refine (List.mem_append.1 h).imp List.eq_of_mem_replicate fun hdown => ?_
  rw [hps]
  exact List.mem_append_right common hdown

/-- Going up is told from going down. -/
theorem replicate_append_inj {m n : Nat} (hdown : ".." ∉ down) (hdown' : ".." ∉ down')
    (h : List.replicate m ".." ++ down = List.replicate n ".." ++ down') :
    m = n ∧ down = down' := by
  have hcount := congrArg (List.count "..") h
  rw [List.count_append, List.count_append, List.count_replicate_self, List.count_replicate_self,
    List.count_eq_zero_of_not_mem hdown, List.count_eq_zero_of_not_mem hdown'] at hcount
  obtain rfl : m = n := hcount
  exact ⟨rfl, List.append_cancel_left h⟩

/-- **From one start** a way leads to one end. -/
theorem wayTo_inj {qs : List String} (hps : ".." ∉ ps) (hqs : ".." ∉ qs)
    (h : wayTo start ps = wayTo start qs) : ps = qs := by
  obtain ⟨common, hstart, hcut⟩ := exists_common start ps
  obtain ⟨common', hstart', hcut'⟩ := exists_common start qs
  rw [hcut, List.mem_append, not_or] at hps
  rw [hcut', List.mem_append, not_or] at hqs
  obtain ⟨hup, hdown⟩ := replicate_append_inj hps.2 hqs.2 h
  have hcommon : common = common' := List.append_inj_left' (hstart.symm.trans hstart') hup
  rw [hcut, hcut', hcommon, hdown]

theorem parts_wayText (h : ∀ p ∈ ps, '/' ∉ p.toList) :
    parts (wayText ps) = if ps = [] then ["."] else ps := by
  rw [wayText]
  by_cases hne : ps = []
  · rw [if_pos (by simp [hne]), if_pos hne]
    exact parts_of_not_mem (by decide)
  · rw [if_neg (by simpa using hne), if_neg hne]
    exact parts_intercalate hne h

/-- No part of a way is a lone point, so the way of no parts has a text of its own. -/
theorem wayText_inj {qs : List String} (hps : ∀ p ∈ ps, '/' ∉ p.toList ∧ p ≠ ".")
    (hqs : ∀ q ∈ qs, '/' ∉ q.toList ∧ q ≠ ".") (h : wayText ps = wayText qs) : ps = qs := by
  have hparts := congrArg parts h
  rw [parts_wayText fun p hp => (hps p hp).1, parts_wayText fun q hq => (hqs q hq).1] at hparts
  split at hparts <;> split at hparts
  · simp_all
  · exact absurd rfl (hqs "." (hparts ▸ List.mem_cons_self)).2
  · exact absurd rfl (hps "." (hparts ▸ List.mem_cons_self)).2
  · exact hparts

/-! ## Normal paths

A normal path is its parts with one slash in front, so paths of the same parts are the same. -/

theorem IsNormal.isAbsolute (h : IsNormal path) : isAbsolute path = true := by
  by_contra habsolute
  have hstart : path.toList.takeWhile (· == '/') = [] := by
    cases hcs : path.toList with
    | nil => rfl
    | cons c cs =>
      rw [Path.isAbsolute, hcs, List.head?_cons, Option.some_beq_some] at habsolute
      exact List.takeWhile_cons_of_neg habsolute
  have hslash := h.2
  simp [rootSlashes, hstart] at hslash

/-- A normal path is a slash and its parts. -/
theorem IsNormal.eq_append (h : IsNormal path) :
    path = "/" ++ String.intercalate "/" (climb [] (parts path)) := by
  have hnormal := h.1
  rw [normalize, join_of_isAbsolute "/" h.isAbsolute, h.2] at hnormal
  exact hnormal.symm

/-- **Seen from one directory, a normal path is known by its way.** -/
theorem relativeTo_eq_iff (base : String) (h : IsNormal path) (h' : IsNormal path') :
    relativeTo base path = relativeTo base path' ↔ path = path' := by
  refine ⟨fun hway => ?_, fun heq => by rw [heq]⟩
  have hup (path : String) : ".." ∉ climb [] (parts path) := fun hmem =>
    ne_up_of_mem_climb List.not_mem_nil hmem rfl
  have hpart (path : String) : ∀ p ∈ wayTo (climb [] (parts (join "/" base)))
      (climb [] (parts path)), '/' ∉ p.toList ∧ p ≠ "." := by
    intro p hp
    rcases mem_of_mem_wayTo hp with rfl | hmem
    · decide
    · have hidle := not_isIdle_of_mem_climb (fun _ hnil => absurd hnil List.not_mem_nil) hmem
      exact ⟨not_mem_of_mem_climb hmem, fun hpoint => by simp [isIdle, hpoint] at hidle⟩
  rw [relativeTo_eq, relativeTo_eq, join_of_isAbsolute "/" h.isAbsolute,
    join_of_isAbsolute "/" h'.isAbsolute] at hway
  have hclimb := wayTo_inj (hup path) (hup path')
    (wayText_inj (hpart path) (hpart path') hway)
  rw [h.eq_append, h'.eq_append, hclimb]

end CodeReview.Path
