import Mathlib.Data.List.TakeWhile
import CodeReview.Proofs.Disk.Discovered
import CodeReview.Proofs.Disk.Tree

/-!
# Paths of entries

An entry of a directory has the path of the directory with the name of the entry joined to it.  For
whoever gets the path there are two questions: which name the entry has, and where the path leads
once it is made absolute.  For paths in general both have odd answers.  A part of two points goes
up, an empty part does nothing, and a name that starts with a slash throws away what stands before
it.

A name is none of these: neither empty nor a point or two, and there is no slash in it
(`isFileName`).  So it is the last part of the path (`nameOf_join`), and making the path absolute
leaves it as it is (`normalize_join`).

The extension of a name is what stands from its last point on, if anything but points stands before
that.  It is computed from the end; `HasExtension` says what it is, and `hasExtension_iff` that the
two agree.
Whether a slash is put between the two, and how many slashes the path starts with, are the two
things that a path can do differently here.  `join_cases` tells what the joined path is as a text,
and what is said of its parts (`climb_parts_join`) and of its slashes (`rootSlashes_join`) follows
from that.  An empty path is a case of its own, since the name joined to it is the name.
-/

set_option autoImplicit false

namespace CodeReview

open Disk

theorem Disk.isFileName_iff {name : String} : isFileName name = true ↔
    (name ≠ "" ∧ name ≠ ".") ∧ name ≠ ".." ∧ '/' ∉ name.toList := by
  simp [isFileName, Path.isIdle, and_assoc]

namespace Path

variable {path name : String} {taken ps : List String} {front cs : List Char}

/-! ## Parts

A path is cut at its slashes, and its parts are climbed one by one, with those of two points going
back up. -/

theorem parts_append_slash (front cs : List Char) :
    parts (String.ofList (front ++ '/' :: cs))
      = parts (String.ofList front) ++ parts (String.ofList cs) := by
  simp only [parts, String.toList_ofList, List.splitOn_eq_splitOnP]
  rw [List.splitOnP_append_cons _ _ (by simp), List.map_append]

theorem parts_of_not_mem (h : '/' ∉ name.toList) : parts name = [name] := by
  rw [parts, List.splitOn_eq_singleton h, List.map_singleton, String.ofList_toList]

/-- A name is climbed to last. -/
theorem climb_concat (h : isFileName name = true) (taken ps : List String) :
    climb taken (ps ++ [name]) = climb taken ps ++ [name] := by
  obtain ⟨hidle, hup, -⟩ := isFileName_iff.1 h
  induction ps generalizing taken with
  | nil =>
    have hnot : isIdle name = false := by simp [isIdle, hidle]
    simp [climb, hnot, hup]
  | cons p ps ih =>
    rw [List.cons_append, climb, climb, ih, ih, ih]
    split
    · rfl
    · split <;> rfl

/-- An idle part makes no difference. -/
theorem climb_idle (taken ps : List String) : climb taken (ps ++ [""]) = climb taken ps := by
  induction ps generalizing taken with
  | nil => rfl
  | cons p ps ih => rw [List.cons_append, climb, climb, ih, ih, ih]

theorem not_isIdle_of_mem_climb {part : String} (htaken : ∀ part ∈ taken, isIdle part = false)
    (h : part ∈ climb taken ps) : isIdle part = false := by
  induction ps generalizing taken with
  | nil => exact htaken part (List.mem_reverse.1 h)
  | cons p ps ih =>
    rw [climb] at h
    split at h
    · exact ih htaken h
    · rename_i hidle
      split at h
      · exact ih (fun q hq => htaken q (List.mem_of_mem_tail hq)) h
      · refine ih (List.forall_mem_cons.2 ⟨Bool.eq_false_iff.2 hidle, htaken⟩) h

theorem not_mem_of_mem_climb {part : String} (h : part ∈ climb [] (parts path)) :
    '/' ∉ part.toList := by
  have hpart : part ∈ parts path := (mem_climb h).resolve_left List.not_mem_nil
  obtain ⟨cs, hmem, rfl⟩ := List.mem_map.1 hpart
  rw [String.toList_ofList]
  exact Text.not_mem_of_mem_splitOn hmem

/-! ## Joining

Whether a slash is put between the two depends on whether one is there. -/

theorem isAbsolute_of_isFileName (h : isFileName name = true) : isAbsolute name = false := by
  obtain ⟨-, -, hslash⟩ := isFileName_iff.1 h
  rw [isAbsolute, beq_eq_false_iff_ne]
  exact fun hhead => hslash (List.mem_of_mem_head? hhead)

theorem join_empty (h : isFileName name = true) : join "" name = name := by
  rw [join, if_neg (by simp [isAbsolute_of_isFileName h]), if_pos (by simp), String.empty_append]

theorem join_of_slash (h : isFileName name = true) (hlast : path.toList.getLast? = some '/') :
    join path name = path ++ name := by
  rw [join, if_neg (by simp [isAbsolute_of_isFileName h]), if_pos (by simp [hlast])]

theorem join_of_not_slash (h : isFileName name = true) (hpath : path ≠ "")
    (hlast : path.toList.getLast? ≠ some '/') : join path name = path ++ "/" ++ name := by
  rw [join, if_neg (by simp [isAbsolute_of_isFileName h]), if_neg (by simp [hpath, hlast])]

/-- **A name joined to a path** stands behind it and behind one slash. -/
theorem join_cases (h : isFileName name = true) (hpath : path ≠ "") :
    (∃ front, path = String.ofList (front ++ ['/']) ∧
        join path name = String.ofList (front ++ '/' :: name.toList)) ∨
      ∃ front c, c ≠ '/' ∧ path = String.ofList (front ++ [c]) ∧
        join path name = String.ofList (front ++ [c] ++ '/' :: name.toList) := by
  obtain hempty | ⟨front, c, hcut⟩ := List.eq_nil_or_concat' path.toList
  · exact absurd (String.toList_eq_nil_iff.1 hempty) hpath
  have hlast : path.toList.getLast? = some c := by rw [hcut, List.getLast?_concat]
  have hwhole : path = String.ofList (front ++ [c]) := by rw [← hcut, String.ofList_toList]
  by_cases hc : c = '/'
  · subst hc
    refine .inl ⟨front, hwhole, ?_⟩
    rw [join_of_slash h hlast, ← String.toList_inj, String.toList_append, hcut,
      String.toList_ofList, List.append_assoc, List.singleton_append]
  · refine .inr ⟨front, c, hc, hwhole, ?_⟩
    rw [join_of_not_slash h hpath (by simp [hlast, hc]), ← String.toList_inj, String.toList_append,
      String.toList_append, hcut, String.toList_ofList, List.append_assoc]
    simp

theorem parts_ofList_of_isFileName (h : isFileName name = true) :
    parts (String.ofList name.toList) = [name] := by
  rw [String.ofList_toList]
  exact parts_of_not_mem (isFileName_iff.1 h).2.2

/-- A name is the last part of the path. -/
theorem climb_parts_join (h : isFileName name = true) (hpath : path ≠ "") :
    climb [] (parts (join path name)) = climb [] (parts path) ++ [name] := by
  have hparts := parts_ofList_of_isFileName h
  rcases join_cases h hpath with ⟨front, rfl, hjoin⟩ | ⟨front, c, -, rfl, hjoin⟩
  · have hlast : parts (String.ofList (front ++ ['/'])) = parts (String.ofList front) ++ [""] :=
      parts_append_slash front []
    rw [hjoin, parts_append_slash, hparts, hlast, climb_idle, climb_concat h]
  · rw [hjoin, parts_append_slash, hparts, climb_concat h]

theorem nameOf_join (h : isFileName name = true) (path : String) :
    nameOf (join path name) = name := by
  have hparts := parts_ofList_of_isFileName h
  by_cases hpath : path = ""
  · rw [String.ofList_toList] at hparts
    rw [nameOf, hpath, join_empty h, hparts]
    rfl
  · rw [nameOf]
    rcases join_cases h hpath with ⟨front, -, hjoin⟩ | ⟨front, c, -, -, hjoin⟩ <;>
      rw [hjoin, parts_append_slash, hparts, List.getLastD_concat]

/-! ## Absolute paths

Two slashes at the start of a path are kept, and no other number of them but one.  Joining a name
does not change how many there are, as the path is not empty. -/

theorem takeWhile_append_of_eq_nil {α : Type} {p : α → Bool} {ys : List α}
    (h : ys.takeWhile p = []) (xs : List α) : (xs ++ ys).takeWhile p = xs.takeWhile p := by
  induction xs with
  | nil => exact h
  | cons x xs ih => rw [List.cons_append, List.takeWhile_cons, List.takeWhile_cons, ih]

/-- The slashes at the start are those of the path. -/
theorem rootSlashes_join (h : isFileName name = true) (hpath : path ≠ "") :
    rootSlashes (join path name) = rootSlashes path := by
  have hsame : (join path name).toList.takeWhile (· == '/') = path.toList.takeWhile (· == '/') := by
    rcases join_cases h hpath with ⟨front, rfl, hjoin⟩ | ⟨front, c, hc, rfl, hjoin⟩
    · have hname : name.toList.takeWhile (· == '/') = [] := by
        have hslash := (isFileName_iff.1 h).2.2
        cases hcs : name.toList with
        | nil => rfl
        | cons c cs =>
          rw [hcs] at hslash
          simp [Ne.symm (List.ne_of_not_mem_cons hslash)]
      rw [hjoin, String.toList_ofList, String.toList_ofList, ← List.singleton_append,
        ← List.append_assoc, takeWhile_append_of_eq_nil hname]
    · have hstop : ∀ rest, (c :: rest).takeWhile (· == '/') = [] := fun rest => by simp [hc]
      rw [hjoin, String.toList_ofList, String.toList_ofList, List.append_assoc,
        List.singleton_append, takeWhile_append_of_eq_nil (hstop _),
        takeWhile_append_of_eq_nil (hstop [])]
  rw [rootSlashes, rootSlashes, hsame]

theorem join_of_isAbsolute (directory : String) (h : isAbsolute path = true) :
    join directory path = path := by
  rw [join, if_pos h]

theorem join_root_of_relative (h : isAbsolute path = false) : join "/" path = "/" ++ path := by
  rw [join, if_neg (by simp [h])]
  rfl

theorem isAbsolute_join_root (path : String) : isAbsolute (join "/" path) = true := by
  cases h : isAbsolute path with
  | true => rw [join_of_isAbsolute _ h, h]
  | false =>
    rw [join_root_of_relative h]
    simp [isAbsolute]

/-- From the root it makes no difference where the name is joined. -/
theorem join_root (h : isFileName name = true) (path : String) :
    join "/" (join path name) = join (join "/" path) name := by
  by_cases hempty : path = ""
  · have hslash : join "/" "" = "/" := rfl
    rw [hempty, join_empty h, hslash]
  have hjoined : isAbsolute (join path name) = isAbsolute path := by
    rcases join_cases h hempty with ⟨front, rfl, hjoin⟩ | ⟨front, c, -, rfl, hjoin⟩ <;>
      rw [hjoin, isAbsolute, isAbsolute, String.toList_ofList, String.toList_ofList] <;>
      cases front <;> rfl
  cases hpath : isAbsolute path with
  | true => rw [join_of_isAbsolute _ (hjoined.trans hpath), join_of_isAbsolute _ hpath]
  | false =>
    have hlast : ("/" ++ path).toList.getLast? = path.toList.getLast? := by
      have hcs : path.toList ≠ [] := by simpa using hempty
      rw [String.toList_append, List.getLast?_append_of_ne_nil _ hcs]
    rw [join_root_of_relative (hjoined.trans hpath), join_root_of_relative hpath]
    by_cases hslash : path.toList.getLast? = some '/'
    · rw [join_of_slash h hslash, join_of_slash h (hlast.trans hslash), String.append_assoc]
    · rw [join_of_not_slash h hempty hslash, join_of_not_slash h (by simp) (by rwa [hlast])]
      simp only [String.append_assoc]

theorem getLast?_rootSlashes (h : isAbsolute path = true) :
    (rootSlashes path).toList.getLast? = some '/' := by
  obtain ⟨cs, hcs⟩ := List.head?_eq_some_iff.1 (beq_iff_eq.1 h)
  rw [rootSlashes]
  split
  · rename_i hnone
    rw [hcs] at hnone
    cases hnone
  · rfl
  · rfl

/-- The last part of an absolute path has a last character, and that is no slash. -/
theorem getLast?_of_mem_climb {part : String} (h : part ∈ climb [] (parts path)) :
    ∃ c, part.toList.getLast? = some c ∧ c ≠ '/' := by
  have hidle := not_isIdle_of_mem_climb (fun _ hmem => absurd hmem List.not_mem_nil) h
  have hcs : part.toList ≠ [] := by
    rintro hempty
    rw [String.toList_eq_nil_iff.1 hempty] at hidle
    cases hidle
  refine ⟨part.toList.getLast hcs, List.getLast?_eq_some_getLast hcs,
    fun heq => not_mem_of_mem_climb h ?_⟩
  rw [← heq]
  exact List.getLast_mem hcs

theorem getLast?_intercalate_concat {last : String} {c : Char} (h : last.toList.getLast? = some c)
    (init : List String) : (String.intercalate "/" (init ++ [last])).toList.getLast? = some c := by
  by_cases hinit : init = []
  · rw [hinit, List.nil_append, String.intercalate_singleton, h]
  · rw [String.intercalate_append_of_ne_nil hinit (by simp), String.intercalate_singleton,
      String.toList_append]
    exact List.mem_getLast?_append_of_mem_getLast? h

/-- **The path of an entry** is made absolute by making that of its directory absolute. -/
theorem normalize_join (h : isFileName name = true) (path : String) :
    normalize (join path name) = join (normalize path) name := by
  have habsolute := isAbsolute_join_root path
  have hroot : join "/" path ≠ "" := fun hempty => by
    rw [hempty] at habsolute
    cases habsolute
  rw [normalize, normalize, join_root h, rootSlashes_join h hroot, climb_parts_join h hroot]
  obtain hnone | ⟨init, last, hclimb⟩ := List.eq_nil_or_concat' (climb [] (parts (join "/" path)))
  · rw [hnone, List.nil_append, String.intercalate_nil, String.intercalate_singleton,
      String.append_empty, join_of_slash h (getLast?_rootSlashes habsolute)]
  · have hmem : last ∈ climb [] (parts (join "/" path)) := by
      rw [hclimb]
      exact List.mem_concat_self
    obtain ⟨c, hlast, hc⟩ := getLast?_of_mem_climb hmem
    have hne : climb [] (parts (join "/" path)) ≠ [] := List.ne_nil_of_mem hmem
    have hend : (rootSlashes (join "/" path)
        ++ String.intercalate "/" (climb [] (parts (join "/" path)))).toList.getLast? = some c := by
      rw [hclimb, String.toList_append]
      exact List.mem_getLast?_append_of_mem_getLast? (getLast?_intercalate_concat hlast init)
    rw [join_of_not_slash h ?_ (by rw [hend]; simp [hc]),
      String.intercalate_append_of_ne_nil hne (by simp), String.intercalate_singleton]
    · simp only [String.append_assoc]
    · intro hempty
      rw [hempty] at hend
      cases hend

/-! ## Extensions

A name that starts with points and has no other has no extension. -/

/-- The extension of a name. -/
inductive HasExtension : List Char → List Char → Prop
  /-- it starts with the last point, if anything but points stands before that -/
  | point {front tail : List Char} (hlast : '.' ∉ tail) (hfront : ∃ c ∈ front, c ≠ '.') :
      HasExtension (front ++ '.' :: tail) ('.' :: tail)
  /-- and else there is none -/
  | none {cs : List Char} (h : ∀ front tail, cs = front ++ '.' :: tail → ∀ c ∈ front, c = '.') :
      HasExtension cs []

theorem extension_of_point {tail : List Char} (hlast : '.' ∉ tail)
    (hfront : ∃ c ∈ front, c ≠ '.') :
    (extension (String.ofList (front ++ '.' :: tail))).toList = '.' :: tail := by
  have hstem : (front ++ '.' :: tail).dropWhile (· == '.')
      = front.dropWhile (· == '.') ++ '.' :: tail := by
    obtain ⟨c, hmem, hc⟩ := hfront
    rw [List.dropWhile_append, if_neg]
    rw [List.isEmpty_iff, List.dropWhile_eq_nil_iff]
    exact fun hall => hc (beq_iff_eq.1 (hall c hmem))
  have htail : ∀ c ∈ tail.reverse, (c != '.') = true := fun c hmem =>
    bne_iff_ne.2 (ne_of_mem_of_not_mem (List.mem_reverse.1 hmem) hlast)
  simp only [extension, String.toList_ofList, hstem]
  rw [if_pos (by simp), String.toList_ofList, List.reverse_append, List.reverse_cons,
    List.append_assoc, List.takeWhile_append_of_pos htail, List.singleton_append,
    List.takeWhile_cons_of_neg (by simp), List.append_nil, List.reverse_reverse]

theorem extension_of_none (h : ∀ front tail, cs = front ++ '.' :: tail → ∀ c ∈ front, c = '.') :
    (extension (String.ofList cs)).toList = [] := by
  have hstem : '.' ∉ cs.dropWhile (· == '.') := fun hmem => by
    obtain ⟨c, rest, hcut⟩ := List.exists_cons_of_ne_nil (List.ne_nil_of_mem hmem)
    have hc : c ≠ '.' := by
      have hhead := List.head?_dropWhile_not (· == '.') cs
      rw [hcut] at hhead
      simpa using hhead
    rw [hcut] at hmem
    obtain ⟨before, tail, hrest⟩ := List.append_of_mem ((List.mem_cons.1 hmem).resolve_left hc.symm)
    refine hc (h (cs.takeWhile (· == '.') ++ c :: before) tail ?_ c (by simp))
    rw [List.append_assoc, List.cons_append, ← hrest, ← hcut, List.takeWhile_append_dropWhile]
  simp [extension, hstem]

/-- **Every name has one extension.** -/
theorem hasExtension_iff {ext : List Char} :
    HasExtension name.toList ext ↔ ext = (extension name).toList := by
  obtain ⟨cs, rfl⟩ : ∃ cs, name = String.ofList cs := ⟨name.toList, String.ofList_toList.symm⟩
  rw [String.toList_ofList]
  constructor
  · rintro (⟨hlast, hfront⟩ | h)
    · exact (extension_of_point hlast hfront).symm
    · exact (extension_of_none h).symm
  · rintro rfl
    by_cases hpoint : ∃ front tail, cs = front ++ '.' :: tail ∧ '.' ∉ tail ∧ ∃ c ∈ front, c ≠ '.'
    · obtain ⟨front, tail, rfl, hlast, hfront⟩ := hpoint
      rw [extension_of_point hlast hfront]
      exact .point hlast hfront
    · have hnone : ∀ front tail, cs = front ++ '.' :: tail → ∀ c ∈ front, c = '.' := by
        rintro front tail rfl c hc
        -- the last point is this one, or one behind it
        have hmem : '.' ∈ ('.' :: tail).reverse := List.mem_reverse.2 List.mem_cons_self
        obtain ⟨tail', behind, hcut, hlast⟩ := List.eq_append_cons_of_mem hmem
        by_contra hne
        refine hpoint ⟨front ++ behind.reverse, tail'.reverse, ?_, by simpa using hlast, c,
          List.mem_append_left _ hc, hne⟩
        rw [← List.reverse_reverse ('.' :: tail), hcut]
        simp
      rw [extension_of_none hnone]
      exact .none hnone

end Path
end CodeReview
