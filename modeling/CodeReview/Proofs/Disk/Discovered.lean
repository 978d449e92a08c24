import Mathlib.Data.List.Sort
import CodeReview.Disk.Discover
import CodeReview.Proofs.Text.Lines

/-!
# The files that are discovered

Discovery and the visits to the files lie apart.  By the time a path is read, fixes may have been
written and another program may have deleted the file.  What can be said is this: the paths that
were listed can be handed to a disk at any time later, and reading one of them fails in ways that a
run survives only (`isSurvivable_of_read`), whatever happened in between; and writing to one fails
so as well, unless the text itself has no bytes (`isSurvivable_of_write`).

The ways that a run does not survive are a path with a null character in it, which the disk is
never asked about, and a text that cannot be encoded.  The first does not occur among the paths
listed (`hasNul_of_discover`): discovery has asked the disk about each of them, and there is
nothing at such a path.

The list itself is in order and has each path once.
-/

set_option autoImplicit false

namespace CodeReview.Disk

/-! ## The list

The paths are put in order and repeats are taken out, whichever way they were found. -/

theorem nodup_eraseDups (paths : List String) : paths.eraseDups.Nodup := by
  induction hlen : paths.length using Nat.strongRecOn generalizing paths with | ind n ih
  match paths, hlen with
  | [], _ => exact List.nodup_nil
  | path :: paths, hlen =>
    have hshort := List.length_filter_le (fun q => !q == path) paths
    rw [List.length_cons] at hlen
    rw [List.eraseDups_cons, List.nodup_cons]
    refine ⟨fun hmem => ?_, ih _ (by omega) _ rfl⟩
    rw [List.mem_eraseDups, List.mem_filter] at hmem
    simp at hmem

theorem nodup_inOrder (paths : List String) : (inOrder paths).Nodup :=
  (List.mergeSort_perm _ _).nodup_iff.2 (nodup_eraseDups paths)

theorem mem_inOrder {path : String} {paths : List String} : path ∈ inOrder paths ↔ path ∈ paths := by
  rw [inOrder, List.mem_mergeSort, List.mem_eraseDups]

variable {d : Disk} {root path text : String} {extensions : List String} {maxBytes : Int}

/-- **Every file is listed once.** -/
theorem nodup_discoverBelow : (d.discoverBelow root extensions maxBytes).Nodup := by
  rw [discoverBelow]
  split
  · exact List.nodup_nil
  · exact nodup_inOrder _

theorem fits_of_mem_discoverBelow (h : path ∈ d.discoverBelow root extensions maxBytes) :
    d.fits maxBytes path = true := by
  rw [discoverBelow] at h
  split at h
  · cases h
  · exact (List.mem_filter.1 (mem_inOrder.1 h)).2

theorem hasNul_of_mem_discoverBelow (h : path ∈ d.discoverBelow root extensions maxBytes) :
    hasNul path = false := by
  have hfits := fits_of_mem_discoverBelow h
  cases hnul : hasNul path with
  | false => rfl
  | true =>
    rw [fits, size?, if_pos hnul] at hfits
    cases hfits

/-- A directory is searched, if there is room for a file at all. -/
theorem discover_of_isDir (hroot : d.isDir root = true) (hbytes : 0 < maxBytes) :
    d.discover root extensions maxBytes = .ok (d.discoverBelow root extensions maxBytes) := by
  rw [isDir, Bool.and_eq_true, Bool.not_eq_true'] at hroot
  obtain ⟨hnul, hdir⟩ := hroot
  have hfile : d.isFile root = false := by
    rw [isFile, Bool.and_eq_false_iff]
    right
    cases hn : d.node? root with
    | none => rfl
    | some n =>
      rw [hn] at hdir
      cases n with
      | dir entries => rfl
      | file bytes => cases hdir
      | link target => cases hdir
  rw [discover, if_neg (by omega), if_neg (by simp [hfile]), if_neg (by simp [hnul])]

/-! ## The order of the list

In order and without repeats is strictly increasing, so two lists of the same paths are equal. -/

theorem pairwise_inOrder (paths : List String) : (inOrder paths).Pairwise (· < ·) := by
  have hle : (inOrder paths).Pairwise fun p q => decide (p ≤ q) = true := by
    refine List.pairwise_mergeSort (fun p q t hpq hqt => ?_) (fun p q => ?_) _
    · exact decide_eq_true (String.le_trans (of_decide_eq_true hpq) (of_decide_eq_true hqt))
    · simpa using String.le_total p q
  refine (hle.and (nodup_inOrder paths)).imp fun h => ?_
  exact Std.lt_of_le_of_ne (of_decide_eq_true h.1) h.2

/-- What is in order stays as it is. -/
theorem inOrder_of_pairwise {paths : List String} (h : paths.Pairwise (· < ·)) :
    inOrder paths = paths :=
  (pairwise_inOrder paths).eq_of_mem_iff h fun _ => mem_inOrder

theorem pairwise_discoverBelow :
    (d.discoverBelow root extensions maxBytes).Pairwise (· < ·) := by
  rw [discoverBelow]
  split
  · exact List.Pairwise.nil
  · exact pairwise_inOrder _

/-- **The files are listed in order,** each before all that follow. -/
theorem pairwise_of_discover {paths : List String}
    (h : d.discover root extensions maxBytes = .ok paths) : paths.Pairwise (· < ·) := by
  rw [discover] at h
  split at h
  · cases h
  · split at h
    · cases h
      exact List.pairwise_singleton _ _
    · split at h
      · cases h
      · cases h
        exact pairwise_discoverBelow

/-- A directory whose files are found in order. -/
theorem discover_of_pairwise {place : Place} {paths : List String} (hroot : d.isDir root = true)
    (hbytes : 0 < maxBytes) (hplace : d.locate root = .ok place)
    (hfound : ((((d.root.at? place).elim [] (filesIn d place root)).filter fun p =>
      isWanted extensions (nameOf p)).map Path.normalize).filter (d.fits maxBytes) = paths)
    (hpaths : paths.Pairwise (· < ·)) : d.discover root extensions maxBytes = .ok paths := by
  rw [discover_of_isDir hroot hbytes, discoverBelow, hplace]
  dsimp only
  rw [hfound, inOrder_of_pairwise hpaths]

/-- Two files in a directory. -/
def twoFiles : Disk :=
  ((empty "/w").put "/w/a.js" "eval(x)\n".toUTF8).put "/w/b.js" "f()\n".toUTF8

theorem isDir_twoFiles : twoFiles.isDir "/w" = true := by decide +kernel

theorem discover_twoFiles :
    twoFiles.discover "/w" defaultExtensions 1000000 = .ok ["/w/a.js", "/w/b.js"] := by
  have hplace : twoFiles.locate "/w" = .ok ["/", "w"] := by decide +kernel
  exact discover_of_pairwise isDir_twoFiles (by decide) hplace (by decide +kernel) (by decide)

/-! ## Paths made of paths

A path that was made absolute has the parts of the one before, so no character is new in it. -/

theorem mem_climb {part : String} {taken ps : List String} (h : part ∈ Path.climb taken ps) :
    part ∈ taken ∨ part ∈ ps := by
  induction ps generalizing taken with
  | nil => exact .inl (List.mem_reverse.1 h)
  | cons p ps ih =>
    rw [Path.climb] at h
    split at h
    · exact (ih h).imp_right (List.mem_cons_of_mem p)
    · split at h
      · exact (ih h).imp List.mem_of_mem_tail (List.mem_cons_of_mem p)
      · rcases ih h with h | h
        · rcases List.mem_cons.1 h with rfl | h
          · exact .inr List.mem_cons_self
          · exact .inl h
        · exact .inr (List.mem_cons_of_mem p h)

/-- A path has no character but slashes that is not in one of its parts. -/
theorem mem_parts_iff {c : Char} (hc : c ≠ '/') :
    (∃ part ∈ Path.parts path, c ∈ part.toList) ↔ c ∈ path.toList := by
  have hsplit : ['/'].intercalate (path.toList.splitOn '/') = path.toList :=
    List.intercalate_splitOn '/'
  have hbetween : c ∉ ['/'] := fun h => hc (List.mem_singleton.1 h)
  rw [← hsplit, Text.mem_intercalate_iff hbetween, Path.parts]
  constructor
  · rintro ⟨part, hpart, hmem⟩
    obtain ⟨cs, hcs, rfl⟩ := List.mem_map.1 hpart
    rw [String.toList_ofList] at hmem
    exact ⟨cs, hcs, hmem⟩
  · rintro ⟨cs, hcs, hmem⟩
    refine ⟨String.ofList cs, List.mem_map_of_mem hcs, ?_⟩
    rwa [String.toList_ofList]

theorem hasNul_normalize (h : hasNul path = false) : hasNul (Path.normalize path) = false := by
  have hslash : '\x00' ≠ '/' := by decide
  have hroot : ∀ path, '\x00' ∉ (Path.rootSlashes path).toList := fun path => by
    rw [Path.rootSlashes]
    split <;> decide
  have hjoin : '\x00' ∉ (Path.join "/" path).toList := by
    have hpath : '\x00' ∉ path.toList := by simpa [hasNul] using h
    rw [Path.join]
    split
    · exact hpath
    · split <;> simp [hpath]
  rw [hasNul, List.contains_eq_mem, decide_eq_false_iff_not, Path.normalize, String.toList_append,
    List.mem_append, String.toList_intercalate, Text.mem_intercalate_iff (by decide)]
  rintro (hmem | ⟨part, hpart, hmem⟩)
  · exact hroot _ hmem
  · obtain ⟨part, hclimb, rfl⟩ := List.mem_map.1 hpart
    rcases mem_climb hclimb with hnil | hparts
    · cases hnil
    · exact hjoin ((mem_parts_iff hslash).1 ⟨part, hparts, hmem⟩)

/-- **What is discovered can be named to a disk.** -/
theorem hasNul_of_discover {paths : List String}
    (h : d.discover root extensions maxBytes = .ok paths) (hpath : path ∈ paths) :
    hasNul path = false := by
  rw [discover] at h
  split at h
  · cases h
  · split at h
    · rename_i hfile
      cases h
      obtain rfl := List.mem_singleton.1 hpath
      rw [isFile, Bool.and_eq_true, Bool.not_eq_true'] at hfile
      exact hasNul_normalize hfile.1
    · split at h
      · cases h
      · cases h
        exact hasNul_of_mem_discoverBelow hpath

/-! ## Reading and writing

The faults of a disk are refusals and bytes that are no text, which a run survives, and the two
named above. -/

/-- **Reading a path fails only in ways that a run survives.** -/
theorem isSurvivable_of_read {f : Fault} (hpath : hasNul path = false)
    (h : d.read path = .error f) : f.isSurvivable = true := by
  rw [read, if_neg (by simp [hpath])] at h
  simp only at h
  split at h
  · cases h
    rfl
  · split at h
    · cases hb : textOf _ with
      | ok content =>
        rw [hb] at h
        cases h
      | error u =>
        rw [hb] at h
        cases h
        rfl
    · cases h
      rfl
    · cases h
      rfl

theorem isSurvivable_of_overwrite {bytes : ByteArray} {f : Fault}
    (h : (d.overwrite path bytes).1 = .error f) : f.isSurvivable = true := by
  rw [overwrite] at h
  split at h
  · cases h
  · cases h
    rfl

/-- **Writing to a path fails only in ways that a run survives,** as long as the text has bytes. -/
theorem isSurvivable_of_write [Text.Spare] {f : Fault} (hpath : hasNul path = false)
    (h : (d.write path text).1 = .error f) :
    f.isSurvivable = true ∨ ∃ u, Text.encode text = .error u ∧ f = .unencodable u := by
  rw [write, if_neg (by simp [hpath])] at h
  simp only at h
  split at h
  · exact .inl (isSurvivable_of_overwrite h)
  · rename_i u hu
    rcases hw : (d.overwrite (Path.tidy path) .empty).1 with f' | ⟨⟩
    · rw [hw] at h
      cases h
      exact .inl (isSurvivable_of_overwrite hw)
    · rw [hw] at h
      cases h
      exact .inr ⟨u, hu, rfl⟩

end CodeReview.Disk
