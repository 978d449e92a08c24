import CodeReview.Proofs.Disk.Outline

/-!
# Disks that agree on some files

When a run comes to a file, the disk is not the one it started with: the files before have been
fixed. What is read of this file is what it was at the start all the same, unless one of the
earlier paths led to it too.  That is said here in general, for two disks that agree on the files
of some paths (`AgreeOn`).

To agree is more than to have the same bytes there.  Paths are followed through links, so the two
disks must have one outline as well; then each path leads to the same place in both, and reading it
makes no difference (`read_congr`).

A write changes one file at most (`SameButFor`), and every path that leads to another one reads as
before (`SameButFor.read_eq`).  So the agreement with the disk of the start is lost for one file at
a time, the one that is done with.  `AgreeOn.tail` is this step, and a run is an induction along
it.
-/

set_option autoImplicit false

namespace CodeReview.Disk

variable {d d' d'' : Disk} {path : String} {paths : List String} {place : Place}

theorem SameOutline.symm (h : SameOutline d d') : SameOutline d' d :=
  ⟨h.mount.symm, fun place => (h.kind place).symm⟩

/-! ## Agreement

The bytes are compared at the places that the paths lead to; the paths themselves may be many for
one place. -/

/-- The disks have one outline, and the files that these paths lead to have the same bytes. -/
structure AgreeOn (d d' : Disk) (paths : List String) : Prop where
  outline : SameOutline d d'
  bytes : ∀ path ∈ paths, ∀ place, d'.fileOf? path = some place →
    d.bytesAt? place = d'.bytesAt? place

theorem AgreeOn.refl (d : Disk) (paths : List String) : AgreeOn d d paths :=
  ⟨.refl d, fun _ _ _ _ => rfl⟩

theorem AgreeOn.mono {paths' : List String} (h : AgreeOn d d' paths) (hsub : paths' ⊆ paths) :
    AgreeOn d d' paths' :=
  ⟨h.outline, fun path hpath => h.bytes path (hsub hpath)⟩

/-- **Reading** makes no difference between disks that agree. -/
theorem read_congr (h : AgreeOn d d' [path]) : d.read path = d'.read path := by
  rw [read, read]
  dsimp only
  rw [locate_congr h.outline]
  cases hlocate : d'.locate (Path.tidy path) with
  | error cause => rfl
  | ok place =>
    have hkind := h.outline.kind place
    dsimp only
    cases hn' : d'.root.at? place with
    | none =>
      rw [hn'] at hkind
      rw [Option.map_eq_none_iff.1 hkind]
    | some n' =>
      rw [hn'] at hkind
      obtain ⟨n, hn, hkind⟩ := Option.map_eq_some_iff.1 hkind
      rw [hn]
      cases n' with
      | file bytes' =>
        have hplace : d'.fileOf? path = some place :=
          fileOf?_eq_some_iff.2 ⟨hlocate, bytes', hn'⟩
        have hbytes := h.bytes path (List.mem_singleton_self path) place hplace
        rw [bytesAt?, bytesAt?, hn, hn'] at hbytes
        cases n with
        | file bytes =>
          obtain rfl : bytes = bytes' := Option.some.inj hbytes
          rfl
        | _ => cases hkind
      | dir entries' =>
        cases n <;> cases hkind
        rfl
      | link target' =>
        cases n <;> cases hkind
        rfl

/-- What is read of a file is the text of its bytes. -/
theorem read_of_fileOf? {bytes : ByteArray} (hnul : hasNul path = false)
    (hplace : d.fileOf? path = some place) (hbytes : d.bytesAt? place = some bytes) :
    d.read path = (textOf bytes).mapError .undecodable := by
  obtain ⟨hlocate, old, hfile⟩ := fileOf?_eq_some_iff.1 hplace
  rw [bytesAt?, hfile] at hbytes
  obtain rfl : old = bytes := Option.some.inj hbytes
  rw [read, if_neg (by simp [hnul])]
  simp only [hlocate, hfile]

/-! ## One file

Whether the file was in fact changed is not said, so a refused write is a change of this kind too.
-/

/-- The disk is the other one, but for the file that a path leads to there. -/
structure SameButFor (d d' : Disk) (path : String) : Prop where
  outline : SameOutline d d'
  bytes : ∀ place, d'.fileOf? path ≠ some place → d.bytesAt? place = d'.bytesAt? place

theorem SameButFor.refl (d : Disk) (path : String) : SameButFor d d path :=
  ⟨.refl d, fun _ _ => rfl⟩

theorem sameButFor_putAt (hplace : d.fileOf? path = some place) (bytes : ByteArray) :
    SameButFor (d.putAt place bytes) d path := by
  obtain ⟨-, old, hfile⟩ := fileOf?_eq_some_iff.1 hplace
  refine ⟨sameOutline_putAt hfile bytes, fun other hother => ?_⟩
  rw [bytesAt?_putAt hfile, if_neg]
  rintro rfl
  exact hother hplace

/-- A path that leads to another file is read as before. -/
theorem SameButFor.read_eq {other : String} (h : SameButFor d d' path)
    (hother : d'.fileOf? other ≠ d'.fileOf? path) : d.read other = d'.read other := by
  refine read_congr ⟨h.outline, List.forall_mem_singleton.2 fun place hplace => ?_⟩
  refine h.bytes place fun hpath => hother ?_
  rw [hplace, hpath]

/-- **A change to the file of the first path** leaves the others as they were. -/
theorem AgreeOn.tail (h : AgreeOn d' d (path :: paths)) (hchange : SameButFor d'' d' path)
    (hnew : path ∉ paths) (hapart : d.NamesApart (path :: paths)) : AgreeOn d'' d paths := by
  refine ⟨hchange.outline.trans h.outline, fun other hother place hplace => ?_⟩
  have hmem : other ∈ path :: paths := List.mem_cons_of_mem _ hother
  rw [hchange.bytes place ?_, h.bytes other hmem place hplace]
  rw [fileOf?_congr h.outline, ← hplace]
  intro hsame
  have heq : other = path := by
    refine hapart other hmem path List.mem_cons_self ?_ hsame.symm
    rw [hplace]
    rfl
  exact hnew (heq ▸ hother)

/-! ## Writing

The third case is a text that UTF-8 has no bytes for.  The file has been opened for writing by
then, and is empty. -/

/-- **Whatever is written to a file,** it becomes the file, or is refused and leaves all as it was,
or has no bytes. -/
theorem write_cases [Text.Spare] (hplace : d.fileOf? path = some place)
    (hnul : hasNul path = false) (text : String) :
    (∃ d', d.write path text = (.ok (), d') ∧ SameButFor d' d path) ∨
      (∃ cause shown, d.write path text = (.error (.refused cause shown), d)) ∨
      ∃ u d', d.write path text = (.error (.unencodable u), d') := by
  cases hencode : Text.encode text with
  | ok bytes =>
    rcases write_of_fileOf? hplace hnul hencode with hdone | ⟨cause, hrefused⟩
    · exact .inl ⟨_, hdone, sameButFor_putAt hplace bytes⟩
    · exact .inr (.inl ⟨cause, _, hrefused⟩)
  | error u =>
    rw [write, if_neg (by simp [hnul])]
    simp only [hencode, overwrite]
    rcases writeBytes_of_fileOf? hplace .empty with hdone | hrefused
    · rw [hdone]
      exact .inr (.inr ⟨u, _, rfl⟩)
    · rw [hrefused]
      exact .inr (.inl ⟨_, _, rfl⟩)

end CodeReview.Disk
