import CodeReview.Proofs.Disk.Agreement
import CodeReview.Proofs.Disk.Discovered
import CodeReview.Session.Storage

/-!
# A disk that may refuse

A run reads and writes through a `Storage`, and what it reads and writes is the disk in the state.
A real disk can do one thing more than that: refuse.  A file may be listed and not be readable, and
a write may fail for want of room or of permission.  `Storage.MayRefuse` says that this is all the
difference there is.  Discovery is that of the disk; reading and writing are those of the disk, or
they fail and leave it as it was.

Under this much the facts about disks are facts about the storage.  What can be read there is a
file (`MayRefuse.exists_fileOf?_of_read`), a text for it becomes its bytes or changes nothing
(`MayRefuse.write_cases`), and faults are such that a run survives them (`MayRefuse.readsSafely`,
`MayRefuse.writesSafely`).

What is refused may be refused at one time and not at another.  Where that must not be, because two
visits to a file are compared, it is asked in addition that reading depends on the files alone
(`Storage.ReadsAlike`).  `Storage.without` is a storage of this kind that refuses to read one file.
-/

set_option autoImplicit false

namespace CodeReview

/-! ## Texts with bytes

A stand-in for a surrogate has no bytes in UTF-8; any other character has. -/

/-- **A text without stand-ins** is written as its own bytes. -/
theorem Text.encode_of_isWritable [Text.Spare] {text : String} (h : Text.isWritable text = true) :
    Text.encode text = .ok text.toUTF8 := by
  have hadmits : ∀ n ∈ Text.points text, Text.Charset.utf8.admits n = true := by
    intro n hn
    obtain ⟨c, hc, rfl⟩ := List.mem_map.1 hn
    have hnone : Text.unitOf? c = none := by
      simpa [Text.isStandIn] using List.all_eq_true.1 h c hc
    rw [hnone]
    exact decide_eq_true c.valid
  rw [Text.encode, Text.unwritable?, Text.unencodableFrom_eq_none_iff.2 hadmits]

/-! ## Storages

The two conditions of safety are what the runs of a review ask for.  They follow from
`Storage.MayRefuse` for a path without a null character. -/

variable {σ : Type}

/-- Reading at this path fails only in ways that a run survives. -/
def Storage.ReadsSafely (storage : Storage σ) (path : String) : Prop :=
  ∀ s f, storage.read path s = .error f → f.isSurvivable = true

/-- Writing to this path fails only in ways that a run survives, as long as the text has bytes. -/
def Storage.WritesSafely [Text.Spare] (storage : Storage σ) (path : String) : Prop :=
  ∀ text s f, (storage.write path text s).1 = .error f →
    f.isSurvivable = true ∨ ∃ u, Text.encode text = .error u ∧ f = .unencodable u

/-- What reading a path gives depends on the files alone, and only on the one that the path leads
to. -/
def Storage.ReadsAlike (storage : Storage σ) (disk : σ → Disk) : Prop :=
  ∀ path s s', (disk s).AgreeOn (disk s') [path] → storage.read path s = storage.read path s'

theorem Storage.readsAlike_ofDisk [Text.Spare] (disk : σ → Disk) (setDisk : Disk → σ → σ) :
    (Storage.ofDisk disk setDisk).ReadsAlike disk :=
  fun _ _ _ h => Disk.read_congr h

theorem Storage.readsAlike_ofDisk_id [Text.Spare] :
    (Storage.ofDisk id fun d _ => d : Storage Disk).ReadsAlike id := readsAlike_ofDisk _ _

/-- While the files stay as they are, so does what is read. -/
theorem Storage.ReadsAlike.read_eq {storage : Storage σ} {disk : σ → Disk} {s s' : σ}
    (h : storage.ReadsAlike disk) (hdisk : disk s' = disk s) (path : String) :
    storage.read path s' = storage.read path s :=
  h path s' s (hdisk ▸ .refl _ _)

/-- The storage with one file that is listed and cannot be read. -/
def Storage.without (storage : Storage σ) (path : String) : Storage σ :=
  { storage with
    read := fun p s => if p = path then .error (.refused .noEntry p) else storage.read p s }

theorem Storage.read_without (storage : Storage σ) (path p : String) (s : σ) :
    (storage.without path).read p s
      = if p = path then .error (.refused .noEntry p) else storage.read p s := rfl

theorem Storage.ReadsAlike.without {storage : Storage σ} {disk : σ → Disk}
    (h : storage.ReadsAlike disk) (path : String) : (storage.without path).ReadsAlike disk := by
  intro p s s' hagree
  rw [read_without, read_without, h p s s' hagree]

/-- The storage is the disk in the state, but for reading and writing that it may refuse. -/
structure Storage.MayRefuse [Text.Spare] (storage : Storage σ) (disk : σ → Disk) : Prop where
  discover : ∀ root extensions maxBytes s,
    storage.discover root extensions maxBytes s = (disk s).discover root extensions maxBytes
  read : ∀ path s, storage.read path s = (disk s).read path ∨
    ∃ cause shown, storage.read path s = .error (.refused cause shown)
  write : ∀ path text s,
    (storage.write path text s).1 = ((disk s).write path text).1 ∧
        disk (storage.write path text s).2 = ((disk s).write path text).2 ∨
      (∃ cause shown, (storage.write path text s).1 = .error (.refused cause shown)) ∧
        disk (storage.write path text s).2 = disk s

namespace Storage.MayRefuse

variable [Text.Spare] {storage : Storage σ} {disk : σ → Disk} {path : String} {s : σ}

/-- The disk itself refuses nothing of its own. -/
theorem ofDisk {setDisk : Disk → σ → σ} (hset : ∀ d s, disk (setDisk d s) = d) :
    (Storage.ofDisk disk setDisk).MayRefuse disk where
  discover _ _ _ _ := rfl
  read _ _ := .inl rfl
  write _ _ _ := .inl ⟨rfl, hset _ _⟩

/-- Nor does one that is all of the state. -/
theorem ofDisk_id : (Storage.ofDisk id fun d _ => d : Storage Disk).MayRefuse id :=
  .ofDisk fun _ _ => rfl

theorem without (h : storage.MayRefuse disk) (path : String) :
    (storage.without path).MayRefuse disk where
  discover := h.discover
  read p s := by
    rw [read_without]
    split
    · exact .inr ⟨.noEntry, p, rfl⟩
    · exact h.read p s
  write := h.write

theorem isSurvivable_of_read (h : storage.MayRefuse disk) (hnul : Disk.hasNul path = false)
    {f : Disk.Fault} (hread : storage.read path s = .error f) : f.isSurvivable = true := by
  rcases h.read path s with hdisk | ⟨cause, shown, hrefused⟩
  · exact Disk.isSurvivable_of_read hnul (hdisk.symm.trans hread)
  · cases hrefused.symm.trans hread
    rfl

theorem readsSafely (h : storage.MayRefuse disk) (hnul : Disk.hasNul path = false) :
    storage.ReadsSafely path := fun _ _ hread => h.isSurvivable_of_read hnul hread

theorem writesSafely (h : storage.MayRefuse disk) (hnul : Disk.hasNul path = false) :
    storage.WritesSafely path := by
  intro text s f hwrite
  rcases h.write path text s with ⟨hwritten, -⟩ | ⟨⟨cause, shown, hrefused⟩, -⟩
  · exact Disk.isSurvivable_of_write hnul (hwritten.symm.trans hwrite)
  · cases hrefused.symm.trans hwrite
    exact .inl rfl

/-- What can be read is what is on the disk. -/
theorem read_eq (h : storage.MayRefuse disk) {content : String}
    (hread : storage.read path s = .ok content) : (disk s).read path = .ok content := by
  rcases h.read path s with hdisk | ⟨cause, shown, hrefused⟩
  · exact hdisk.symm.trans hread
  · cases hrefused.symm.trans hread

/-- What can be read is a file. -/
theorem exists_fileOf?_of_read (h : storage.MayRefuse disk) {content : String}
    (hread : storage.read path s = .ok content) : ∃ place, (disk s).fileOf? path = some place :=
  (Disk.exists_fileOf?_of_read (h.read_eq hread)).2

/-- **A text for a file** becomes its bytes, or all is as it was. -/
theorem write_cases (h : storage.MayRefuse disk) (hnul : Disk.hasNul path = false) {place : Disk.Place}
    (hplace : (disk s).fileOf? path = some place) {text : String}
    (htext : Text.isWritable text = true) :
    (∃ s', storage.write path text s = (.ok (), s') ∧
        disk s' = (disk s).putAt place text.toUTF8) ∨
      ∃ f s', storage.write path text s = (.error f, s') ∧ f.isSurvivable = true ∧
        disk s' = disk s := by
  rcases h.write path text s with ⟨hwritten, hdisk⟩ | ⟨⟨cause, shown, hrefused⟩, hdisk⟩
  · rcases Disk.write_of_fileOf? hplace hnul (Text.encode_of_isWritable htext) with
      hdone | ⟨cause, hrefused⟩
    · rw [hdone] at hwritten hdisk
      exact .inl ⟨_, Prod.ext hwritten rfl, hdisk⟩
    · rw [hrefused] at hwritten hdisk
      exact .inr ⟨_, _, Prod.ext hwritten rfl, rfl, hdisk⟩
  · exact .inr ⟨_, _, Prod.ext hrefused rfl, rfl, hdisk⟩

/-- **Any text for a file** becomes the file, or all is as it was, or it has no bytes. -/
theorem write_cases_of_any (h : storage.MayRefuse disk) (hnul : Disk.hasNul path = false)
    {place : Disk.Place} (hplace : (disk s).fileOf? path = some place) (text : String) :
    (∃ s', storage.write path text s = (.ok (), s') ∧ (disk s').SameButFor (disk s) path) ∨
      (∃ f s', storage.write path text s = (.error f, s') ∧ f.isSurvivable = true ∧
        disk s' = disk s) ∨
      ∃ u s', storage.write path text s = (.error (.unencodable u), s') := by
  rcases h.write path text s with ⟨hwritten, hdisk⟩ | ⟨⟨cause, shown, hrefused⟩, hdisk⟩
  · rcases Disk.write_cases hplace hnul text with
      ⟨d', hdone, hsame⟩ | ⟨cause, shown, hrefused⟩ | ⟨u, d', hnone⟩
    · rw [hdone] at hwritten hdisk
      exact .inl ⟨_, Prod.ext hwritten rfl, hdisk ▸ hsame⟩
    · rw [hrefused] at hwritten hdisk
      exact .inr (.inl ⟨_, _, Prod.ext hwritten rfl, rfl, hdisk⟩)
    · rw [hnone] at hwritten
      exact .inr (.inr ⟨u, _, Prod.ext hwritten rfl⟩)
  · exact .inr (.inl ⟨_, _, Prod.ext hrefused rfl, rfl, hdisk⟩)

end Storage.MayRefuse

/-! ## Runs that read and write

What a run makes of each answer of the storage, as an outcome in full. -/

namespace Run

variable {storage : Storage σ} {path text : String} {s s' : σ} {f : Disk.Fault}

theorem surviving_of_ok {α : Type} {x : Run σ α} {a : α} (h : (x s).result = .ok a) :
    x.surviving s = ⟨(x s).events, (x s).state, .ok (.ok a)⟩ := by
  simp only [surviving, h]

theorem surviving_of_error {α : Type} {x : Run σ α} (h : (x s).result = .error (.disk f))
    (hf : f.isSurvivable = true) :
    x.surviving s = ⟨(x s).events, (x s).state, .ok (.error f.message)⟩ := by
  simp only [surviving, h, if_pos hf]

theorem surviving_readText_of_ok {content : String} (h : storage.read path s = .ok content) :
    (readText storage path).surviving s = ⟨[], s, .ok (.ok content)⟩ := by
  simp only [surviving, readText, h]
  rfl

theorem surviving_readText_of_error (h : storage.read path s = .error f)
    (hf : f.isSurvivable = true) :
    (readText storage path).surviving s = ⟨[], s, .ok (.error f.message)⟩ := by
  simp only [surviving, readText, h]
  exact if_pos hf

theorem surviving_writeText_of_ok (h : storage.write path text s = (.ok (), s')) :
    (writeText storage path text).surviving s = ⟨[.wrote path text], s', .ok (.ok ())⟩ := by
  simp only [surviving, writeText, h]

theorem surviving_writeText_of_error (h : storage.write path text s = (.error f, s'))
    (hf : f.isSurvivable = true) :
    (writeText storage path text).surviving s
      = ⟨[.unwritten path f], s', .ok (.error f.message)⟩ := by
  simp only [surviving, writeText, h, if_pos hf]

theorem surviving_writeText_of_unencodable {u : Text.Unencodable}
    (h : storage.write path text s = (.error (.unencodable u), s')) :
    (writeText storage path text).surviving s
      = ⟨[.unwritten path (.unencodable u)], s', .error (.disk (.unencodable u))⟩ := by
  simp only [surviving, writeText, h]
  rfl

end Run
end CodeReview
