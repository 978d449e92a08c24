import CodeReview.Proofs.Rule.Refiling
import CodeReview.Proofs.Session.Storing
import CodeReview.Proofs.Text.Encoding
import CodeReview.Review.Fix

/-!
# Fixing files without a service

A run of local fixes takes the files one after another, and needs no service.  What it does to a
disk is to refile some of them (`Disk.RefilesAll`): each is read, cleaned up, and written with what
is left of its lines.  No other file is touched, and no file that has nothing to fix.

It is natural to ask what becomes of the lines that have nothing to fix.  They are all still there,
and in their order.  But a file that is refiled does not keep their ends: reading makes all of them
line feeds, and so they are written (`localFix_lines`).  One `debugger` in a file with carriage
returns changes every line of it (`localFix_loses_ending`).

Two paths may lead to one file here.  It is then cleaned up twice, and the second round may find
what the first has left; so the statement has the number of rounds, one for each path that leads to
the file among those that are listed as changed (`pathsTo`).
## What is here

* `Disk.Refiles`, `Disk.RefilesAll` — one file that is refiled, and files one after another;
* `RefilesAll.bytesAt?` — what has become of the file at a place, by the number of paths that lead
  to it;
* `fixes_visit`, `exists_refilesAll` — a visit and a run do this to the disk and nothing else,
  however much the disk refuses;
* `localFix_lines` — the lines of every file at the end, with their ends.

Texts with stand-ins for surrogates are excluded (`ReadsWritable`).  A text that was read has one
only if a character of it was taken for spare, which is not meant to be; so it is asked of the
texts at the start, and carried along (`ReadsWritable.refiles`).
-/

set_option autoImplicit false

namespace CodeReview

open CodeReview.Text Rule

/-! ## Files that are refiled

A file is refiled in its place, and the files at all other places are as before.  Along a list of
paths each file goes through as many rounds as paths lead to it, by induction on the list. -/

namespace Disk

variable {d d' : Disk} {path text : String} {place : Place} {changed : List String}

/-- What is read of a file with this text. -/
theorem read_of_toUTF8 (hnul : hasNul path = false) (hplace : d.fileOf? path = some place)
    (hbytes : d.bytesAt? place = some text.toUTF8) : d.read path = .ok (readBack text) := by
  rw [read_of_fileOf? hnul hplace hbytes, textOf, decode_toUTF8]
  rfl

/-- A file is read, there is something to fix, and what is left is written. -/
def Refiles (d : Disk) (path : String) (d' : Disk) : Prop :=
  ∃ place content, d.fileOf? path = some place ∧ d.read path = .ok content ∧
    (cleanUp path content).2 ≠ 0 ∧ d' = d.putAt place (cleanUp path content).1.toUTF8

/-- Files are refiled one after another. -/
inductive RefilesAll : Disk → List String → Disk → Prop
  | nil (d : Disk) : RefilesAll d [] d
  | cons {d₀ d d' : Disk} {path : String} {paths : List String} (first : d₀.Refiles path d)
      (rest : RefilesAll d paths d') : RefilesAll d₀ (path :: paths) d'

/-- How many of these paths lead to the file at a place. -/
def pathsTo (d : Disk) (place : Place) (paths : List String) : Nat :=
  paths.countP fun path => d.fileOf? path == some place

theorem Refiles.sameButFor (h : d.Refiles path d') : SameButFor d' d path := by
  obtain ⟨place, content, hplace, -, -, rfl⟩ := h
  exact sameButFor_putAt hplace _

/-- **A file that is refiled** has something to fix. -/
theorem Refiles.bytesAt?_self (h : d.Refiles path d') (hplace : d.fileOf? path = some place)
    (hbytes : d.bytesAt? place = some text.toUTF8) :
    d'.bytesAt? place = some (refiled text).toUTF8 ∧ ∃ line ∈ fileLines text, ¬ IsClean line := by
  obtain ⟨place', content, hplace', hread, hfixes, rfl⟩ := h
  obtain rfl : place' = place := Option.some.inj (hplace'.symm.trans hplace)
  obtain ⟨-, old, hfile⟩ := fileOf?_eq_some_iff.1 hplace
  obtain ⟨hnul, -⟩ := exists_fileOf?_of_read hread
  obtain rfl : content = readBack text :=
    Except.ok.inj (hread.symm.trans (read_of_toUTF8 hnul hplace hbytes))
  refine ⟨?_, ?_⟩
  · rw [bytesAt?_putAt hfile, if_pos rfl, cleanUp_fst_eq_refiled]
  · rw [Ne, cleanUp_snd_eq_zero_iff_isClean, lines_readBack] at hfixes
    simpa using hfixes

/-- **Files that are refiled.**  Each has gone through one round for each path that leads to it, and
had something to fix if there was one. -/
theorem RefilesAll.bytesAt? (h : RefilesAll d changed d')
    (hbytes : d.bytesAt? place = some text.toUTF8) :
    d'.bytesAt? place = some (refiled^[d.pathsTo place changed] text).toUTF8 ∧
      (0 < d.pathsTo place changed → ∃ line ∈ fileLines text, ¬ IsClean line) := by
  induction h generalizing text with
  | nil d => exact ⟨hbytes, fun h => absurd h (Nat.lt_irrefl 0)⟩
  | cons first rest ih =>
    rename_i d₀ d d' path paths
    have hsame := first.sameButFor
    have hpaths : d.pathsTo place paths = d₀.pathsTo place paths := by
      simp only [pathsTo, fileOf?_congr hsame.outline]
    rw [hpaths] at ih
    by_cases hplace : d₀.fileOf? path = some place
    · obtain ⟨hrefiled, hfixes⟩ := first.bytesAt?_self hplace hbytes
      have hrounds : d₀.pathsTo place (path :: paths) = d₀.pathsTo place paths + 1 :=
        List.countP_cons_of_pos (by simp [hplace])
      rw [hrounds, Function.iterate_succ_apply]
      exact ⟨(ih hrefiled).1, fun _ => hfixes⟩
    · have hrounds : d₀.pathsTo place (path :: paths) = d₀.pathsTo place paths :=
        List.countP_cons_of_neg (by simp [hplace])
      rw [hrounds]
      exact ih ((hsame.bytes place hplace).trans hbytes)

/-- No text that is read at one of these paths holds a stand-in. -/
def ReadsWritable [Spare] (d : Disk) (paths : List String) : Prop :=
  ∀ path ∈ paths, ∀ content, d.read path = .ok content → isWritable content = true

theorem ReadsWritable.mono [Spare] {paths paths' : List String} (h : d.ReadsWritable paths')
    (hsub : paths ⊆ paths') : d.ReadsWritable paths :=
  fun path hpath => h path (hsub hpath)

/-- What was written can be read and written again. -/
theorem ReadsWritable.refiles [Spare] {paths : List String} (h : d.ReadsWritable paths)
    (hrefiles : d.Refiles path d') (hpath : path ∈ paths) : d'.ReadsWritable paths := by
  intro other hother content hread
  by_cases hsame : d.fileOf? other = d.fileOf? path
  · -- the file that was refiled, perhaps under another path
    obtain ⟨place, old, hplace, hold, -, rfl⟩ := hrefiles
    obtain ⟨-, bytes, hfile⟩ := fileOf?_eq_some_iff.1 hplace
    obtain ⟨hnul, -⟩ := exists_fileOf?_of_read hread
    have hother : (d.putAt place (cleanUp path old).1.toUTF8).fileOf? other = some place := by
      rw [fileOf?_congr (sameOutline_putAt hfile _), hsame, hplace]
    have hbytes : (d.putAt place (cleanUp path old).1.toUTF8).bytesAt? place
        = some (cleanUp path old).1.toUTF8 := by rw [bytesAt?_putAt hfile, if_pos rfl]
    rw [read_of_toUTF8 hnul hother hbytes] at hread
    obtain rfl := Except.ok.inj hread
    exact isWritable_readBack (isWritable_cleanUp (h path hpath old hold))
  · rw [hrefiles.sameButFor.read_eq hsame] at hread
    exact h other hother content hread

end Disk

/-! ## The run

A visit either leaves the disk alone and counts nothing, or refiles the file and counts something.
The run lists the files of the second kind, so the list of what it says it changed is the list of
what it refiled. -/

namespace Reviewer

variable {σ : Type} {disk : σ → Disk} {r : Reviewer σ} {path : String} {content : String} {s s' : σ}
  {f : Disk.Fault}

theorem result_readText_of_ok (hread : r.storage.read path s = .ok content) :
    (Run.readText r.storage path s).result = .ok content := by
  rw [Run.readText, hread]
  rfl

/-- A file that cannot be read is left alone. -/
theorem fixLocally_of_unread (hread : r.storage.read path s = .error f) :
    r.fixLocally path s = ⟨[], s, .error (.disk f)⟩ := by
  have hresult : (Run.readText r.storage path s).result = .error (.disk f) := by
    rw [Run.readText, hread]
    rfl
  rw [fixLocally, Run.bind_apply_error hresult]
  rfl

/-- So is one with nothing to fix. -/
theorem fixLocally_of_clean (hread : r.storage.read path s = .ok content)
    (h : (cleanUp path content).2 = 0) : r.fixLocally path s = ⟨[], s, .ok 0⟩ := by
  rw [cleanUp] at h
  rw [fixLocally, Run.bind_apply_ok (result_readText_of_ok hread)]
  simp only [h, if_true]
  rfl

/-- Any other one is written. -/
theorem fixLocally_of_read (hread : r.storage.read path s = .ok content)
    (h : (cleanUp path content).2 ≠ 0) :
    (r.fixLocally path s).state
        = (Run.writeText r.storage path (cleanUp path content).1 s).state ∧
      (r.fixLocally path s).result
        = (Run.writeText r.storage path (cleanUp path content).1 s).result.map fun _ =>
            (cleanUp path content).2 := by
  have hstate : (Run.readText r.storage path s).state = s := rfl
  rw [cleanUp] at h ⊢
  rw [fixLocally, Run.bind_apply_ok (result_readText_of_ok hread), hstate]
  simp only [if_neg h]
  generalize applyFixes content (scanText content path) = fixed
  cases hwrite : (Run.writeText r.storage path fixed.1 s).result with
  | ok written =>
    rw [Run.bind_apply_ok hwrite]
    exact ⟨rfl, rfl⟩
  | error fault =>
    rw [Run.bind_apply_error hwrite]
    exact ⟨rfl, rfl⟩

theorem surviving_fixLocally_of_written (hread : r.storage.read path s = .ok content)
    (h : (cleanUp path content).2 ≠ 0)
    (hwrite : r.storage.write path (cleanUp path content).1 s = (.ok (), s')) :
    ∃ n, ((r.fixLocally path).surviving s).result = .ok (.ok (n + 1)) ∧
      ((r.fixLocally path).surviving s).state = s' := by
  obtain ⟨hstate, hresult⟩ := fixLocally_of_read hread h
  obtain ⟨n, hn⟩ := Nat.exists_eq_succ_of_ne_zero h
  rw [Run.writeText, hwrite] at hstate hresult
  rw [Run.surviving_of_ok hresult, hstate, hn]
  exact ⟨n, rfl, rfl⟩

/-- What a visit to a file makes of the disk: nothing, or it refiles the file. -/
def Fixes (disk : σ → Disk) (path : String) (s : σ) (o : Outcome σ (Except String Nat)) : Prop :=
  (∃ read, o.result = .ok read ∧ disk o.state = disk s ∧ ∀ n, read = .ok n → n = 0) ∨
    ∃ n, o.result = .ok (.ok (n + 1)) ∧ (disk s).Refiles path (disk o.state)

/-- **A visit to a file.** -/
theorem fixes_visit [Spare] (hstorage : r.storage.MayRefuse disk) (hnul : Disk.hasNul path = false)
    (hwritable : ∀ content, (disk s).read path = .ok content → isWritable content = true) :
    Fixes disk path s ((r.fixLocally path).surviving s) := by
  cases hread : r.storage.read path s with
  | error f =>
    have hrun := fixLocally_of_unread hread
    rw [Run.surviving_of_error (by rw [hrun]) (hstorage.isSurvivable_of_read hnul hread), hrun]
    exact .inl ⟨_, rfl, rfl, nofun⟩
  | ok content =>
    by_cases hclean : (cleanUp path content).2 = 0
    · have hrun := fixLocally_of_clean hread hclean
      rw [Run.surviving_of_ok (by rw [hrun]), hrun]
      exact .inl ⟨_, rfl, rfl, fun n hn => (Except.ok.inj hn).symm⟩
    have hdisk := hstorage.read_eq hread
    obtain ⟨place, hplace⟩ := hstorage.exists_fileOf?_of_read hread
    have htext : isWritable (cleanUp path content).1 = true :=
      isWritable_cleanUp (hwritable content hdisk)
    rcases hstorage.write_cases hnul hplace htext with
      ⟨s', hwrite, hput⟩ | ⟨f, s', hwrite, hf, hsame⟩
    · obtain ⟨n, hresult, hstate⟩ := surviving_fixLocally_of_written hread hclean hwrite
      refine .inr ⟨n, hresult, place, content, hplace, hdisk, hclean, ?_⟩
      rw [hstate, hput]
    · obtain ⟨hstate, hresult⟩ := fixLocally_of_read hread hclean
      rw [Run.writeText, hwrite] at hstate hresult
      rw [Run.surviving_of_error hresult hf]
      refine .inl ⟨_, rfl, ?_, nofun⟩
      dsimp only
      rw [hstate, hsame]

/-- A file that was written is listed, and the run goes on. -/
theorem fixAllLocally_of_fixed {n : Nat}
    (h : ((r.fixLocally path).surviving s).result = .ok (.ok (n + 1))) (paths : List String)
    (o : FixRun) : ∃ o₁, o₁.filesChanged = o.filesChanged ++ [path] ∧
      (r.fixAllLocally (path :: paths) o s).result
        = (r.fixAllLocally paths o₁ ((r.fixLocally path).surviving s).state).result ∧
      (r.fixAllLocally (path :: paths) o s).state
        = (r.fixAllLocally paths o₁ ((r.fixLocally path).surviving s).state).state := by
  refine ⟨{ o.change path with fixed := o.fixed + (n + 1) }, rfl, ?_⟩
  rw [fixAllLocally, Run.bind_apply_ok h]
  exact ⟨rfl, rfl⟩

/-- **A run over files** refiles those that it says it changed. -/
theorem exists_refilesAll [Spare] (hstorage : r.storage.MayRefuse disk) {paths : List String}
    (hnul : ∀ path ∈ paths, Disk.hasNul path = false) (o : FixRun) (s : σ)
    (hwritable : (disk s).ReadsWritable paths) :
    ∃ o' changed, (r.fixAllLocally paths o s).result = .ok o' ∧
      o'.filesChanged = o.filesChanged ++ changed ∧ changed.Sublist paths ∧
      Disk.RefilesAll (disk s) changed (disk (r.fixAllLocally paths o s).state) := by
  induction paths generalizing o s with
  | nil => exact ⟨o, [], rfl, (List.append_nil _).symm, .slnil, .nil _⟩
  | cons path paths ih =>
    rw [List.forall_mem_cons] at hnul
    have hvisit := fixes_visit hstorage hnul.1 (hwritable path List.mem_cons_self)
    have hsub := List.subset_cons_self path paths
    rcases hvisit with ⟨read, hresult, hdisk, hzero⟩ | ⟨n, hresult, hrefiles⟩
    · -- what is left of the run starts from the same disk
      have hrest : ∀ o, ∃ o' changed,
          (r.fixAllLocally paths o ((r.fixLocally path).surviving s).state).result = .ok o' ∧
            o'.filesChanged = o.filesChanged ++ changed ∧ changed.Sublist (path :: paths) ∧
            Disk.RefilesAll (disk s) changed
              (disk (r.fixAllLocally paths o ((r.fixLocally path).surviving s).state).state) := by
        intro o
        obtain ⟨o', changed, hrun, hfiles, hlisted, hall⟩ := ih hnul.2 o
          ((r.fixLocally path).surviving s).state (by rw [hdisk]; exact hwritable.mono hsub)
        exact ⟨o', changed, hrun, hfiles, hlisted.cons path, hdisk ▸ hall⟩
      rw [fixAllLocally, Run.bind_apply_ok hresult]
      cases read with
      | error e => exact hrest (o.fail 1)
      | ok n =>
        obtain rfl := hzero n rfl
        exact hrest o
    · obtain ⟨o₁, hchange, hgoes, hends⟩ := fixAllLocally_of_fixed hresult paths o
      obtain ⟨o', changed, hrun, hfiles, hlisted, hall⟩ := ih hnul.2 o₁
        ((r.fixLocally path).surviving s).state
        ((hwritable.refiles hrefiles List.mem_cons_self).mono hsub)
      rw [hgoes, hends]
      refine ⟨o', path :: changed, hrun, ?_, hlisted.cons_cons path, .cons hrefiles hall⟩
      rw [hfiles, hchange, List.append_assoc, List.singleton_append]

theorem localFix_of_discover {root : String} {paths : List String}
    (hpaths : r.storage.discover root r.extensions r.settings.maxFileBytes s = .ok paths) :
    r.localFix root s = r.fixAllLocally paths (.start false) s := by
  have hdiscover : (r.discover root s).result = .ok paths := hpaths
  rw [localFix, Run.bind_apply_ok hdiscover]
  rfl

/-- **What a run of local fixes leaves of the lines of a file.**  A file that it does not say it
changed has the bytes that it had.  One that it says it changed had something to fix.  Then it has
the lines that are left after one round, or after one for each path that leads to the file, and all
end in a line feed, but for the last one.  A line with nothing to fix is among them, between what is
left of the lines before it and behind it.  So its own end is there as it was only if it was a line
feed and something is left behind it, or if it had none. -/
theorem localFix_lines [Spare] (hstorage : r.storage.MayRefuse disk) {root : String} {s : σ}
    {paths : List String}
    (hpaths : (disk s).discover root r.extensions r.settings.maxFileBytes = .ok paths)
    (hwritable : (disk s).ReadsWritable paths) :
    ∃ o, (r.localFix root s).result = .ok o ∧ o.filesChanged.Sublist paths ∧
      ∀ place text, (disk s).bytesAt? place = some text.toUTF8 →
        ∃ rounds text', rounds = (disk s).pathsTo place o.filesChanged ∧
          (disk (r.localFix root s).state).bytesAt? place = some text'.toUTF8 ∧
          (rounds = 0 → text' = text) ∧
          (0 < rounds → (∃ line ∈ fileLines text, ¬ IsClean line) ∧
            endedLines text'.toList = relined (swept rounds (fileLines text)) ∧
            ∀ before l after, endedLines text.toList = before ++ l :: after → IsClean l.line →
              ∃ after', after'.map EndedLine.line = swept rounds (after.map EndedLine.line) ∧
                endedLines text'.toList
                  = (swept rounds (before.map EndedLine.line)).map (fun line => ⟨line, ['\n']⟩)
                    ++ ⟨l.line, if after' = [] then [] else ['\n']⟩ :: after') := by
  obtain ⟨o, changed, hresult, hfiles, hlisted, hall⟩ := exists_refilesAll hstorage
    (fun path hpath => Disk.hasNul_of_discover hpaths hpath) (.start false) s hwritable
  obtain rfl : o.filesChanged = changed := hfiles
  rw [localFix_of_discover ((hstorage.discover _ _ _ s).trans hpaths)]
  refine ⟨o, hresult, hlisted, fun place text hbytes => ?_⟩
  obtain ⟨hrefiled, hfixes⟩ := hall.bytesAt? hbytes
  refine ⟨_, _, rfl, hrefiled, fun hnone => by rw [hnone]; rfl, fun hsome => ⟨hfixes hsome,
    endedLines_iterate_refiled text hsome, fun before l after hcut hclean =>
      exists_untouched hsome hcut hclean⟩⟩

/-! ## A file with carriage returns

Two lines, of which one is dropped. -/

/-- A disk with one file, whose lines end in a carriage return and a line feed. -/
def carriages : Disk :=
  (Disk.empty "/w").put "/w/a.js" "keep();\r\ndebugger;\r\n".toUTF8

/-- A reviewer of a disk, without a service. -/
def alone [Spare] : Reviewer Disk :=
  ⟨⟨.hybrid, 20, 50000, 1000000, ReviewSettings.defaultDelay, false⟩, none,
    .ofDisk id fun d _ => d, Disk.defaultExtensions⟩

theorem discover_carriages :
    carriages.discover "/w" Disk.defaultExtensions 1000000 = .ok ["/w/a.js"] := by
  have hplace : carriages.locate "/w" = .ok ["/", "w"] := by decide +kernel
  exact Disk.discover_of_pairwise (by decide +kernel) (by decide) hplace (by decide +kernel)
    (List.pairwise_singleton _ _)

theorem localFix_carriages : letI : Spare := ⟨0⟩
    ∃ o, (alone.localFix "/w" carriages).result = .ok o ∧ o.filesChanged = ["/w/a.js"] ∧
      (alone.localFix "/w" carriages).state.bytesAt? ["/", "w", "a.js"]
        = some "keep();\n".toUTF8 := by
  let : Spare := ⟨0⟩
  have hread : carriages.read "/w/a.js" = .ok "keep();\ndebugger;\n" := by decide +kernel
  have hfixes : (cleanUp "/w/a.js" "keep();\ndebugger;\n").2 ≠ 0 := by
    rw [Ne, cleanUp_snd_eq_zero_iff]
    decide +kernel
  have htext : (cleanUp "/w/a.js" "keep();\ndebugger;\n").1 = "keep();\n" := by
    rw [cleanUp_fst]
    decide +kernel
  have hwrite : (carriages.write "/w/a.js" "keep();\n").1 = .ok () := by decide +kernel
  have hdone : alone.storage.write "/w/a.js" (cleanUp "/w/a.js" "keep();\ndebugger;\n").1 carriages
      = (.ok (), (carriages.write "/w/a.js" "keep();\n").2) := by
    rw [htext]
    exact Prod.ext hwrite rfl
  obtain ⟨n, hfixed, hstate⟩ := surviving_fixLocally_of_written hread hfixes hdone
  obtain ⟨o, hchange, hresult, hends⟩ := fixAllLocally_of_fixed hfixed [] (.start false)
  have hpaths : alone.storage.discover "/w" alone.extensions alone.settings.maxFileBytes carriages
      = .ok ["/w/a.js"] := discover_carriages
  rw [localFix_of_discover hpaths, hresult, hends]
  refine ⟨o, rfl, hchange, ?_⟩
  rw [hstate]
  show (carriages.write "/w/a.js" "keep();\n").2.bytesAt? ["/", "w", "a.js"]
    = some "keep();\n".toUTF8
  decide +kernel

theorem bytesAt?_carriages :
    carriages.bytesAt? ["/", "w", "a.js"] = some "keep();\r\ndebugger;\r\n".toUTF8 := by
  decide +kernel

/-- The file is changed, and the line that is left ends in a line feed alone. -/
theorem localFix_lines_carriages : letI : Spare := ⟨0⟩
    ∃ (o : FixRun) (text' : String), (alone.localFix "/w" carriages).result = .ok o ∧
      o.filesChanged = ["/w/a.js"] ∧
      (alone.localFix "/w" carriages).state.bytesAt? ["/", "w", "a.js"] = some text'.toUTF8 ∧
      endedLines text'.toList = [⟨"keep();".toList, ['\n']⟩, ⟨[], []⟩] := by
  let : Spare := ⟨0⟩
  have hstorage : alone.storage.MayRefuse id := .ofDisk_id
  have hread : carriages.read "/w/a.js" = .ok "keep();\ndebugger;\n" := by decide +kernel
  have hwritable : carriages.ReadsWritable ["/w/a.js"] := by
    refine List.forall_mem_singleton.2 fun content hcontent => ?_
    obtain rfl := Except.ok.inj (hread.symm.trans hcontent)
    decide +kernel
  obtain ⟨o, hresult, -, hfiles⟩ := localFix_lines hstorage discover_carriages hwritable
  obtain ⟨rounds, text', hrounds, hbytes, -, hfixed⟩ := hfiles _ _ bytesAt?_carriages
  obtain ⟨o', hresult', hchanged, -⟩ := localFix_carriages
  obtain rfl : o' = o := Except.ok.inj (hresult'.symm.trans hresult)
  have hone : rounds = 1 := by
    rw [hrounds, hchanged]
    decide +kernel
  obtain ⟨-, hlines, -⟩ := hfixed (by omega)
  refine ⟨o', text', hresult, hchanged, hbytes, ?_⟩
  rw [hlines, hone]
  decide +kernel

/-- **A line loses its own end** though there is nothing to fix in it. -/
theorem localFix_loses_ending : letI : Spare := ⟨0⟩
    let kept : EndedLine := ⟨"keep();".toList, ['\r', '\n']⟩
    carriages.discover "/w" Disk.defaultExtensions 1000000 = .ok ["/w/a.js"] ∧
      carriages.bytesAt? ["/", "w", "a.js"] = some "keep();\r\ndebugger;\r\n".toUTF8 ∧
      kept ∈ endedLines "keep();\r\ndebugger;\r\n".toList ∧ IsClean kept.line ∧
      ∃ (o : FixRun) (text' : String), (alone.localFix "/w" carriages).result = .ok o ∧
        (alone.localFix "/w" carriages).state.bytesAt? ["/", "w", "a.js"] = some text'.toUTF8 ∧
        kept ∉ endedLines text'.toList := by
  intro kept
  obtain ⟨o, hresult, -, hbytes⟩ := localFix_carriages
  have hclean : cleaned "keep();".toList = some "keep();".toList := by decide +kernel
  exact ⟨discover_carriages, bytesAt?_carriages, by decide +kernel, hclean, o, _, hresult, hbytes,
    by decide +kernel⟩

end Reviewer
end CodeReview
