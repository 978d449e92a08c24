import CodeReview.Proofs.Review.Visits
import CodeReview.Proofs.Session.Yields
import CodeReview.Proofs.Settings.Accepted

/-!
# The account of a fixing run

A run that fixes files gives an account in the end: how many findings were to be fixed, how many
were and how many were not, and which files it changed.  The account should be true of the disk.
That is a statement about a whole run, and the run is a loop over files in which each step may do
five different things; so the loop is cut into *visits* (`Reviewer.visits`), and what is needed of
a visit is what `Visits.lean` says of its end.

Two things grow along the visits.  The account is that of the visits so far (`Account`): what was
to be fixed was fixed or not, and one failure is counted in addition for each file that could not
be read. And the disk is the one of the start, but for the files that the account lists
(`Changes`).

The difficulty is in the second.  A visit writes to a path, and a later path might lead to the same
file; what the first visit wrote would then not be there in the end, and the account would list a
file with the text of another visit.  So it is assumed that no two of the paths lead to one file.
What a visit writes is one file, and every path leads to where it led before, so this outlasts the
visits, and what a visit wrote is there in the end (`exists_account`).
-/

set_option autoImplicit false

namespace CodeReview

open CodeReview.Run

variable [Text.Spare] {σ : Type}

/-- A visit: the file, what was counted before, the state at the start, and what happens. -/
structure Visit (σ : Type) where
  path : String
  before : FixRun
  start : σ
  outcome : Outcome σ FixRun

namespace Visit

/-- The file could not be read. -/
def isUnread (storage : Storage σ) (v : Visit σ) : Bool :=
  (storage.read v.path v.start).toOption.isNone

/-- The file is written once at most, and nothing is asked after that. -/
def WritesLast (v : Visit σ) : Prop :=
  ∃ asking writing, v.outcome.events = asking ++ writing ∧ (∀ e ∈ asking, e.isWrite = false) ∧
    (writing = [] ∨ (∃ f line, writing = [.unwritten v.path f, .logged line]) ∨
      ∃ text, writing = [.wrote v.path text])

end Visit

namespace Reviewer

variable {disk : σ → Disk} {r : Reviewer σ} {service : Service σ}

/-- The visits to files from a position on. -/
def visits (r : Reviewer σ) (service : Service σ) : (index : Nat) → List String → FixRun → σ →
    List (Visit σ)
  | _, [], _, _ => []
  | index, path :: paths, o, s =>
    let outcome := r.fixFiles service false index [path] o s
    ⟨path, o, s, outcome⟩ :: match outcome.result with
      | .error _ => []
      | .ok o => r.visits service (index + 1) paths o outcome.state

/-- The files are fixed one after another. -/
theorem fixFiles_cons (dryRun : Bool) (index : Nat) (path : String) (paths : List String)
    (o : FixRun) :
    r.fixFiles service dryRun index (path :: paths) o
      = r.fixFiles service dryRun index [path] o >>= fun o =>
        r.fixFiles service dryRun (index + 1) paths o := by
  rw [fixFiles, fixFiles, bind_assoc]
  refine congrArg _ (funext fun read => ?_)
  cases read with
  | error e => rw [bind_assoc]; rfl
  | ok content =>
    dsimp only
    split
    · rw [bind_assoc]
      refine congrArg _ (funext fun _ => ?_)
      rw [bind_assoc]; rfl
    · rw [bind_assoc]; rfl

/-- A run that has a service fixes the files that it discovers. -/
theorem fix_of_discover (hpresent : r.service = some service) {root : String} {s : σ}
    {paths : List String}
    (hpaths : r.storage.discover root r.extensions r.settings.maxFileBytes s = .ok paths)
    (dryRun : Bool) :
    r.fix root dryRun s = r.fixFiles service dryRun 0 paths (.start dryRun) s := by
  have hdiscover : (r.discover root s).result = .ok paths := hpaths
  rw [fix, hpresent]
  dsimp only
  rw [bind_apply_ok hdiscover]
  rfl

/-! ## The disk

`Changes` is put together from the front.  A visit comes before the others, so what it wrote has to
outlast them: they change other files, by `Disk.NamesApart`. -/

/-- What visits make of a disk, if they changed these files. -/
structure Changes (r : Reviewer σ) (service : Service σ) (vs : List (Visit σ))
    (changed : List String) (d d' : Disk) : Prop where
  listed : changed.Sublist (vs.map Visit.path)
  outline : Disk.SameOutline d' d
  outside : ∀ place, (∀ path ∈ changed, d.fileOf? path ≠ some place) →
    d'.bytesAt? place = d.bytesAt? place
  inside : ∀ v ∈ vs, v.path ∈ changed → ∃ b place, r.batch? service v.path v.start = some b ∧
    d.fileOf? v.path = some place ∧ d'.bytesAt? place = some b.text.toUTF8

theorem changes_nil (d : Disk) : Changes r service [] [] d d where
  listed := List.Sublist.refl []
  outline := .refl d
  outside _ _ := rfl
  inside _ hv := absurd hv List.not_mem_nil

variable {v : Visit σ} {vs : List (Visit σ)} {changed : List String} {d d' : Disk}

/-- A visit that changes nothing. -/
theorem Changes.cons_same (h : Changes r service vs changed d d')
    (hnew : v.path ∉ vs.map Visit.path) : Changes r service (v :: vs) changed d d' where
  listed := h.listed.cons _
  outline := h.outline
  outside := h.outside
  inside := by
    intro v' hv' hchanged
    rcases List.mem_cons.1 hv' with rfl | hv'
    · exact absurd (h.listed.subset hchanged) hnew
    · exact h.inside v' hv' hchanged

/-- A visit that changes its file. -/
theorem Changes.cons_written {b : FixBatch} {place : Disk.Place}
    (h : Changes r service vs changed (d.putAt place b.text.toUTF8) d')
    (hnew : v.path ∉ vs.map Visit.path) (hapart : d.NamesApart (v.path :: vs.map Visit.path))
    (hbatch : r.batch? service v.path v.start = some b) (hplace : d.fileOf? v.path = some place) :
    Changes r service (v :: vs) (v.path :: changed) d d' := by
  obtain ⟨-, old, hfile⟩ := Disk.fileOf?_eq_some_iff.1 hplace
  have hput := Disk.sameOutline_putAt hfile b.text.toUTF8
  have hfileOf := Disk.fileOf?_congr hput
  have hbytes := Disk.bytesAt?_putAt hfile b.text.toUTF8
  -- the files that are changed later are others
  have hothers : ∀ path ∈ changed, (d.putAt place b.text.toUTF8).fileOf? path ≠ some place := by
    intro path hpath hsame
    have hmem := h.listed.subset hpath
    rw [hfileOf, ← hplace] at hsame
    refine hnew ((hapart v.path List.mem_cons_self path (List.mem_cons_of_mem _ hmem) ?_ hsame.symm) ▸
      hmem)
    rw [hplace]
    rfl
  refine ⟨h.listed.cons_cons _, h.outline.trans hput, fun other hother => ?_, fun v' hv' hchanged => ?_⟩
  · rw [List.forall_mem_cons] at hother
    have hlater : ∀ path ∈ changed, (d.putAt place b.text.toUTF8).fileOf? path ≠ some other := by
      intro path hpath
      rw [hfileOf]
      exact hother.2 path hpath
    rw [h.outside other hlater, hbytes, if_neg]
    rintro rfl
    exact hother.1 hplace
  · rcases List.mem_cons.1 hv' with rfl | hv'
    · refine ⟨b, place, hbatch, hplace, ?_⟩
      rw [h.outside place hothers, hbytes, if_pos rfl]
    · rcases List.mem_cons.1 hchanged with hsame | hchanged
      · exact absurd (hsame ▸ List.mem_map_of_mem hv') hnew
      · obtain ⟨b', place', hbatch', hplace', hbytes'⟩ := h.inside v' hv' hchanged
        exact ⟨b', place', hbatch', (hfileOf _).symm.trans hplace', hbytes'⟩

/-! ## The account

The counts are related by sums, as subtraction would lose what was counted before. -/

/-- What visits make of an account and of a disk. -/
structure Account (r : Reviewer σ) (service : Service σ) (vs : List (Visit σ)) (o o' : FixRun)
    (d d' : Disk) : Prop where
  total : o'.fixed + o'.failed + o.eligible
    = o.fixed + o.failed + o'.eligible + (vs.filter (Visit.isUnread r.storage)).length
  details : o.details.length = o.fixed → o'.details.length = o'.fixed
  changes : ∃ changed, o'.filesChanged = o.filesChanged ++ changed ∧
    Changes r service vs changed d d'
  writes : ∀ v ∈ vs, v.WritesLast

theorem account_nil (o : FixRun) (d : Disk) : Account r service [] o o d d where
  total := rfl
  details := id
  changes := ⟨[], (List.append_nil _).symm, changes_nil d⟩
  writes _ hv := absurd hv List.not_mem_nil

/-- **One visit more.** -/
theorem Account.cons {o₁ o' : FixRun}
    (h : Account r service vs o₁ o' (disk v.outcome.state) d')
    (hends : Ends r service disk v.path v.start v.before v.outcome)
    (hresult : v.outcome.result = .ok o₁) (hnew : v.path ∉ vs.map Visit.path)
    (hapart : (disk v.start).NamesApart (v.path :: vs.map Visit.path)) :
    Account r service (v :: vs) v.before o' (disk v.start) d' where
  total := by
    have hrest := h.total
    have hfirst := hends.total hresult
    rw [List.filter_cons, Visit.isUnread]
    split at hfirst
    · rename_i hunread
      rw [if_pos hunread, List.length_cons]
      omega
    · rename_i hread
      rw [if_neg hread]
      omega
  details hbefore := h.details (hends.details hresult hbefore)
  changes := by
    obtain ⟨changed, hfiles, hchanges⟩ := h.changes
    rcases hends.changes hresult with ⟨hsame, hdisk⟩ | ⟨hchange, b, place, hbatch, hplace, hdisk⟩
    · rw [hdisk] at hchanges
      exact ⟨changed, hsame ▸ hfiles, hchanges.cons_same hnew⟩
    · rw [hdisk] at hchanges
      refine ⟨v.path :: changed, ?_, hchanges.cons_written hnew hapart hbatch hplace⟩
      rw [hfiles, hchange, List.append_assoc, List.singleton_append]
  writes := List.forall_mem_cons.2 ⟨hends.events, h.writes⟩

/-- **The visits of a run** make up its events, and its account is theirs. -/
theorem exists_account (hstorage : r.storage.MayRefuse disk)
    (hservice : ∀ prompt s, disk (service.reply prompt s).state = disk s)
    (hdelay : isNegative r.settings.delaySeconds = false) {paths : List String}
    (hnul : ∀ path ∈ paths, Disk.hasNul path = false) (hnodup : paths.Nodup) (index : Nat)
    (o : FixRun) (s : σ) (hapart : (disk s).NamesApart paths)
    (hlegible : Legible (r.fixFiles service false index paths o s).events)
    (hwritable : OffersWritable (r.fixFiles service false index paths o s).events) :
    (r.visits service index paths o s).map Visit.path = paths ∧
      (r.fixFiles service false index paths o s).events
        = (r.visits service index paths o s).flatMap (fun v => v.outcome.events) ∧
      ∃ o', (r.fixFiles service false index paths o s).result = .ok o' ∧
        Account r service (r.visits service index paths o s) o o' (disk s)
          (disk (r.fixFiles service false index paths o s).state) := by
  induction paths generalizing index o s with
  | nil => exact ⟨rfl, rfl, o, rfl, account_nil o (disk s)⟩
  | cons path paths ih =>
    rw [List.forall_mem_cons] at hnul
    rw [List.nodup_cons] at hnodup
    rw [fixFiles_cons] at hlegible hwritable ⊢
    have hends := ends_visit hstorage hservice hdelay hnul.1 index
      (hlegible.mono events_subset_bind_left) (hwritable.mono events_subset_bind_left)
    obtain ⟨o₁, hresult⟩ := hends.exists_result
    have hvisits : r.visits service index (path :: paths) o s
        = ⟨path, o, s, r.fixFiles service false index [path] o s⟩ ::
          r.visits service (index + 1) paths o₁ (r.fixFiles service false index [path] o s).state := by
      rw [visits, hresult]
    have hnames : (disk (r.fixFiles service false index [path] o s).state).NamesApart paths :=
      (hapart.mono (List.subset_cons_self path paths)).congr (hends.sameOutline hresult)
    obtain ⟨hpaths, hevents, o', hrest, haccount⟩ := ih hnul.2 hnodup.2 (index + 1) o₁ _ hnames
      (hlegible.mono (events_subset_bind_right hresult))
      (hwritable.mono (events_subset_bind_right hresult))
    rw [hvisits, bind_apply_ok hresult]
    refine ⟨by rw [List.map_cons, hpaths], by rw [List.flatMap_cons, ← hevents], o', hrest, ?_⟩
    refine haccount.cons hends hresult ?_ ?_
    · rw [hpaths]
      exact hnodup.1
    · rw [hpaths]
      exact hapart

/-- **The account of a fixing run.**  The disk may refuse any file, and the service may answer or
fail as it likes, as long as it leaves the disk alone, its findings can be read and the texts that it
offers have bytes.  Then the run has a result.  Its events are those of one visit to each file, and
a visit writes its own file last and once, if at all.  The findings that were fixed or not are those
that were to be fixed, and one more for each file that could not be read; each fix has a record.  The
files that were changed are listed in order.  All other files have the bytes that they had, and each
of these has the bytes of the text that was made of it. -/
theorem fix_account (hstorage : r.storage.MayRefuse disk) {fields : Json.Fields}
    (hsettings : ReviewSettings.ofFields fields = .valid r.settings)
    (hpresent : r.service = some service)
    (hservice : ∀ prompt s, disk (service.reply prompt s).state = disk s) {root : String} {s : σ}
    {paths : List String}
    (hpaths : (disk s).discover root r.extensions r.settings.maxFileBytes = .ok paths)
    (hapart : (disk s).NamesApart paths) (hlegible : Legible (r.fix root false s).events)
    (hwritable : OffersWritable (r.fix root false s).events) :
    ∃ o vs, (r.fix root false s).result = .ok o ∧
      vs = r.visits service 0 paths (.start false) s ∧ vs.map Visit.path = paths ∧
      (r.fix root false s).events = vs.flatMap (fun v => v.outcome.events) ∧
      (∀ v ∈ vs, v.WritesLast) ∧
      o.fixed + o.failed = o.eligible + (vs.filter (Visit.isUnread r.storage)).length ∧
      o.details.length = o.fixed ∧
      o.filesChanged.Sublist paths ∧ o.filesChanged.Pairwise (· < ·) ∧
      (∀ place, (∀ path ∈ o.filesChanged, (disk s).fileOf? path ≠ some place) →
        (disk (r.fix root false s).state).bytesAt? place = (disk s).bytesAt? place) ∧
      ∀ v ∈ vs, v.path ∈ o.filesChanged → ∃ b place,
        r.batch? service v.path v.start = some b ∧ (disk s).fileOf? v.path = some place ∧
          (disk (r.fix root false s).state).bytesAt? place = some b.text.toUTF8 := by
  obtain ⟨-, -, -, -, hdelay⟩ := ReviewSettings.bounds_of_ofFields hsettings
  rw [fix_of_discover hpresent ((hstorage.discover _ _ _ s).trans hpaths)] at hlegible hwritable ⊢
  have hordered := Disk.pairwise_of_discover hpaths
  obtain ⟨hvisits, hevents, o, hresult, haccount⟩ := exists_account hstorage hservice hdelay
    (fun path hpath => Disk.hasNul_of_discover hpaths hpath) (hordered.imp String.ne_of_lt) 0
    (.start false) s hapart hlegible hwritable
  obtain ⟨changed, hchanged, hchanges⟩ := haccount.changes
  obtain rfl : o.filesChanged = changed := hchanged
  have hlisted : o.filesChanged.Sublist paths := hvisits ▸ hchanges.listed
  have htotal : o.fixed + o.failed = o.eligible
      + ((r.visits service 0 paths (.start false) s).filter (Visit.isUnread r.storage)).length := by
    simpa [FixRun.start] using haccount.total
  exact ⟨o, _, hresult, rfl, hvisits, hevents, haccount.writes, htotal, haccount.details rfl, hlisted,
    hordered.sublist hlisted, hchanges.outside, hchanges.inside⟩

omit [Text.Spare] in
/-- Two files, and a service whose answer to every prompt is both an analysis and a fix: the first
file is changed, the second one is already what the fix makes of it. -/
theorem fix_account_two_files :
    letI : Text.Spare := ⟨0⟩
    let reply := "\x7b\"issues\": [\x7b\"severity\": \"high\", \"message\": \"m\"\x7d], "
      ++ "\"fixedCode\": \"g()\", \"confidence\": 90\x7d"
    let d := ((Disk.empty "/w").put "/w/a.js" "f()\n".toUTF8).put "/w/b.js" "g()".toUTF8
    let service : Service Disk := .always reply
    let r : Reviewer Disk := ⟨⟨.hybrid, 20, 50000, 1000000, ReviewSettings.defaultDelay, false⟩,
      some service, .ofDisk id fun d _ => d, Disk.defaultExtensions⟩
    ∃ (o : FixRun) (vs : List (Visit Disk)), (r.fix "/w" false d).result = .ok o ∧
      vs.map Visit.path = ["/w/a.js", "/w/b.js"] ∧
      o.filesChanged = ["/w/a.js"] ∧
      o.fixed + o.failed = o.eligible + (vs.filter (Visit.isUnread r.storage)).length ∧
      ∀ v ∈ vs, v.path ∈ o.filesChanged → ∃ b place,
        r.batch? service v.path v.start = some b ∧ d.fileOf? v.path = some place ∧
          (r.fix "/w" false d).state.bytesAt? place = some b.text.toUTF8 := by
  let : Text.Spare := ⟨0⟩
  intro reply d service r
  have hstorage : r.storage.MayRefuse id := .ofDisk_id
  have hsettings : ReviewSettings.ofFields [] = .valid r.settings := rfl
  have hplace : d.locate "/w" = .ok ["/", "w"] := Reply.eq_ok_of_toOption (by decide +kernel)
  have hfiles : d.discoverBelow "/w" Disk.defaultExtensions 1000000 = ["/w/a.js", "/w/b.js"] := by
    rw [Disk.discoverBelow, hplace]
    exact (congrArg Disk.inOrder (by decide +kernel)).trans (Disk.inOrder_of_pairwise (by decide))
  have hpaths : d.discover "/w" r.extensions r.settings.maxFileBytes
      = .ok ["/w/a.js", "/w/b.js"] := by
    rw [Disk.discover_of_isDir (by decide +kernel) (by decide)]
    exact congrArg _ hfiles
  have hapart : d.NamesApart ["/w/a.js", "/w/b.js"] := by decide +kernel
  have hrun : r.fix "/w" false d
      = r.fixFiles service false 0 ["/w/a.js", "/w/b.js"] (.start false) d :=
    fix_of_discover rfl hpaths false
  have hlegible : Legible (r.fix "/w" false d).events := by
    rw [hrun]
    exact legible_of_all (by decide +kernel)
  have hwritable : OffersWritable (r.fix "/w" false d).events := by
    rw [hrun]
    exact offersWritable_of_all (by decide +kernel)
  have hchanged : (r.fix "/w" false d).result.toOption.map FixRun.filesChanged
      = some ["/w/a.js"] := by
    rw [hrun]
    decide +kernel
  obtain ⟨o, vs, hresult, -, hvisits, -, -, htotal, -, -, -, -, hinside⟩ :=
    fix_account (s := d) hstorage hsettings rfl (fun _ _ => rfl) hpaths hapart hlegible hwritable
  refine ⟨o, vs, hresult, hvisits, ?_, htotal, hinside⟩
  rw [hresult] at hchanged
  exact Option.some.inj hchanged

end Reviewer
end CodeReview
