import CodeReview.Proofs.Finding.Merging
import CodeReview.Proofs.Review.Reading
import CodeReview.Proofs.Session.Paging
import Mathlib.Tactic.Choose

/-!
# What the passes of a review yield

Where a service answers a prompt always alike, what it says of a file is a function of the path and
the text (`exists_says`), and each pass of a review yields what can be said without running it: the
rules what they find in each file (`yields_findByRules`), the service what it says of the first
files (`exists_yields_gather`), and the whole review both of them merged (`exists_yields_review`).

A pass starts in a state that the passes before it left: requests have been made, and replies are
used up.  What is known of that state is only that its disk is the one of the state `s` in which the
review began.  So a pass has to give the same result from every state with that disk (`Yields`), and
that is where it matters that reading depends on the files alone (`Storage.ReadsAlike`): what is
read in a later state is what was there in `s` (`Storage.ReadsAlike.read_eq`).

The disk itself may refuse to read some of the files (`Storage.MayRefuse`).
-/

set_option autoImplicit false

namespace CodeReview

open CodeReview.Run

/-- A silent run yields what it has for a result wherever the disk is the same. -/
theorem Run.Silent.yields {σ α : Type} {disk : σ → Disk} {d : Disk} {x : Run σ α} {a : α}
    (hx : Silent x) (h : ∀ s, disk s = d → (x s).result = .ok a) : Yields disk d x a := by
  intro s hs
  refine ⟨h s hs, ?_⟩
  rw [(hx s).1, hs]

namespace Reviewer

variable {σ : Type} {disk : σ → Disk} {r : Reviewer σ} {path : String} {paths : List String}
  {s : σ}

/-! ## Reading

The three passes that only read.  They are silent, and their results are those of `Reading`; what is
left to say is that these are the same in every state with the disk. -/

theorem yields_findByRules (hsteady : r.storage.ReadsAlike disk)
    (hpaths : ∀ path ∈ paths, r.storage.ReadsSafely path) (mode : Mode) (s : σ) :
    Yields disk (disk s) (r.findByRules mode paths) (r.foundInMode mode s paths) := by
  refine (r.silent_findByRules mode paths).yields fun s' hs => ?_
  rw [result_findByRules hpaths, foundInMode_congr (hsteady.read_eq hs)]

theorem yields_suitableText (hsteady : r.storage.ReadsAlike disk)
    (hpath : r.storage.ReadsSafely path) (s : σ) :
    Yields disk (disk s) (r.suitableText path) (r.shownAt s path) := by
  refine (r.silent_suitableText path).yields fun s' hs => ?_
  rw [result_suitableText hpath, shownAt, shownAt, hsteady.read_eq hs]

theorem yields_readable (hsteady : r.storage.ReadsAlike disk)
    (hpaths : ∀ path ∈ paths, r.storage.ReadsSafely path) (s : σ) :
    Yields disk (disk s) (r.readable paths) (r.textsAt s paths) := by
  refine (r.silent_readable paths).yields fun s' hs => ?_
  have htexts : r.textsAt s' paths = r.textsAt s paths :=
    List.filterMap_congr fun path _ => by rw [hsteady.read_eq hs]
  rw [result_readable hpaths, htexts]

variable [Text.Spare]

/-! ## The service

What the service says of a file is a parameter, `say`; that there is such a function, for a service
that answers alike, is shown behind the passes. -/

/-- What a service says of a file that it is shown; `say` is what it says of a path and a text. -/
def foundByService (r : Reviewer σ) (say : String → String → List Finding) (s : σ) (path : String) :
    List Finding := (r.shownAt s path).elim [] (say path)

variable {service : Service σ} {say : String → String → List Finding}

/-- What the service says of one file. -/
theorem yields_askAbout {d : Disk} {content : String} {a : Analysis} {requested : Bool}
    (hdelay : isNegative r.settings.delaySeconds = false)
    (ha : Yields disk d (Paging.standard.analyze service ⟨content, path, none, none⟩) a) :
    Yields disk d (r.askAbout service requested path content) (.ofAnalysis path a) := by
  have hasked : Yields disk d (do
      Run.log .info s!"AI analyzing {path}"
      let a ← Paging.standard.analyze service ⟨content, path, none, none⟩
      let count := a.findings.length
      Run.log .info s!"Found {count} AI-detected issue(s) in {path}"
      pure (Gathered.ofAnalysis path a)) (.ofAnalysis path a) :=
    (ha.bind (yields_pure _).log_bind).log_bind
  cases requested with
  | false => exact hasked
  | true => exact (yields_pause hdelay).bind hasked

/-- **The service is shown the first files,** and what it says of them is gathered. -/
theorem exists_yields_gather (hsteady : r.storage.ReadsAlike disk)
    (hdelay : isNegative r.settings.delaySeconds = false)
    (hsay : ∀ path content, ∃ a, Yields disk (disk s)
      (Paging.standard.analyze service ⟨content, path, none, none⟩) a ∧ a.findings = say path content)
    (hpaths : ∀ path ∈ paths, r.storage.ReadsSafely path) (left : Nat) (requested : Bool) :
    ∃ g, Yields disk (disk s) (r.gather service left requested paths) g ∧
      g.findings = (paths.take left).flatMap (r.foundByService say s) := by
  induction paths generalizing left requested with
  | nil => exact ⟨.none, by cases left <;> exact yields_pure _, by simp [Gathered.none]⟩
  | cons path paths ih =>
    rw [List.forall_mem_cons] at hpaths
    cases left with
    | zero => exact ⟨.none, (yields_pure _).log_bind, rfl⟩
    | succ left =>
      -- a file that is not shown uses up its place all the same
      have hsuitable := yields_suitableText hsteady hpaths.1 s
      rw [List.take_succ_cons, List.flatMap_cons, foundByService]
      cases hshown : r.shownAt s path with
      | none =>
        rw [hshown] at hsuitable
        obtain ⟨g, hg, hfound⟩ := ih hpaths.2 left requested
        exact ⟨g, hsuitable.bind hg, hfound⟩
      | some content =>
        rw [hshown] at hsuitable
        obtain ⟨a, ha, hfindings⟩ := hsay path content
        obtain ⟨g, hg, hfound⟩ := ih hpaths.2 left true
        refine ⟨(Gathered.ofAnalysis path a).append g, hsuitable.bind ?_, ?_⟩
        · exact (yields_askAbout hdelay ha).bind (hg.bind (yields_pure _))
        · simp only [Gathered.append, Gathered.ofAnalysis, hfindings, hfound, Option.elim_some]

/-! ## The architecture

What is said of the files together has no findings, so it is enough that there is something. -/

variable {answer : String → Except Fault String}

theorem exists_yields_reviewArchitecture {d : Disk} (hservice : service.AnswersBy disk answer)
    (hanswer : ∀ prompt reply, answer prompt = .ok reply → IsReadable reply)
    (files : List (String × String)) (projectType : Option String) :
    ∃ a, Yields disk d (reviewArchitecture service files projectType) a := by
  have hask := yields_attempt_ask (d := d) hservice (Prompt.architecture files projectType)
  cases hreply : answer (Prompt.architecture files projectType) with
  | error e =>
    rw [hreply] at hask
    exact ⟨.empty, hask.bind (yields_pure _).log_bind⟩
  | ok reply =>
    rw [hreply] at hask
    obtain ⟨a, ha⟩ := (hanswer _ _ hreply).2
    exact ⟨a, hask.bind (yields_ofReading ha)⟩

theorem exists_yields_overview (hsteady : r.storage.ReadsAlike disk)
    (hservice : ∀ service ∈ r.service, service.AnswersBy disk answer)
    (hanswer : ∀ prompt reply, answer prompt = .ok reply → IsReadable reply)
    (hpaths : ∀ path ∈ paths, r.storage.ReadsSafely path) (s : σ) :
    ∃ o, Yields disk (disk s) (r.overview paths) o := by
  rw [overview]
  split
  · rename_i service hsome
    split
    · have hfirst : ∀ path ∈ paths.take maxArchitectureFiles, r.storage.ReadsSafely path :=
        fun path hpath => hpaths path (List.mem_of_mem_take hpath)
      have hfiles := yields_readable hsteady hfirst s
      obtain ⟨a, ha⟩ := exists_yields_reviewArchitecture (d := disk s) (hservice service hsome)
        hanswer (r.textsAt s (paths.take maxArchitectureFiles)) none
      exact ⟨some a, (hfiles.bind (ha.bind (yields_pure a).log_bind)).bind (yields_pure _)⟩
    · exact ⟨none, yields_pure none⟩
  · exact ⟨none, yields_pure none⟩

/-! ## The whole review

The rules come first, and what the service found is merged into what they found.  Since merging
sorts, that is also true where the service is not asked: nothing is merged then. -/

/-- What the services of a reviewer say of a file that is shown to them: `say`, if there is one. -/
def Says (disk : σ → Disk) (r : Reviewer σ) (say : String → String → List Finding) : Prop :=
  ∀ service ∈ r.service, ∀ path content,
    (∃ a, (∀ d, Yields disk d (Paging.standard.analyze service ⟨content, path, none, none⟩) a) ∧
      a.findings = say path content) ∧ ∀ f ∈ say path content, f.file = path

theorem exists_says (hservice : ∀ service ∈ r.service, service.AnswersBy disk answer)
    (hanswer : ∀ prompt reply, answer prompt = .ok reply → IsReadable reply) :
    ∃ say, r.Says disk say := by
  cases hr : r.service with
  | none => exact ⟨fun _ _ => [], fun service hs => by simp [hr] at hs⟩
  | some service =>
    rw [hr] at hservice
    choose a ha hfile using fun subject =>
      Paging.exists_yields_analyze (hservice service rfl) hanswer Paging.standard subject
    refine ⟨fun path content => (a ⟨content, path, none, none⟩).findings, ?_⟩
    intro service' hs path content
    rw [hr] at hs
    cases hs
    exact ⟨⟨_, ha _, rfl⟩, hfile _⟩

/-- What the service has to say where the mode asks it; nothing without a service. -/
def heard (r : Reviewer σ) (mode : Mode) (findings : List Finding) : List Finding :=
  if mode.usesService && r.service.isSome then findings else []

/-- What a review in this mode finds in files. -/
def foundIn (r : Reviewer σ) (say : String → String → List Finding) (mode : Mode) (s : σ)
    (paths : List String) : List Finding :=
  Finding.merge (r.foundInMode mode s paths)
    (r.heard mode ((paths.take r.settings.maxServiceFiles).flatMap (r.foundByService say s)))

omit [Text.Spare] in
theorem heard_nil (mode : Mode) : r.heard mode [] = [] := by
  rw [heard, ite_self]

omit [Text.Spare] in
theorem heard_of_none (hr : r.service = none) (mode : Mode) (findings : List Finding) :
    r.heard mode findings = [] := by
  rw [heard, hr, Option.isSome_none, Bool.and_false, if_neg Bool.false_ne_true]

omit [Text.Spare] in
theorem heard_of_some (hr : r.service = some service) (mode : Mode) (findings : List Finding) :
    r.heard mode findings = if mode.usesService then findings else [] := by
  rw [heard, hr, Option.isSome_some, Bool.and_true]

theorem exists_yields_addByService (hsteady : r.storage.ReadsAlike disk)
    (hdelay : isNegative r.settings.delaySeconds = false) (hsay : r.Says disk say)
    (hpaths : ∀ path ∈ paths, r.storage.ReadsSafely path) (mode : Mode) (s : σ) :
    ∃ g, Yields disk (disk s) (r.addByService mode paths (r.foundInMode mode s paths)) g ∧
      g.findings = r.foundIn say mode s paths := by
  have halone : Finding.merge (r.foundInMode mode s paths) [] = r.foundInMode mode s paths := by
    rw [Finding.merge_nil, sort_foundInMode]
  rw [addByService, foundIn, heard]
  cases mode.usesService with
  | false => exact ⟨_, yields_pure _, halone.symm⟩
  | true =>
    cases hr : r.service with
    | none => exact ⟨_, (yields_pure _).log_bind, halone.symm⟩
    | some service =>
      obtain ⟨g, hg, hfound⟩ := exists_yields_gather hsteady hdelay
        (fun path content =>
          (hsay service hr path content).1.imp fun a ha => ⟨ha.1 (disk s), ha.2⟩)
        hpaths r.settings.maxServiceFiles false
      exact ⟨_, hg.bind (yields_pure _), by rw [hfound]; rfl⟩

theorem yields_discover (hstorage : r.storage.MayRefuse disk) {d : Disk} {root : String}
    (hroot : d.isDir root = true) (hbytes : 0 < r.settings.maxFileBytes) :
    Yields disk d (r.discover root)
      (d.discoverBelow root r.extensions r.settings.maxFileBytes) := by
  intro s hs
  refine ⟨?_, hs⟩
  show r.storage.discover root r.extensions r.settings.maxFileBytes s = _
  rw [hstorage.discover, hs, Disk.discover_of_isDir hroot (by omega)]

/-- What is discovered below a directory can be read, or is refused in a way that a run survives. -/
theorem readsSafely_of_mem_discoverBelow (hstorage : r.storage.MayRefuse disk) {d : Disk}
    {root : String} (h : path ∈ d.discoverBelow root r.extensions r.settings.maxFileBytes) :
    r.storage.ReadsSafely path :=
  hstorage.readsSafely (Disk.hasNul_of_mem_discoverBelow h)

/-- **A review finds** what its passes find in the files as they are when it begins. -/
theorem exists_yields_review (hstorage : r.storage.MayRefuse disk)
    (hsteady : r.storage.ReadsAlike disk) (hdelay : isNegative r.settings.delaySeconds = false)
    (hbytes : 0 < r.settings.maxFileBytes)
    (hservice : ∀ service ∈ r.service, service.AnswersBy disk answer)
    (hanswer : ∀ prompt reply, answer prompt = .ok reply → IsReadable reply)
    (hsay : r.Says disk say) {root : String} (hroot : (disk s).isDir root = true)
    (mode : Option Mode) (timestamp : String) :
    ∃ report, Yields disk (disk s) (r.review root mode timestamp) report ∧
      report.findings = r.foundIn say (mode.getD r.settings.mode) s
        ((disk s).discoverBelow root r.extensions r.settings.maxFileBytes) := by
  have hdiscover := yields_discover hstorage hroot hbytes
  have hpaths : ∀ path ∈ (disk s).discoverBelow root r.extensions r.settings.maxFileBytes,
      r.storage.ReadsSafely path := fun path h => readsSafely_of_mem_discoverBelow hstorage h
  generalize (disk s).discoverBelow root r.extensions r.settings.maxFileBytes = paths at *
  obtain ⟨g, hg, hfound⟩ := exists_yields_addByService hsteady hdelay hsay hpaths
    (mode.getD r.settings.mode) s
  obtain ⟨o, ho⟩ := exists_yields_overview hsteady hservice hanswer hpaths s
  have hfinds : Yields disk (disk s) (r.findIn (mode.getD r.settings.mode) paths) g :=
    (yields_findByRules hsteady hpaths _ s).bind hg
  refine ⟨.build g.findings paths.length timestamp (remarks o g.insights), ?_, hfound⟩
  refine Yields.log_bind (hdiscover.bind (Yields.log_bind (hfinds.bind ?_)))
  exact ho.bind (yields_pure _)

end Reviewer
end CodeReview
