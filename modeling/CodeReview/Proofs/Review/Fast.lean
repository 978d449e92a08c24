import CodeReview.Proofs.Review.Composition

/-!
# Fast reviews

A fast review applies the rules alone, and what they find does not depend on the service.  One
would like to say that it does not use the service at all.  But if a review of the architecture is
wanted, there is a service, and there are files (`Overviews`), then the service is asked all the
same, once, whatever the mode is.  That is the only prompt of a fast review, and what is remarked
in reply is all that depends on the service (`review_fast_alike`).

To say that something does not depend on the service, two reviewers are compared.  They see the
same files (`SeesAlike`) and may have services that have nothing in common, or none.  Even the
types of their states may differ, so that nothing of the one can be in the other.
The two reviewers are compared in three steps.  What the rules find is the same
(`SeesAlike.foundInMode_eq`).  The prompts are none, or the one about the files together, whose
text is made of what is read (`prompts_review_of_overviews`).  And a report is what the rules found
with remarks or without, as that request was made or not (`exists_report_of_fast`).

Where the files cannot be listed there is nothing else to compare (`review_of_unlisted`), so the
law holds of every root.
-/

set_option autoImplicit false

namespace CodeReview

open CodeReview.Run

namespace Reviewer

variable {σ τ : Type} {r : Reviewer σ} {r' : Reviewer τ} {s : σ} {t : τ} {paths : List String}
  {root : String} {mode : Mode}

/-! ## Two reviewers

What the rules find is a function of what is read at the start, so two reviewers who read the same
find the same. -/

/-- Two reviewers with the same settings see the same files, each in a state of its own. -/
structure SeesAlike (r : Reviewer σ) (s : σ) (r' : Reviewer τ) (t : τ) : Prop where
  settings : r'.settings = r.settings
  extensions : r'.extensions = r.extensions
  discover : ∀ root extensions maxBytes,
    r'.storage.discover root extensions maxBytes t = r.storage.discover root extensions maxBytes s
  read : ∀ path, r'.storage.read path t = r.storage.read path s

theorem SeesAlike.result_discover (h : r.SeesAlike s r' t) (root : String) :
    (r'.discover root t).result = (r.discover root s).result := by
  show r'.storage.discover root r'.extensions r'.settings.maxFileBytes t = _
  rw [h.settings, h.extensions, h.discover]
  rfl

/-- The rules find the same. -/
theorem SeesAlike.foundInMode_eq (h : r.SeesAlike s r' t) (mode : Mode) (paths : List String) :
    r'.foundInMode mode t paths = r.foundInMode mode s paths := foundInMode_congr h.read mode paths

/-! ## What is shown together

The one request shows those of the first ten files that can be read. -/

/-- The service is to be asked about these files together: that is wanted, there is a service, and
there are files. -/
structure Overviews (r : Reviewer σ) (paths : List String) : Prop where
  wanted : r.settings.reviewsArchitecture = true
  served : r.service.isSome = true
  listed : paths ≠ []

variable [Text.Spare]

theorem overview_of_not_overviews (h : ¬r.Overviews paths) : r.overview paths = pure none := by
  rw [overview]
  cases hr : r.service with
  | none => rfl
  | some service =>
    dsimp only
    split
    · rename_i hboth
      rw [Bool.and_eq_true] at hboth
      exact absurd ⟨hboth.1, by rw [hr]; rfl, by simpa using hboth.2⟩ h
    · rfl

/-- **The service is asked once** about the files together. -/
theorem prompts_overview {service : Service σ} (hr : r.service = some service)
    (hpresent : service.isPresent = true) (h : r.Overviews paths)
    (hpaths : ∀ path ∈ paths, r.storage.ReadsSafely path) (s : σ) :
    (r.overview paths s).prompts
      = [Prompt.architecture (r.textsAt s (paths.take maxArchitectureFiles)) none] := by
  have hfirst : ∀ path ∈ paths.take maxArchitectureFiles, r.storage.ReadsSafely path :=
    fun path hpath => hpaths path (List.mem_of_mem_take hpath)
  have hshown := result_readable hfirst s
  have hboth : (r.settings.reviewsArchitecture && !paths.isEmpty) = true := by
    simp [h.wanted, h.listed]
  rw [overview, hr]
  dsimp only
  rw [if_pos hboth, prompts_bind_silent fun _ => silent_pure _, architecturePass]
  rw [((r.silent_readable _).bind_apply hshown).1,
    prompts_bind_silent fun _ => (silent_log _ _).bind fun _ => silent_pure _,
    (asks_reviewArchitecture service _ none s).prompts, if_pos hpresent]

/-! ## Fast reviews

With the mode fixed, a review is the listing of files, what the rules find in them, and perhaps the
one request. -/

/-- A review that cannot list the files ends there. -/
theorem review_of_unlisted {f : Fault} (h : (r.discover root s).result = .error f)
    (mode : Option Mode) (timestamp : String) :
    (r.review root mode timestamp s).prompts = [] ∧
      (r.review root mode timestamp s).result = .error f := by
  have hends (k : List String → Run σ Report) :
      ((r.discover root >>= k) s).prompts = [] ∧
        ((r.discover root >>= k) s).result = .error f := by
    rw [prompts_bind_error h, bind_apply_error h]
    exact ⟨(silent_discover _ _ _ _ s).2, rfl⟩
  constructor
  · exact ((silent_log _ _).bind_apply rfl).1.trans (hends _).1
  · exact ((silent_log _ _).bind_apply rfl).2.1.trans (hends _).2

/-- **A fast review is local** unless the service is to be asked about the files together. -/
theorem review_fast_of_not_overviews (hlisted : (r.discover root s).result = .ok paths)
    (hpaths : ∀ path ∈ paths, r.storage.ReadsSafely path) {mode : Option Mode}
    (hfast : mode.getD r.settings.mode = .fast) (h : ¬r.Overviews paths) (timestamp : String) :
    (r.review root mode timestamp s).prompts = [] ∧
      (r.review root mode timestamp s).result
        = .ok (.build (r.foundInMode .fast s paths) paths.length timestamp none) := by
  obtain ⟨hprompts, hresult⟩ := review_after_rules hlisted hpaths mode timestamp
  rw [hfast, afterRules_of_alone rfl, overview_of_not_overviews h] at hprompts hresult
  exact ⟨hprompts, hresult⟩

/-- **A fast review asks once** where the service is to be asked about the files together. -/
theorem prompts_review_of_overviews (hlisted : (r.discover root s).result = .ok paths)
    (hpaths : ∀ path ∈ paths, r.storage.ReadsSafely path) {mode : Option Mode}
    (hfast : mode.getD r.settings.mode = .fast) {service : Service σ}
    (hr : r.service = some service) (hpresent : service.isPresent = true) (h : r.Overviews paths)
    (timestamp : String) :
    (r.review root mode timestamp s).prompts
      = [Prompt.architecture (r.textsAt s (paths.take maxArchitectureFiles)) none] := by
  rw [(review_after_rules hlisted hpaths mode timestamp).1, hfast, afterRules_of_alone rfl,
    prompts_bind_silent fun _ => silent_pure _]
  exact prompts_overview hr hpresent h hpaths s

/-- Who asks about the files together makes something of the reply. -/
theorem isSome_of_overview {architecture : Option Architecture}
    (h : (r.overview paths s).result = .ok architecture) (hover : r.Overviews paths) :
    architecture.isSome = true := by
  obtain ⟨service, hr⟩ := Option.isSome_iff_exists.1 hover.served
  have hboth : (r.settings.reviewsArchitecture && !paths.isEmpty) = true := by
    simp [hover.wanted, hover.listed]
  rw [overview, hr] at h
  dsimp only at h
  rw [if_pos hboth] at h
  obtain ⟨a, -, ⟨⟩⟩ := exists_of_bind_ok h
  rfl

/-- What a fast review reports: what the rules found, and what was remarked about the files
together, if that was asked. -/
theorem exists_report_of_fast (hlisted : (r.discover root s).result = .ok paths)
    (hpaths : ∀ path ∈ paths, r.storage.ReadsSafely path) {mode : Option Mode}
    (hfast : mode.getD r.settings.mode = .fast) {timestamp : String} {report : Report}
    (h : (r.review root mode timestamp s).result = .ok report) :
    ∃ architecture : Option Architecture,
      report = .build (r.foundInMode .fast s paths) paths.length timestamp
        (remarks architecture []) ∧ (architecture.isSome = true ↔ r.Overviews paths) := by
  rw [(review_after_rules hlisted hpaths mode timestamp).2, hfast, afterRules_of_alone rfl] at h
  obtain ⟨architecture, hoverview, ⟨⟩⟩ := exists_of_bind_ok h
  refine ⟨architecture, rfl, fun hsome => ?_, isSome_of_overview hoverview⟩
  by_contra hnot
  rw [overview_of_not_overviews hnot] at hoverview
  cases hoverview
  cases hsome

/-- There are remarks in a fast report exactly if the service was to be asked about the files
together. -/
theorem insights_of_fast (hlisted : (r.discover root s).result = .ok paths)
    (hpaths : ∀ path ∈ paths, r.storage.ReadsSafely path) {mode : Option Mode}
    (hfast : mode.getD r.settings.mode = .fast) {timestamp : String} {report : Report}
    (h : (r.review root mode timestamp s).result = .ok report) :
    report.insights.isSome = true ↔ r.Overviews paths := by
  obtain ⟨architecture, rfl, hover⟩ := exists_report_of_fast hlisted hpaths hfast h
  rw [← hover]
  cases architecture <;> simp [Report.build, remarks]

/-! ## What a fast review owes to the service

The four combinations of two reviewers, each with that request or without. -/

/-- **A fast review is local, but for the review of the architecture.**  Two reviewers see the same
files.  One that is not to ask a service about them together sends no prompt and has a report; if
neither is, the results are the same but for the time.  One that is, and has a service that is
present, sends one prompt.  Whatever the services do, two reports differ in the time and the
remarks alone, and there are remarks in the report of a reviewer that was to ask and in no other. -/
theorem review_fast_alike {disk : σ → Disk} {disk' : τ → Disk} (halike : r.SeesAlike s r' t)
    (hstorage : r.storage.MayRefuse disk) (hstorage' : r'.storage.MayRefuse disk')
    {mode : Option Mode} (hfast : mode.getD r.settings.mode = .fast)
    (root timestamp timestamp' : String) :
    let outcome := r.review root mode timestamp s
    let outcome' := r'.review root mode timestamp' t
    let paths := (r.discover root s).result.toOption.getD []
    (¬r.Overviews paths → outcome.prompts = [] ∧
      ((r.discover root s).result = .ok paths → ∃ report, outcome.result = .ok report)) ∧
    (¬r.Overviews paths → ¬r'.Overviews paths →
      outcome'.result = outcome.result.map fun report => { report with timestamp := timestamp' }) ∧
    (∀ service ∈ r.service, service.isPresent = true → r.Overviews paths →
      outcome.prompts
        = [Prompt.architecture (r.textsAt s (paths.take maxArchitectureFiles)) none]) ∧
    ∀ report, outcome.result = .ok report →
      (report.insights.isSome = true ↔ r.Overviews paths) ∧
      ∀ report', outcome'.result = .ok report' →
        report' = { report with timestamp := timestamp', insights := report'.insights } := by
  intro outcome outcome' paths
  have hfast' : mode.getD r'.settings.mode = .fast := by rw [halike.settings, hfast]
  have hsame := halike.result_discover root
  cases hlisted : (r.discover root s).result with
  | error f =>
    have hnone : paths = [] := by
      show (r.discover root s).result.toOption.getD [] = []
      rw [hlisted]
      rfl
    obtain ⟨hprompts, hresult⟩ := review_of_unlisted hlisted mode timestamp
    obtain ⟨-, hresult'⟩ := review_of_unlisted (hsame.trans hlisted) mode timestamp'
    refine ⟨fun _ => ⟨hprompts, nofun⟩, fun _ _ => hresult'.trans (by rw [hresult]; rfl), ?_, ?_⟩
    · exact fun _ _ _ h => absurd hnone h.listed
    · intro report h
      cases hresult.symm.trans h
  | ok found =>
    obtain rfl : paths = found := by
      show (r.discover root s).result.toOption.getD [] = found
      rw [hlisted]
      rfl
    have hdisk : (disk s).discover root r.extensions r.settings.maxFileBytes = .ok paths :=
      (hstorage.discover _ _ _ s).symm.trans hlisted
    have hsafely : ∀ path ∈ paths, r.storage.ReadsSafely path :=
      fun path hpath => hstorage.readsSafely (Disk.hasNul_of_discover hdisk hpath)
    have hsafely' : ∀ path ∈ paths, r'.storage.ReadsSafely path :=
      fun path hpath => hstorage'.readsSafely (Disk.hasNul_of_discover hdisk hpath)
    have hlisted' := hsame.trans hlisted
    refine ⟨fun hnot => ?_, fun hnot hnot' => ?_, fun service hr hpresent hover => ?_,
      fun report hreport => ⟨insights_of_fast hlisted hsafely hfast hreport, ?_⟩⟩
    · obtain ⟨hprompts, hresult⟩ :=
        review_fast_of_not_overviews hlisted hsafely hfast hnot timestamp
      exact ⟨hprompts, fun _ => ⟨_, hresult⟩⟩
    · have hresult := (review_fast_of_not_overviews hlisted hsafely hfast hnot timestamp).2
      have hresult' := (review_fast_of_not_overviews hlisted' hsafely' hfast' hnot' timestamp').2
      refine hresult'.trans ?_
      rw [hresult, halike.foundInMode_eq]
      rfl
    · exact prompts_review_of_overviews hlisted hsafely hfast hr hpresent hover timestamp
    · intro report' hreport'
      obtain ⟨architecture, rfl, -⟩ := exists_report_of_fast hlisted hsafely hfast hreport
      obtain ⟨architecture', rfl, -⟩ := exists_report_of_fast hlisted' hsafely' hfast' hreport'
      rw [halike.foundInMode_eq]
      rfl

omit [Text.Spare] in
/-- Two files, a reviewer with a service and one without. -/
theorem review_fast_alike_two_files :
    letI : Text.Spare := ⟨0⟩
    let storage : Storage Disk := .ofDisk id fun d _ => d
    let settings : ReviewSettings := ⟨.fast, 20, 50000, 1000000, ReviewSettings.defaultDelay, true⟩
    let service : Service Disk := .always "\x7b\x7d"
    let r : Reviewer Disk := ⟨settings, some service, storage, Disk.defaultExtensions⟩
    let r' : Reviewer Disk := ⟨settings, none, storage, Disk.defaultExtensions⟩
    let paths := ["/w/a.js", "/w/b.js"]
    r.SeesAlike Disk.twoFiles r' Disk.twoFiles ∧ storage.MayRefuse id ∧
      (none : Option Mode).getD r.settings.mode = .fast ∧
      (r'.review "/w" none "2024-01-02" Disk.twoFiles).prompts = [] ∧
      (r.review "/w" none "2024-01-01" Disk.twoFiles).prompts
        = [Prompt.architecture (r.textsAt Disk.twoFiles paths) none] ∧
      ∀ report, (r.review "/w" none "2024-01-01" Disk.twoFiles).result = .ok report →
        report.insights.isSome = true ∧
        ∀ report', (r'.review "/w" none "2024-01-02" Disk.twoFiles).result = .ok report' →
          report' = { report with timestamp := "2024-01-02", insights := report'.insights } := by
  let : Text.Spare := ⟨0⟩
  intro storage settings service r r' paths
  have halike : r.SeesAlike Disk.twoFiles r' Disk.twoFiles :=
    ⟨rfl, rfl, fun _ _ _ => rfl, fun _ => rfl⟩
  have hstorage : storage.MayRefuse id := .ofDisk_id
  have hlisted : (r.discover "/w" Disk.twoFiles).result.toOption.getD [] = paths :=
    congrArg (fun found => found.toOption.getD []) Disk.discover_twoFiles
  have hover : r.Overviews paths := ⟨rfl, rfl, List.cons_ne_nil _ _⟩
  have hnot : ¬r'.Overviews paths := fun h => Bool.false_ne_true h.served
  have hlisted' : (r'.discover "/w" Disk.twoFiles).result.toOption.getD [] = paths := hlisted
  have halike' : r'.SeesAlike Disk.twoFiles r Disk.twoFiles :=
    ⟨rfl, rfl, fun _ _ _ => rfl, fun _ => rfl⟩
  have hfast : (none : Option Mode).getD settings.mode = .fast := rfl
  obtain ⟨-, -, hasked, hreports⟩ :=
    review_fast_alike halike hstorage hstorage hfast "/w" "2024-01-01" "2024-01-02"
  obtain ⟨hlocal, -⟩ :=
    review_fast_alike halike' hstorage hstorage hfast "/w" "2024-01-02" "2024-01-01"
  rw [hlisted] at hasked hreports
  rw [hlisted'] at hlocal
  refine ⟨halike, hstorage, hfast, (hlocal hnot).1, hasked service rfl rfl hover, ?_⟩
  intro report hreport
  exact ⟨(hreports report hreport).1.2 hover, (hreports report hreport).2⟩

omit [Text.Spare] in
/-- A fast review of one file sends a prompt, and its report is not the one that is made without a
service, whatever the times. -/
theorem review_fast_not_local :
    letI : Text.Spare := ⟨0⟩
    let d := (Disk.empty "/w").put "/w/a.js" "eval(x)\n".toUTF8
    let settings : ReviewSettings := ⟨.fast, 20, 50000, 1000000, ReviewSettings.defaultDelay, true⟩
    let service : Service Disk := .always "\x7b\"overallQuality\": 70\x7d"
    let storage : Storage Disk := .ofDisk id fun d _ => d
    let r : Reviewer Disk := ⟨settings, some service, storage, Disk.defaultExtensions⟩
    let r' : Reviewer Disk := ⟨settings, none, storage, Disk.defaultExtensions⟩
    (r.review "/w" none "2024-01-01" d).prompts ≠ [] ∧
      ∃ report report', (r.review "/w" none "2024-01-01" d).result = .ok report ∧
        (r'.review "/w" none "2024-01-02" d).result = .ok report' ∧
        ∀ time, report' ≠ { report with timestamp := time } := by
  let : Text.Spare := ⟨0⟩
  intro d settings service storage r r'
  have hroot : d.isDir "/w" = true := by decide +kernel
  have hfiles : d.discoverBelow "/w" Disk.defaultExtensions 1000000 = ["/w/a.js"] := by
    decide +kernel
  have hdisk : d.discover "/w" Disk.defaultExtensions 1000000 = .ok ["/w/a.js"] := by
    rw [Disk.discover_of_isDir hroot (by decide), hfiles]
  have hlisted : (r.discover "/w" d).result = .ok ["/w/a.js"] := hdisk
  have hlisted' : (r'.discover "/w" d).result = .ok ["/w/a.js"] := hdisk
  have hmay : storage.MayRefuse id := .ofDisk_id
  have hsafely : ∀ path ∈ ["/w/a.js"], storage.ReadsSafely path :=
    fun path hpath => hmay.readsSafely (Disk.hasNul_of_discover hdisk hpath)
  have hover : r.Overviews ["/w/a.js"] := ⟨rfl, rfl, List.cons_ne_nil _ _⟩
  have hnot : ¬r'.Overviews ["/w/a.js"] := fun h => Bool.false_ne_true h.served
  obtain ⟨hservice, hanswer⟩ := readable_always (id : Disk → Disk) "\x7b\"overallQuality\": 70\x7d"
    (by decide +kernel) (by decide +kernel)
  have hsettings : ReviewSettings.ofFields
      [("mode", .str "fast"), ("architecture_review", .bool true)] = .valid r.settings := rfl
  have hfast : (none : Option Mode).getD settings.mode = .fast := rfl
  have hharmless : Harmless (r.review "/w" none "2024-01-01" d).events :=
    harmless_review hmay Storage.readsAlike_ofDisk_id hsettings hservice hanswer hroot none
      "2024-01-01"
  have hdelay := (ReviewSettings.bounds_of_ofFields hsettings).2.2.2.2
  obtain ⟨report, hreport⟩ := exists_result_of_harmless
    (stoppedByEvents_review_of_discover hdelay hlisted hsafely none "2024-01-01") hharmless
  have hreport' : (r'.review "/w" none "2024-01-02" d).result = _ :=
    (review_fast_of_not_overviews hlisted' hsafely hfast hnot "2024-01-02").2
  refine ⟨?_, report, _, hreport, hreport', fun time heq => ?_⟩
  · rw [prompts_review_of_overviews hlisted hsafely hfast rfl rfl hover]
    exact List.cons_ne_nil _ _
  · have hsome : report.insights.isSome = true :=
      (insights_of_fast hlisted hsafely hfast hreport).2 hover
    have hinsights : none = report.insights := congrArg Report.insights heq
    rw [← hinsights] at hsome
    cases hsome

end Reviewer
end CodeReview
