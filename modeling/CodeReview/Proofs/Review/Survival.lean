import CodeReview.Proofs.Review.Passes
import CodeReview.Proofs.Session.Asking
import CodeReview.Proofs.Session.Storing
import CodeReview.Proofs.Settings.Accepted
import CodeReview.Review.Fix

/-!
# What a review and a fix survive

A review of a directory and the fixing of its files are meant to be robust: a file that cannot be
read costs what it would have brought, and so does a request that fails.  How far does this go?
Read off the code, the answer is a list of places at which something is caught, and one has to see
that none was forgotten.  Put the other way round it is a short list of what is *not* survived,
told by events (`Event.Stops`).  Both are stopped by events alone (`stoppedByEvents_review`,
`stoppedByEvents_fix`): they end in a fault exactly if one of their events is on the list, whatever
the service does to the world in between.

The proof goes along the run and has a lemma for each function of it, in the order in which they
call each other; `Run.StoppedByEvents.bind` joins them.  All that is asked of the files is that
reading and writing them fails in ways that a run survives (`Storage.ReadsSafely`,
`Storage.WritesSafely`), and this is so for what was discovered, however much the disk refuses
(`Storage.MayRefuse`).

* `stoppedByEvents_review`, `stoppedByEvents_fix` — the two as a whole;
* `harmless_review` — replies that can be read stop no review;
* `mem_findings_of_review` — a review that is not stopped reports all that the rules find;
* `review_and_fix_stopped_iff` — what both survive, in one statement.

There is a reply that stops even a review that applies the rules alone.  It is an answer to the one
request that such a review makes, about the architecture, and what the rules found before is lost
with it (`review_stopped_by_score`).
-/

set_option autoImplicit false

namespace CodeReview

open CodeReview.Run

namespace Reviewer

variable [Text.Spare] {σ : Type} {disk : σ → Disk} {r : Reviewer σ} {service : Service σ}
  {path : String} {paths : List String}

theorem stoppedByEvents_readText (hpath : r.storage.ReadsSafely path) :
    StoppedByEvents (r.readText path) := by
  refine stoppedByEvents_of_harmless fun s => ⟨?_, _, result_readText hpath s⟩
  cases hread : r.storage.read path s with
  | error f =>
    rw [readText, surviving_readText_of_error hread (hpath s f hread)]
    exact harmless_nil
  | ok content =>
    rw [readText, surviving_readText_of_ok hread]
    exact harmless_nil

/-! ## The passes of a review

Each file is visited up to three times: by the rules, by the service, and for the architecture.  At
each of these reading it may fail, with a line in the log and no more. -/

theorem stoppedByEvents_ruleFindings (hpath : r.storage.ReadsSafely path) :
    StoppedByEvents (r.ruleFindings path) := by
  refine (stoppedByEvents_readText hpath).bind fun read => ?_
  cases read with
  | error e => exact (stoppedByEvents_pure []).log_bind
  | ok content =>
    dsimp only
    split
    · exact (stoppedByEvents_pure _).log_bind
    · exact stoppedByEvents_pure _

theorem stoppedByEvents_allRuleFindings (hpaths : ∀ path ∈ paths, r.storage.ReadsSafely path) :
    StoppedByEvents (r.allRuleFindings paths) := by
  induction paths with
  | nil => exact stoppedByEvents_pure []
  | cons path paths ih =>
    rw [List.forall_mem_cons] at hpaths
    refine (stoppedByEvents_ruleFindings hpaths.1).bind fun fs => ?_
    exact (ih hpaths.2).bind fun rest => stoppedByEvents_pure _

theorem stoppedByEvents_findByRules (hpaths : ∀ path ∈ paths, r.storage.ReadsSafely path)
    (mode : Mode) : StoppedByEvents (r.findByRules mode paths) := by
  rw [findByRules]
  split
  · exact (stoppedByEvents_allRuleFindings hpaths).bind fun _ => stoppedByEvents_pure _
  · exact stoppedByEvents_pure []

theorem stoppedByEvents_suitableText (hpath : r.storage.ReadsSafely path) :
    StoppedByEvents (r.suitableText path) := by
  refine (stoppedByEvents_readText hpath).bind fun read => ?_
  cases read with
  | error e => exact (stoppedByEvents_pure none).log_bind
  | ok content =>
    dsimp only
    split
    · exact (stoppedByEvents_pure none).log_bind
    · exact stoppedByEvents_pure (some content)

theorem stoppedByEvents_askAbout (hdelay : isNegative r.settings.delaySeconds = false)
    (requested : Bool) (path content : String) :
    StoppedByEvents (r.askAbout service requested path content) := by
  have hasked : StoppedByEvents (do
      Run.log .info s!"AI analyzing {path}"
      let a ← Paging.standard.analyze service ⟨content, path, none, none⟩
      let count := a.findings.length
      Run.log .info s!"Found {count} AI-detected issue(s) in {path}"
      pure (Gathered.ofAnalysis path a)) :=
    (Paging.stoppedByEvents_analyze.bind fun a => (stoppedByEvents_pure _).log_bind).log_bind
  cases requested with
  | false => exact hasked
  | true => exact (stoppedByEvents_pause hdelay).bind fun _ => hasked

theorem stoppedByEvents_gather (hdelay : isNegative r.settings.delaySeconds = false)
    (hpaths : ∀ path ∈ paths, r.storage.ReadsSafely path) (left : Nat) (requested : Bool) :
    StoppedByEvents (r.gather service left requested paths) := by
  induction paths generalizing left requested with
  | nil => cases left <;> exact stoppedByEvents_pure _
  | cons path paths ih =>
    rw [List.forall_mem_cons] at hpaths
    cases left with
    | zero => exact (stoppedByEvents_pure _).log_bind
    | succ left =>
      refine (stoppedByEvents_suitableText hpaths.1).bind fun text => ?_
      cases text with
      | none => exact ih hpaths.2 left requested
      | some content =>
        refine (stoppedByEvents_askAbout hdelay requested path content).bind fun first => ?_
        exact (ih hpaths.2 left true).bind fun rest => stoppedByEvents_pure _

theorem stoppedByEvents_addByService (hdelay : isNegative r.settings.delaySeconds = false)
    (hpaths : ∀ path ∈ paths, r.storage.ReadsSafely path) (mode : Mode) (byRules : List Finding) :
    StoppedByEvents (r.addByService mode paths byRules) := by
  rw [addByService]
  split
  · split
    · exact (stoppedByEvents_pure _).log_bind
    · exact (stoppedByEvents_gather hdelay hpaths _ _).bind fun _ => stoppedByEvents_pure _
  · exact stoppedByEvents_pure _

theorem stoppedByEvents_readable (hpaths : ∀ path ∈ paths, r.storage.ReadsSafely path) :
    StoppedByEvents (r.readable paths) := by
  induction paths with
  | nil => exact stoppedByEvents_pure []
  | cons path paths ih =>
    rw [List.forall_mem_cons] at hpaths
    refine (stoppedByEvents_readText hpaths.1).bind fun read => ?_
    cases read with
    | error e => exact (ih hpaths.2).log_bind
    | ok content => exact (ih hpaths.2).bind fun rest => stoppedByEvents_pure _

theorem stoppedByEvents_overview (hpaths : ∀ path ∈ paths, r.storage.ReadsSafely path) :
    StoppedByEvents (r.overview paths) := by
  have hfirst : ∀ path ∈ paths.take maxArchitectureFiles, r.storage.ReadsSafely path :=
    fun path hpath => hpaths path (List.mem_of_mem_take hpath)
  rw [overview]
  split
  · rename_i service hservice
    split
    · have hpass : StoppedByEvents (r.architecturePass service paths) := by
        refine (stoppedByEvents_readable hfirst).bind fun files => ?_
        refine (stoppedByEvents_reviewArchitecture files none).bind fun a => ?_
        exact (stoppedByEvents_pure a).log_bind
      exact hpass.bind fun _ => stoppedByEvents_pure _
    · exact stoppedByEvents_pure none
  · exact stoppedByEvents_pure none

/-- **A review of files** that were discovered. -/
theorem stoppedByEvents_findIn_bind (hdelay : isNegative r.settings.delaySeconds = false)
    (hpaths : ∀ path ∈ paths, r.storage.ReadsSafely path) (mode : Mode)
    (build : Gathered → Option Architecture → Report) :
    StoppedByEvents (do
      let found ← r.findIn mode paths
      let architecture ← r.overview paths
      pure (build found architecture)) := by
  refine StoppedByEvents.bind ?_ fun found => ?_
  · refine (stoppedByEvents_findByRules hpaths mode).bind fun byRules => ?_
    exact stoppedByEvents_addByService hdelay hpaths mode byRules
  · exact (stoppedByEvents_overview hpaths).bind fun a => stoppedByEvents_pure _

/-! ## Fixing files

Here is the one fault of writing that is not survived, a text without bytes.  It is not enough to
say that the event is there: the text has to come from somewhere, and `Explained` follows it back
to the reply that proposed it. -/

/-- What is written back to a file is told by events, whatever the text is. -/
theorem stoppedByEvents_writeBack (hpath : r.storage.WritesSafely path) (content : String)
    (b : FixBatch) (o : FixRun) (s : σ) : (r.writeBack path content b o s).StoppedByEvents := by
  rw [writeBack]
  split
  · exact (stoppedByEvents_pure _).outcome s
  · refine stoppedByEvents_bind_apply (stoppedByEvents_surviving_writeText hpath s) ?_
    intro written _
    cases written with
    | error e => exact (stoppedByEvents_pure _).log_bind.outcome _
    | ok u => exact (stoppedByEvents_pure _).outcome _

/-- What cannot be written back for want of bytes is a changed text that has none. -/
theorem encode_of_writeBack (hpath : r.storage.WritesSafely path) {content path' : String}
    {b : FixBatch} {o : FixRun} {s : σ} {u : Text.Unencodable}
    (h : .unwritten path' (.unencodable u) ∈ (r.writeBack path content b o s).events) :
    b.text ≠ content ∧ Text.encode b.text = .error u := by
  rw [writeBack] at h
  split at h
  · cases h
  · rename_i hchanged
    rcases mem_events_of_bind h with h | ⟨written, -, h⟩
    · exact ⟨hchanged, encode_of_unwritten hpath h⟩
    · cases written with
      | error e => cases List.mem_singleton.1 h
      | ok u => cases h

/-- **A file is fixed.**  Where its new text has no bytes, a reply proposed that text. -/
theorem stoppedByEvents_fixFile (hpath : r.storage.WritesSafely path) (content : String)
    (findings : List Finding) (o : FixRun) :
    StoppedByEvents (r.fixFile service path content findings o) := by
  have hsteps : StoppedByEvents
      (Fixing.applyFixes service Fixing.standardThreshold content path findings) :=
    Fixing.stoppedByEvents_steps _ findings
  refine StoppedByEvents.log_bind ⟨fun s => ?_, fun s path' u h => ?_⟩
  · refine stoppedByEvents_bind_apply (hsteps.outcome s) fun b _ => ?_
    exact stoppedByEvents_writeBack hpath content b o _
  · rcases mem_events_of_bind h with h | ⟨b, hb, h⟩
    · obtain ⟨text, hu, htext⟩ := hsteps.explained s path' u h
      exact ⟨text, hu, htext.mono events_subset_bind_left⟩
    · obtain ⟨hchanged, hu⟩ := encode_of_writeBack hpath h
      rcases Fixing.text_steps hb with htext | hproposes
      · exact absurd htext hchanged
      · exact ⟨b.text, hu, hproposes.mono events_subset_bind_left⟩

theorem stoppedByEvents_analyzeAndFix (hpath : r.storage.WritesSafely path) (dryRun : Bool)
    (content : String) (o : FixRun) :
    StoppedByEvents (r.analyzeAndFix service dryRun path content o) := by
  refine Paging.stoppedByEvents_analyze.bind fun a => ?_
  dsimp only
  split
  · exact stoppedByEvents_pure o
  · split
    · exact stoppedByEvents_pure _
    · exact stoppedByEvents_fixFile hpath content _ _

theorem stoppedByEvents_fixFiles (hdelay : isNegative r.settings.delaySeconds = false)
    (dryRun : Bool) (hreads : ∀ path ∈ paths, r.storage.ReadsSafely path)
    (hwrites : ∀ path ∈ paths, r.storage.WritesSafely path) (index : Nat) (o : FixRun) :
    StoppedByEvents (r.fixFiles service dryRun index paths o) := by
  induction paths generalizing index o with
  | nil => exact stoppedByEvents_pure o
  | cons path paths ih =>
    rw [List.forall_mem_cons] at hreads hwrites
    refine (stoppedByEvents_readText hreads.1).bind fun read => ?_
    cases read with
    | error e => exact (ih hreads.2 hwrites.2 _ _).log_bind
    | ok content =>
      have hrest : StoppedByEvents (do
          let o ← r.analyzeAndFix service dryRun path content o
          r.fixFiles service dryRun (index + 1) paths o) :=
        (stoppedByEvents_analyzeAndFix hwrites.1 dryRun content o).bind fun o =>
          ih hreads.2 hwrites.2 _ o
      dsimp only
      split
      · exact (stoppedByEvents_pause hdelay).bind fun _ => hrest
      · exact hrest

/-! ## What is reported

Merging keeps what it is merged into. -/

/-- What the rules found stays, whatever the service adds. -/
theorem mem_findings_of_addByService {mode : Mode} {byRules : List Finding} {s : σ} {g : Gathered}
    {f : Finding} (h : (r.addByService mode paths byRules s).result = .ok g) (hf : f ∈ byRules) :
    f ∈ g.findings := by
  cases hasks : mode.usesService with
  | false =>
    rw [addByService, hasks] at h
    cases h
    exact hf
  | true =>
    cases hr : r.service with
    | none =>
      rw [addByService, hasks, hr] at h
      obtain ⟨_, -, h⟩ := exists_of_bind_ok h
      cases h
      exact hf
    | some service =>
      rw [addByService, hasks, hr] at h
      obtain ⟨found, -, h⟩ := exists_of_bind_ok h
      cases h
      exact Finding.mem_merge_of_mem hf

/-! ## The whole of both

What is asked of the paths holds of those that are discovered, and the settings bring the bounds
that the pauses need. -/

variable {root : String} {s : σ}

/-- **A review of the files that are discovered** is stopped by events alone. -/
theorem stoppedByEvents_review_of_discover (hdelay : isNegative r.settings.delaySeconds = false)
    (hlisted : (r.discover root s).result = .ok paths)
    (hpaths : ∀ path ∈ paths, r.storage.ReadsSafely path) (mode : Option Mode)
    (timestamp : String) : (r.review root mode timestamp s).StoppedByEvents := by
  refine stoppedByEvents_bind_apply ((stoppedByEvents_log _ _).outcome s) fun _ _ => ?_
  refine stoppedByEvents_bind_apply (stoppedByEvents_of_result harmless_nil hlisted) ?_
  intro paths' hpaths'
  obtain rfl := Except.ok.inj (hlisted.symm.trans hpaths')
  exact (StoppedByEvents.log_bind (stoppedByEvents_findIn_bind hdelay hpaths _ _)).outcome s

/-- **A review of a directory** is stopped by events alone. -/
theorem stoppedByEvents_review (hstorage : r.storage.MayRefuse disk)
    (hdelay : isNegative r.settings.delaySeconds = false) (hbytes : 0 < r.settings.maxFileBytes)
    (hroot : (disk s).isDir root = true) (mode : Option Mode) (timestamp : String) :
    (r.review root mode timestamp s).StoppedByEvents :=
  stoppedByEvents_review_of_discover hdelay
    ((yields_discover hstorage hroot hbytes).result_eq rfl)
    (fun _ hpath => readsSafely_of_mem_discoverBelow hstorage hpath) mode timestamp

/-- **Answers that can be read** stop no review. -/
theorem harmless_review (hstorage : r.storage.MayRefuse disk)
    (hsteady : r.storage.ReadsAlike disk) {fields : Json.Fields}
    (hsettings : ReviewSettings.ofFields fields = .valid r.settings)
    {answer : String → Except Fault String}
    (hservice : ∀ service ∈ r.service, service.AnswersBy disk answer)
    (hanswer : ∀ prompt reply, answer prompt = .ok reply → IsReadable reply)
    (hroot : (disk s).isDir root = true) (mode : Option Mode) (timestamp : String) :
    Harmless (r.review root mode timestamp s).events := by
  obtain ⟨-, -, -, hbytes, hdelay⟩ := ReviewSettings.bounds_of_ofFields hsettings
  obtain ⟨say, hsay⟩ := exists_says hservice hanswer
  obtain ⟨report, hreport, -⟩ := exists_yields_review hstorage hsteady hdelay hbytes hservice
    hanswer hsay hroot mode timestamp
  exact harmless_of_result (stoppedByEvents_review hstorage hdelay hbytes hroot mode timestamp)
    (hreport.result_eq rfl)

/-- **Fixing a directory** is stopped by events alone, and what it cannot write was proposed. -/
theorem stoppedByEvents_fix (hstorage : r.storage.MayRefuse disk)
    (hdelay : isNegative r.settings.delaySeconds = false) (hbytes : 0 < r.settings.maxFileBytes)
    (hroot : (disk s).isDir root = true) (dryRun : Bool) :
    (r.fix root dryRun s).StoppedByEvents ∧ Explained (r.fix root dryRun s).events := by
  have hdiscover := (yields_discover hstorage hroot hbytes).result_eq (s := s) rfl
  rw [fix]
  cases r.service with
  | none =>
    have hnothing : StoppedByEvents (do
        Run.log .error "AI fixes require a configured LLM"
        pure (FixRun.start dryRun) : Run σ FixRun) := (stoppedByEvents_pure _).log_bind
    exact ⟨hnothing.outcome s, hnothing.explained s⟩
  | some service =>
    have hnul : ∀ path ∈ (disk s).discoverBelow root r.extensions r.settings.maxFileBytes,
        Disk.hasNul path = false := fun path hpath => Disk.hasNul_of_mem_discoverBelow hpath
    have hfixes : StoppedByEvents (r.fixFiles service dryRun 0
        ((disk s).discoverBelow root r.extensions r.settings.maxFileBytes) (.start dryRun)) :=
      stoppedByEvents_fixFiles hdelay dryRun
        (fun path hpath => hstorage.readsSafely (hnul path hpath))
        (fun path hpath => hstorage.writesSafely (hnul path hpath)) 0 _
    constructor
    · refine stoppedByEvents_bind_apply (stoppedByEvents_of_result harmless_nil hdiscover) ?_
      intro paths hpaths
      obtain rfl := Except.ok.inj (hdiscover.symm.trans hpaths)
      exact hfixes.outcome _
    · refine explained_bind_apply (explained_of_harmless harmless_nil) ?_
      intro paths hpaths
      obtain rfl := Except.ok.inj (hdiscover.symm.trans hpaths)
      exact hfixes.explained _

/-- **What the rules find is reported,** in every review that has a report. -/
theorem mem_findings_of_review (hlisted : (r.discover root s).result = .ok paths)
    (hpaths : ∀ path ∈ paths, r.storage.ReadsSafely path) {mode : Option Mode} {timestamp : String}
    {report : Report} {path content : String} {f : Finding}
    (hreport : (r.review root mode timestamp s).result = .ok report)
    (hmode : (mode.getD r.settings.mode).usesRules = true) (hpath : path ∈ paths)
    (hread : r.storage.read path s = .ok content) (hf : f ∈ Rule.scanText content path) :
    f ∈ report.findings := by
  rw [(review_after_rules hlisted hpaths mode timestamp).2] at hreport
  obtain ⟨g, hg, hfindings⟩ := findings_of_afterRules hreport
  rw [hfindings]
  refine mem_findings_of_addByService hg ?_
  rw [foundInMode, if_pos hmode, Finding.mem_sort]
  refine List.mem_flatMap.2 ⟨path, hpath, ?_⟩
  rw [foundAt, hread]
  exact hf

/-- **What a review and a fix survive.**  Whatever the service answers, and whatever it does to the
world, a review and the fixing of the files of a directory end in a fault exactly if one of their
events stops them, and the fault is the one of that event.  Without such an event both have a
result, and the review reports all that the rules find in the files as they are at its start.
Where a text without bytes stops the fixing, a reply proposed that text. -/
theorem review_and_fix_stopped_iff (hstorage : r.storage.MayRefuse disk)
    {fields : Json.Fields} (hsettings : ReviewSettings.ofFields fields = .valid r.settings)
    (hroot : (disk s).isDir root = true) :
    (∀ mode timestamp,
      (∀ f, (r.review root mode timestamp s).result = .error f ↔
        ∃ e ∈ (r.review root mode timestamp s).events, e.Stops f) ∧
      (Harmless (r.review root mode timestamp s).events →
        ∃ report, (r.review root mode timestamp s).result = .ok report ∧
          (mode.getD r.settings.mode ∈ [Mode.fast, .hybrid] →
            ∃ paths, (disk s).discover root r.extensions r.settings.maxFileBytes = .ok paths ∧
              ∀ path ∈ paths, ∀ content, r.storage.read path s = .ok content →
                ∀ f ∈ Rule.scanText content path, f ∈ report.findings))) ∧
    ∀ dryRun,
      (∀ f, (r.fix root dryRun s).result = .error f ↔
        ∃ e ∈ (r.fix root dryRun s).events, e.Stops f) ∧
      (Harmless (r.fix root dryRun s).events → ∃ o, (r.fix root dryRun s).result = .ok o) ∧
      Explained (r.fix root dryRun s).events := by
  obtain ⟨-, -, -, hbytes, hdelay⟩ := ReviewSettings.bounds_of_ofFields hsettings
  refine ⟨fun mode timestamp => ?_, fun dryRun => ?_⟩
  · have hstops := stoppedByEvents_review hstorage hdelay hbytes hroot mode timestamp
    refine ⟨hstops, fun hharmless => ?_⟩
    obtain ⟨report, hreport⟩ := exists_result_of_harmless hstops hharmless
    refine ⟨report, hreport, fun hmode => ⟨_, Disk.discover_of_isDir hroot (by omega), ?_⟩⟩
    have hrules : (mode.getD r.settings.mode).usesRules = true := by
      simp only [List.mem_cons, List.not_mem_nil, or_false] at hmode
      rcases hmode with h | h <;> rw [h] <;> rfl
    intro path hpath content hread f hf
    exact mem_findings_of_review ((yields_discover hstorage hroot hbytes).result_eq rfl)
      (fun _ hpath => readsSafely_of_mem_discoverBelow hstorage hpath) hreport hrules hpath hread hf
  · obtain ⟨hstops, hexplained⟩ := stoppedByEvents_fix hstorage hdelay hbytes hroot dryRun
    exact ⟨hstops, exists_result_of_harmless hstops, hexplained⟩

omit [Text.Spare] in
/-- One file, and a service that answers every prompt with an empty object. -/
theorem review_and_fix_stopped_iff_one_file :
    letI : Text.Spare := ⟨0⟩
    let d := (Disk.empty "/w").put "/w/a.js" "eval(x)\n".toUTF8
    let r : Reviewer Disk := ⟨⟨.hybrid, 20, 50000, 1000000, ReviewSettings.defaultDelay, false⟩,
      some (.always "\x7b\x7d"), .ofDisk id fun d _ => d, Disk.defaultExtensions⟩
    (∀ mode timestamp,
      (∀ f, (r.review "/w" mode timestamp d).result = .error f ↔
        ∃ e ∈ (r.review "/w" mode timestamp d).events, e.Stops f) ∧
      (Harmless (r.review "/w" mode timestamp d).events →
        ∃ report, (r.review "/w" mode timestamp d).result = .ok report ∧
          (mode.getD .hybrid ∈ [Mode.fast, .hybrid] →
            ∃ paths, d.discover "/w" Disk.defaultExtensions 1000000 = .ok paths ∧
              ∀ path ∈ paths, ∀ content, d.read path = .ok content →
                ∀ f ∈ Rule.scanText content path, f ∈ report.findings))) ∧
    ∀ dryRun,
      (∀ f, (r.fix "/w" dryRun d).result = .error f ↔
        ∃ e ∈ (r.fix "/w" dryRun d).events, e.Stops f) ∧
      (Harmless (r.fix "/w" dryRun d).events → ∃ o, (r.fix "/w" dryRun d).result = .ok o) ∧
      Explained (r.fix "/w" dryRun d).events := by
  let : Text.Spare := ⟨0⟩
  intro d r
  have hsettings : ReviewSettings.ofFields [] = .valid r.settings := rfl
  have hstorage : r.storage.MayRefuse id := .ofDisk_id
  have hroot : (id d).isDir "/w" = true := by decide +kernel
  exact review_and_fix_stopped_iff hstorage hsettings hroot

/-! ## A reply that stops a review

The reply is the same for every prompt, so that the one about the architecture is among them. -/

/-- An answer about the architecture that cannot be read ends a review, even one that asks for
nothing else. -/
theorem result_review_of_unreadable {reply : String} {f : Fault}
    (hlisted : (r.discover root s).result = .ok paths)
    (hpaths : ∀ path ∈ paths, r.storage.ReadsSafely path) (hfiles : paths ≠ [])
    (hr : r.service = some service) (hreply : ∀ prompt, (service.reply prompt s).result = .ok reply)
    (hread : (Reply.readArchitecture reply).result = .error f)
    (hwanted : r.settings.reviewsArchitecture = true) {mode : Option Mode}
    (hmode : (mode.getD r.settings.mode).usesService = false) (timestamp : String) :
    (r.review root mode timestamp s).result = .error f := by
  have hfirst : ∀ path ∈ paths.take maxArchitectureFiles, r.storage.ReadsSafely path :=
    fun path hpath => hpaths path (List.mem_of_mem_take hpath)
  have hasked (files : List (String × String)) :
      (reviewArchitecture service files none s).result = .error f := by
    have hanswer : ((ask service (Prompt.architecture files none)).attempt s).result
        = .ok (.ok reply) := congrArg Except.ok (hreply _)
    rw [reviewArchitecture, bind_apply_ok hanswer]
    exact hread
  have hpass : (r.architecturePass service paths s).result = .error f := by
    refine ((r.silent_readable _).bind_apply (result_readable hfirst s)).2.1.trans ?_
    rw [bind_apply_error (hasked _)]
  have hoverview : (r.overview paths s).result = .error f := by
    have hboth : (r.settings.reviewsArchitecture && !paths.isEmpty) = true := by
      simp [hwanted, hfiles]
    rw [overview, hr]
    dsimp only
    rw [if_pos hboth, bind_apply_error hpass]
  rw [(review_after_rules hlisted hpaths mode timestamp).2, afterRules_of_alone hmode,
    bind_apply_error hoverview]

omit [Text.Spare] in
/-- A quality of 309 digits ends a review that applies the rules alone: what they find is lost. -/
theorem review_stopped_by_score :
    letI : Text.Spare := ⟨0⟩
    let reply := String.ofList
      ("\x7b\"overallQuality\": ".toList ++ List.replicate 309 '9' ++ ['\x7d'])
    let d := (Disk.empty "/w").put "/w/a.js" "eval(x)\n".toUTF8
    let r : Reviewer Disk := ⟨⟨.fast, 20, 50000, 1000000, ReviewSettings.defaultDelay, true⟩,
      some (.always reply), .ofDisk id fun d _ => d, Disk.defaultExtensions⟩
    d.isDir "/w" = true ∧ d.discover "/w" Disk.defaultExtensions 1000000 = .ok ["/w/a.js"] ∧
      (r.review "/w" none "2024-01-01" d).result = .error .numberTooLarge := by
  let : Text.Spare := ⟨0⟩
  intro reply d r
  have hroot : d.isDir "/w" = true := by decide +kernel
  have hfiles : d.discoverBelow "/w" Disk.defaultExtensions 1000000 = ["/w/a.js"] := by
    decide +kernel
  have hspan : Reply.Span.extract? reply.toList = some reply.toList := by
    rw [String.toList_ofList]
    decide +kernel
  have hread : (Reply.qualityOf ((Reply.fieldsOf? (Json.readChars reply.toList).toOption).bind
      (·.get? "overallQuality"))).toOption.isNone = true := by
    rw [String.toList_ofList]
    decide +kernel
  have hscore : Reply.HasHugeScore reply := by
    obtain ⟨f, hf⟩ := Reply.exists_eq_error_of_isNone hread
    obtain ⟨-, n, hn, hover⟩ := Reply.qualityOf_eq_error.1 hf
    obtain ⟨fields, hfields, hn⟩ := Option.bind_eq_some_iff.1 hn
    refine ⟨fields, n, ?_, hn, hover⟩
    rw [← hfields]
    cases hchars : Json.readChars reply.toList with
    | error stop =>
      rw [hchars] at hfields
      cases hfields
    | ok v =>
      have hvalue : Json.read reply = .ok v := by rw [Json.read, hchars]
      simp only [Reply.result_load, hspan, Reply.result_readOrRepair, String.ofList_toList, hvalue]
      rfl
  have hunreadable := Reply.result_readArchitecture_eq_error.2 (.inr ⟨rfl, hscore⟩)
  have hdisk : d.discover "/w" Disk.defaultExtensions 1000000 = .ok ["/w/a.js"] := by
    rw [Disk.discover_of_isDir hroot (by decide), hfiles]
  refine ⟨hroot, hdisk, ?_⟩
  have hstorage : r.storage.MayRefuse id := .ofDisk_id
  have hlisted : (r.discover "/w" d).result = .ok ["/w/a.js"] := hdisk
  refine result_review_of_unreadable hlisted (fun path hpath => ?_) (List.cons_ne_nil _ _) rfl
    (fun _ => rfl) hunreadable rfl rfl "2024-01-01"
  exact hstorage.readsSafely (Disk.hasNul_of_discover hdisk hpath)

end Reviewer
end CodeReview
