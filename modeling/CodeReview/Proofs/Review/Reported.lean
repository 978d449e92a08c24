import CodeReview.Proofs.Review.Composition
import CodeReview.Proofs.Review.Isolation
import CodeReview.Proofs.Rule.Scanning

/-!
# What is reported

Whatever is reviewed, and in whatever mode, the findings that come out have different keys and are
in report order.  This has three reasons.  The rules find nothing twice in a text.  Different files
are found in a tree under different paths, and every finding of the rules has the path of its file,
so those of different files differ.  And what a service says is only ever merged into that, which
leaves a list orderly whatever is merged in (`Finding.Orderly.merge`).

So nothing has to be known of the service, which may say the same thing twice, out of order, and
about another file (`orderly_reports`).  A review of a text at hand is the same with one file.
-/

set_option autoImplicit false

namespace CodeReview

open CodeReview.Run

namespace Reviewer

variable {σ : Type} {disk : σ → Disk} {r : Reviewer σ} {path : String} {paths : List String}
  {s : σ} {mode : Mode}

/-! ## What the rules find

The files are different as they are listed once each. -/

theorem orderly_scanText (text path : String) : Finding.Orderly (Rule.scanText text path) where
  distinct := Rule.nodup_keys_scanText text path
  ordered := Finding.sort_pairwise _

theorem nodup_keys_foundAt (r : Reviewer σ) (s : σ) (path : String) :
    ((r.foundAt s path).map Finding.key).Nodup := by
  rw [foundAt]
  split
  · exact Rule.nodup_keys_scanText _ path
  · exact List.nodup_nil

/-- **In different files** the rules find different things. -/
theorem orderly_foundInMode (r : Reviewer σ) (mode : Mode) (s : σ) (hpaths : paths.Nodup) :
    Finding.Orderly (r.foundInMode mode s paths) := by
  refine Finding.orderly_sort ?_
  split
  · have hnames : (paths.map fun path => path).Nodup := by rwa [List.map_id']
    refine Finding.nodup_keys_flatMap (fun k => k.1) hnames
      (fun path _ => r.nodup_keys_foundAt s path) fun path _ f hf => ?_
    exact file_of_mem_foundAt hf
  · exact List.nodup_nil

variable [Text.Spare]

/-! ## What comes out

Whether there is a report is another question, answered by the events: without one that stops the
review there is. -/

/-- The findings of a report are those of the rules, if nothing is asked, or what the service said
merged into them. -/
theorem orderly_afterRules {timestamp : String} {byRules : List Finding} {report : Report}
    (hrules : Finding.Orderly byRules)
    (h : (r.afterRules mode timestamp paths byRules s).result = .ok report) :
    Finding.Orderly report.findings := by
  cases hmode : mode.usesService with
  | false =>
    rw [findings_of_alone hmode h]
    exact hrules
  | true =>
    have hsorted : Finding.sort byRules = byRules := Finding.sort_of_pairwise hrules.ordered
    obtain ⟨g, -, hmerged⟩ := findings_of_hear hmode hsorted h
    rw [hmerged]
    exact hrules.merge g.findings

/-- A review of a text at hand has what the rules find in it, or asks about it and merges. -/
theorem exists_reviewText_eq (r : Reviewer σ) (text path : String) (mode : Option Mode) :
    ∃ byRules, Finding.Orderly byRules ∧
      (r.reviewText text path mode = pure byRules ∨ ∃ service, r.reviewText text path mode
        = Paging.standard.analyze service ⟨text, path, none, none⟩ >>= fun a =>
          pure (Finding.merge byRules a.findings)) := by
  refine ⟨if (mode.getD r.settings.mode).usesRules then Rule.scanText text path else [], ?_, ?_⟩
  · split
    · exact orderly_scanText text path
    · exact Finding.orderly_nil
  · rw [reviewText]
    split
    · exact .inl rfl
    · rename_i service _
      split
      · exact .inl rfl
      · exact .inr ⟨service, rfl⟩

/-- It is stopped by events alone. -/
theorem stoppedByEvents_reviewText (r : Reviewer σ) (text path : String) (mode : Option Mode) :
    StoppedByEvents (r.reviewText text path mode) := by
  obtain ⟨byRules, -, halone | ⟨service, hasked⟩⟩ := r.exists_reviewText_eq text path mode
  · rw [halone]
    exact stoppedByEvents_pure byRules
  · rw [hasked]
    exact Paging.stoppedByEvents_analyze.bind fun a => stoppedByEvents_pure _

theorem orderly_reviewText {text path : String} {mode : Option Mode} {fs : List Finding}
    (h : (r.reviewText text path mode s).result = .ok fs) : Finding.Orderly fs := by
  obtain ⟨byRules, hrules, halone | ⟨service, hasked⟩⟩ := r.exists_reviewText_eq text path mode
  · rw [halone] at h
    cases h
    exact hrules
  · rw [hasked] at h
    obtain ⟨a, -, ⟨⟩⟩ := exists_of_bind_ok h
    exact hrules.merge a.findings

/-- **Reports repeat nothing and are in order.**  Let a review, of a tree or of a text, meet no
reply that stops it.  Then it has findings, whatever the mode, the service and the files are; no two
of them have the same file, line and wording, and they are ordered by severity and line. -/
theorem orderly_reports (hstorage : r.storage.MayRefuse disk) {fields : Json.Fields}
    (hsettings : ReviewSettings.ofFields fields = .valid r.settings) (mode : Option Mode) (s : σ) :
    (∀ root paths timestamp,
      (disk s).discover root r.extensions r.settings.maxFileBytes = .ok paths →
      Harmless (r.review root mode timestamp s).events →
        ∃ report, (r.review root mode timestamp s).result = .ok report ∧
          Finding.Orderly report.findings) ∧
    ∀ text path, Harmless (r.reviewText text path mode s).events →
      ∃ fs, (r.reviewText text path mode s).result = .ok fs ∧ Finding.Orderly fs := by
  obtain ⟨-, -, -, -, hdelay⟩ := ReviewSettings.bounds_of_ofFields hsettings
  constructor
  · intro root paths timestamp hpaths hharmless
    have hlisted : (r.discover root s).result = .ok paths :=
      (hstorage.discover _ _ _ s).trans hpaths
    have hsafely : ∀ path ∈ paths, r.storage.ReadsSafely path :=
      fun path hpath => hstorage.readsSafely (Disk.hasNul_of_discover hpaths hpath)
    obtain ⟨report, hreport⟩ := exists_result_of_harmless
      (stoppedByEvents_review_of_discover hdelay hlisted hsafely mode timestamp) hharmless
    refine ⟨report, hreport, ?_⟩
    have hnames : paths.Nodup := (Disk.pairwise_of_discover hpaths).imp String.ne_of_lt
    rw [(review_after_rules hlisted hsafely mode timestamp).2] at hreport
    exact orderly_afterRules (r.orderly_foundInMode _ s hnames) hreport
  · intro text path hharmless
    obtain ⟨fs, hfs⟩ := exists_result_of_harmless
      ((r.stoppedByEvents_reviewText text path mode).outcome s) hharmless
    exact ⟨fs, hfs, orderly_reviewText hfs⟩

omit [Text.Spare] in
/-- Two files, and a service that says the same thing twice of each. -/
theorem orderly_reports_two_files :
    letI : Text.Spare := ⟨0⟩
    let reply := "\x7b\"issues\": [\x7b\"severity\": \"low\", \"message\": \"m\"\x7d, "
      ++ "\x7b\"severity\": \"high\", \"message\": \"m\"\x7d]\x7d"
    let r : Reviewer Disk := ⟨⟨.hybrid, 20, 50000, 1000000, ReviewSettings.defaultDelay, true⟩,
      some (.always reply), .ofDisk id fun d _ => d, Disk.defaultExtensions⟩
    (∃ report, (r.review "/w" none "2024-01-01" Disk.twoFiles).result = .ok report ∧
      Finding.Orderly report.findings) ∧
    ∃ fs, (r.reviewText "eval(x)" "a.js" none Disk.twoFiles).result = .ok fs ∧
      Finding.Orderly fs := by
  let : Text.Spare := ⟨0⟩
  intro reply r
  obtain ⟨hservice, hanswer⟩ :=
    readable_always (id : Disk → Disk) reply (by decide +kernel) (by decide +kernel)
  have hsettings : ReviewSettings.ofFields [("architecture_review", .bool true)]
      = .valid r.settings := rfl
  have hstorage : r.storage.MayRefuse id := .ofDisk_id
  have hsteady : r.storage.ReadsAlike id := Storage.readsAlike_ofDisk_id
  obtain ⟨htree, htext⟩ := orderly_reports hstorage hsettings none Disk.twoFiles
  refine ⟨htree "/w" _ "2024-01-01" Disk.discover_twoFiles ?_, htext "eval(x)" "a.js" ?_⟩
  · exact harmless_review hstorage hsteady hsettings hservice hanswer Disk.isDir_twoFiles none
      "2024-01-01"
  · obtain ⟨say, hsay⟩ := exists_says (r := r) hservice hanswer
    have hmode : (none : Option Mode).getD r.settings.mode ∈ [Mode.fast, .thorough, .hybrid] := by
      decide
    exact harmless_of_result ((r.stoppedByEvents_reviewText "eval(x)" "a.js" none).outcome _)
      ((yields_reviewText hsay hmode "eval(x)" "a.js").result_eq rfl)

end Reviewer
end CodeReview
