import CodeReview.Proofs.Finding.Distinct
import CodeReview.Proofs.Review.Hearings
import CodeReview.Proofs.Review.Survival

/-!
# What a review is made of

There are three modes: rules alone, the service alone, and both.  A user expects the third to be
the first two put together, and it nearly is: a hybrid review is a fast one and a thorough one
merged, with the same prompts as the thorough one (`review_hybrid`).

It is not clear from the code, where the modes are branches of one function.  What helps is to look
at the state.  Up to the first request a review is silent, so its rules see the files as they were
at its start, and what follows begins in the state in which the review began
(`review_after_rules`).  What follows is the same in every mode that asks the service: it is heard
(`hear`), and what it says is merged into what the rules found.

The service may be any, one that changes the files included; it only starts each review in the same
state.  Whether there is a report depends on the replies, so it is assumed that none of them stops
the review (`Harmless`).
-/

set_option autoImplicit false

namespace CodeReview

open CodeReview.Run

namespace Reviewer

variable [Text.Spare] {σ : Type} {disk : σ → Disk} {r : Reviewer σ} {path : String}
  {paths : List String} {root : String} {s : σ} {mode : Mode}

/-! ## What the service adds

`hear` is asking the service or, where there is none, logging that there is none.  In a thorough
review the rules find nothing, and merging into nothing leaves what was heard, sorted and with
repeats taken out; so it matters that a source can be merged by itself first
(`Finding.merge_merge_nil`). -/

/-- What the service says of files, or that there is none. -/
def hear (r : Reviewer σ) (paths : List String) : Run σ Gathered :=
  match r.service with
  | none => do
    Run.log .warning "AI analysis requested but no LLM is configured, skipping AI analysis"
    pure .none
  | some service => r.servicePass service paths

/-- **Every mode that asks the service** hears the same and merges it. -/
theorem addByService_eq (hmode : mode.usesService = true) {byRules : List Finding}
    (hsorted : Finding.sort byRules = byRules) :
    r.addByService mode paths byRules = r.hear paths >>= fun g =>
      pure ⟨Finding.merge byRules g.findings, g.insights⟩ := by
  rw [addByService, if_pos hmode, hear]
  cases r.service with
  | none =>
    have halone : Finding.merge byRules Gathered.none.findings = byRules :=
      (Finding.merge_nil byRules).trans hsorted
    dsimp only
    rw [bind_assoc]
    refine congrArg _ (funext fun _ => ?_)
    show _ = pure (Gathered.mk (Finding.merge byRules Gathered.none.findings) [])
    rw [halone]
  | some service => rfl

/-- A mode that asks the service reports what it heard, merged into what the rules found. -/
theorem findings_of_hear (hmode : mode.usesService = true) {timestamp : String}
    {byRules : List Finding} (hsorted : Finding.sort byRules = byRules) {report : Report}
    (h : (r.afterRules mode timestamp paths byRules s).result = .ok report) :
    ∃ g, (r.hear paths s).result = .ok g ∧
      report.findings = Finding.merge byRules g.findings := by
  obtain ⟨found, hfound, hreport⟩ := findings_of_afterRules h
  rw [addByService_eq hmode hsorted] at hfound
  obtain ⟨g, hg, ⟨⟩⟩ := exists_of_bind_ok hfound
  exact ⟨g, hg, hreport⟩

/-- A mode that does not ask the service reports what the rules found. -/
theorem findings_of_alone (hmode : mode.usesService = false) {timestamp : String}
    {byRules : List Finding} {report : Report}
    (h : (r.afterRules mode timestamp paths byRules s).result = .ok report) :
    report.findings = byRules := by
  rw [afterRules_of_alone hmode] at h
  obtain ⟨architecture, -, ⟨⟩⟩ := exists_of_bind_ok h
  rfl

/-- What is said does not depend on what becomes of it. -/
theorem prompts_afterRules (hmode : mode.usesService = true) (timestamp : String)
    {byRules : List Finding} (hsorted : Finding.sort byRules = byRules) :
    (r.afterRules mode timestamp paths byRules s).prompts
      = ((r.hear paths >>= fun _ => r.overview paths) s).prompts := by
  rw [afterRules, addByService_eq hmode hsorted, bind_assoc]
  refine prompts_bind_congr fun g s => ?_
  show ((r.overview paths >>= fun architecture => pure _) s).prompts = _
  exact prompts_bind_silent fun _ => silent_pure _

/-! ## The modes

The two reviews that ask the service start it in the same state with the same files, so they hear
the same. -/

/-- **The modes compose.**  A service starts a review in each mode in the same state, and none of
the three meets a reply that stops it.  Then each has a report.  What the hybrid one finds is what
the fast one finds with the findings of the thorough one merged into it, so the former are still
there, in the same order; and the prompts of the hybrid review are those of the thorough one. -/
theorem review_hybrid (hstorage : r.storage.MayRefuse disk) {fields : Json.Fields}
    (hsettings : ReviewSettings.ofFields fields = .valid r.settings)
    (hpaths : (disk s).discover root r.extensions r.settings.maxFileBytes = .ok paths)
    (timestamp : Mode → String)
    (hharmless : ∀ mode ∈ [Mode.fast, .thorough, .hybrid],
      Harmless (r.review root (some mode) (timestamp mode) s).events) :
    ∃ fast thorough hybrid,
      (r.review root (some .fast) (timestamp .fast) s).result = .ok fast ∧
      (r.review root (some .thorough) (timestamp .thorough) s).result = .ok thorough ∧
      (r.review root (some .hybrid) (timestamp .hybrid) s).result = .ok hybrid ∧
      hybrid.findings = Finding.merge fast.findings thorough.findings ∧
      fast.findings.Sublist hybrid.findings ∧
      (r.review root (some .hybrid) (timestamp .hybrid) s).prompts
        = (r.review root (some .thorough) (timestamp .thorough) s).prompts := by
  obtain ⟨-, -, -, -, hdelay⟩ := ReviewSettings.bounds_of_ofFields hsettings
  have hlisted : (r.discover root s).result = .ok paths :=
    (hstorage.discover _ _ _ s).trans hpaths
  have hsafely : ∀ path ∈ paths, r.storage.ReadsSafely path :=
    fun path hpath => hstorage.readsSafely (Disk.hasNul_of_discover hpaths hpath)
  have hreports (mode : Mode) (hmode : mode ∈ [Mode.fast, .thorough, .hybrid]) :
      ∃ report, (r.review root (some mode) (timestamp mode) s).result = .ok report :=
    exists_result_of_harmless (stoppedByEvents_review_of_discover hdelay hlisted hsafely _ _)
      (hharmless mode hmode)
  obtain ⟨fast, hfast⟩ := hreports .fast (by simp)
  obtain ⟨thorough, hthorough⟩ := hreports .thorough (by simp)
  obtain ⟨hybrid, hhybrid⟩ := hreports .hybrid (by simp)
  refine ⟨fast, thorough, hybrid, hfast, hthorough, hhybrid, ?_⟩
  have hrules (mode : Mode) := review_after_rules hlisted hsafely (some mode) (timestamp mode)
  rw [(hrules .fast).2] at hfast
  rw [(hrules .thorough).2] at hthorough
  rw [(hrules .hybrid).2] at hhybrid
  rw [(hrules .thorough).1, (hrules .hybrid).1]
  have hfound : r.foundInMode .hybrid s paths = fast.findings :=
    (findings_of_alone rfl hfast).symm
  have hnone : r.foundInMode .thorough s paths = [] := Finding.sort_nil
  obtain ⟨g, hg, hsaid⟩ := findings_of_hear rfl (sort_foundInMode _ _ _) hthorough
  obtain ⟨g', hg', hmerged⟩ := findings_of_hear rfl (sort_foundInMode _ _ _) hhybrid
  obtain rfl : g = g' := Except.ok.inj (hg.symm.trans hg')
  rw [Option.getD_some, hnone] at hsaid
  rw [Option.getD_some, hfound] at hmerged
  refine ⟨?_, ?_, ?_⟩
  · rw [hmerged, hsaid, Finding.merge_merge_nil]
  · rw [hmerged]
    refine Finding.sublist_merge ?_ _
    rw [← hfound]
    exact Finding.sort_pairwise _
  · dsimp only [Option.getD_some]
    rw [prompts_afterRules rfl _ (sort_foundInMode _ _ _),
      prompts_afterRules rfl _ (sort_foundInMode _ _ _)]

omit [Text.Spare] in
/-- Two files, and a service that says the same thing twice of each, first mildly and then gravely. -/
theorem review_hybrid_two_files :
    letI : Text.Spare := ⟨0⟩
    let reply := "\x7b\"issues\": [\x7b\"severity\": \"low\", \"message\": \"m\"\x7d, "
      ++ "\x7b\"severity\": \"high\", \"message\": \"m\"\x7d]\x7d"
    let d := Disk.twoFiles
    let r : Reviewer Disk := ⟨⟨.hybrid, 20, 50000, 1000000, ReviewSettings.defaultDelay, true⟩,
      some (.always reply), .ofDisk id fun d _ => d, Disk.defaultExtensions⟩
    ∃ fast thorough hybrid,
      (r.review "/w" (some .fast) "2024-01-01" d).result = .ok fast ∧
      (r.review "/w" (some .thorough) "2024-01-01" d).result = .ok thorough ∧
      (r.review "/w" (some .hybrid) "2024-01-01" d).result = .ok hybrid ∧
      hybrid.findings = Finding.merge fast.findings thorough.findings ∧
      fast.findings.Sublist hybrid.findings ∧
      (r.review "/w" (some .hybrid) "2024-01-01" d).prompts
        = (r.review "/w" (some .thorough) "2024-01-01" d).prompts := by
  let : Text.Spare := ⟨0⟩
  intro reply d r
  obtain ⟨hservice, hanswer⟩ :=
    readable_always (id : Disk → Disk) reply (by decide +kernel) (by decide +kernel)
  have hsettings : ReviewSettings.ofFields [("architecture_review", .bool true)]
      = .valid r.settings := rfl
  have hstorage : r.storage.MayRefuse id := .ofDisk_id
  have hsteady : r.storage.ReadsAlike id := Storage.readsAlike_ofDisk_id
  have hharmless (mode : Mode) (_ : mode ∈ [Mode.fast, .thorough, .hybrid]) :
      Harmless (r.review "/w" (some mode) "2024-01-01" d).events :=
    harmless_review hstorage hsteady hsettings hservice hanswer Disk.isDir_twoFiles (some mode)
      "2024-01-01"
  exact review_hybrid hstorage hsettings Disk.discover_twoFiles (fun _ => "2024-01-01") hharmless

end Reviewer
end CodeReview
