import CodeReview.Proofs.Finding.Merging
import CodeReview.Proofs.Review.Hearings

/-!
# What a review reads

Each pass of a review reads its files anew, so what it makes of them depends on when it reads them.
But reading asks nothing and leaves the state alone (`Silent`), and so do the rules.  Hence a pass
that reads can be told without running it: it is a function of the files in the state in which it
starts.

* `foundAt` — what the rules find in a file, and `foundInMode` what they find in files in a mode;
* `shownAt` — the text of a file that a service may be asked about;
* `textsAt` — the texts of the files that a service is shown together.

A file that cannot be read adds nothing to any of them.  Why it cannot be read makes no difference,
as long as a run survives it (`Storage.ReadsSafely`).

A review starts with such passes: it lists the files and applies the rules, and nothing has changed
when the service is asked for the first time (`review_after_rules`).
-/

set_option autoImplicit false

namespace CodeReview

open CodeReview.Run

namespace Reviewer

variable {σ τ : Type} {r : Reviewer σ} {r' : Reviewer τ} {s : σ} {t : τ} {path root : String}
  {paths : List String} {mode : Mode}

/-- **A file is read,** or what is wrong with it is told. -/
theorem result_readText (hpath : r.storage.ReadsSafely path) (s : σ) :
    (r.readText path s).result
      = .ok ((r.storage.read path s).mapError Disk.Fault.message) := by
  rw [readText]
  cases hread : r.storage.read path s with
  | error f =>
    rw [surviving_readText_of_error hread (hpath s f hread)]
    rfl
  | ok content =>
    rw [surviving_readText_of_ok hread]
    rfl

/-! ## The rules

The rules see one file at a time.  In the report their findings are in report order, whatever the
order of the files. -/

/-- What the rules find in a file as it is in this state; nothing if it cannot be read. -/
def foundAt (r : Reviewer σ) (s : σ) (path : String) : List Finding :=
  match r.storage.read path s with
  | .ok content => Rule.scanText content path
  | .error _ => []

theorem result_ruleFindings (hpath : r.storage.ReadsSafely path) (s : σ) :
    (r.ruleFindings path s).result = .ok (r.foundAt s path) := by
  refine ((r.silent_readText path).bind_apply (result_readText hpath s)).2.1.trans ?_
  rw [foundAt]
  cases r.storage.read path s with
  | error f => rfl
  | ok content =>
    dsimp only [Except.mapError]
    split <;> rfl

theorem result_allRuleFindings (hpaths : ∀ path ∈ paths, r.storage.ReadsSafely path) (s : σ) :
    (r.allRuleFindings paths s).result = .ok (paths.flatMap (r.foundAt s)) := by
  induction paths with
  | nil => rfl
  | cons path paths ih =>
    rw [List.forall_mem_cons] at hpaths
    refine ((r.silent_ruleFindings path).bind_apply (result_ruleFindings hpaths.1 s)).2.1.trans ?_
    exact ((r.silent_allRuleFindings paths).bind_apply (ih hpaths.2)).2.1

/-- What the rules find in these files in this mode, in report order. -/
def foundInMode (r : Reviewer σ) (mode : Mode) (s : σ) (paths : List String) : List Finding :=
  Finding.sort (if mode.usesRules then paths.flatMap (r.foundAt s) else [])

theorem sort_foundInMode (mode : Mode) (s : σ) (paths : List String) :
    Finding.sort (r.foundInMode mode s paths) = r.foundInMode mode s paths := Finding.sort_sort _

/-- **The rules see the files as they are.** -/
theorem result_findByRules (hpaths : ∀ path ∈ paths, r.storage.ReadsSafely path) (mode : Mode)
    (s : σ) : (r.findByRules mode paths s).result = .ok (r.foundInMode mode s paths) := by
  rw [findByRules, foundInMode]
  split
  · exact ((r.silent_allRuleFindings paths).bind_apply (result_allRuleFindings hpaths s)).2.1
  · rw [Finding.sort_nil]
    rfl

/-- They find the same wherever the same is read. -/
theorem foundInMode_congr (h : ∀ path, r'.storage.read path t = r.storage.read path s)
    (mode : Mode) (paths : List String) :
    r'.foundInMode mode t paths = r.foundInMode mode s paths := by
  have hfound : r'.foundAt t = r.foundAt s := by
    funext path
    rw [foundAt, foundAt, h]
  rw [foundInMode, foundInMode, hfound]

/-! ## Texts for the service

A service is asked about the files one by one, and then perhaps about the first of them together.
Only in the first case does the length of a text count. -/

/-- The text of a file that a service may be asked about in this state: one that can be read and is
not too long. -/
def shownAt (r : Reviewer σ) (s : σ) (path : String) : Option String :=
  (r.storage.read path s).toOption.filter fun content => content.length ≤ r.settings.maxFileChars

theorem result_suitableText (hpath : r.storage.ReadsSafely path) (s : σ) :
    (r.suitableText path s).result = .ok (r.shownAt s path) := by
  refine ((r.silent_readText path).bind_apply (result_readText hpath s)).2.1.trans ?_
  rw [shownAt]
  cases r.storage.read path s with
  | error f => rfl
  | ok content =>
    dsimp only [Except.mapError, Except.toOption]
    rw [Option.filter_some]
    split
    · rename_i hlong
      rw [if_neg (by simpa using hlong)]
      rfl
    · rename_i hshort
      rw [if_pos (by simpa using hshort)]
      rfl

/-- The files with their texts in this state; those that cannot be read are left out. -/
def textsAt (r : Reviewer σ) (s : σ) (paths : List String) : List (String × String) :=
  paths.filterMap fun path => (r.storage.read path s).toOption.map (path, ·)

theorem result_readable (hpaths : ∀ path ∈ paths, r.storage.ReadsSafely path) (s : σ) :
    (r.readable paths s).result = .ok (r.textsAt s paths) := by
  induction paths with
  | nil => rfl
  | cons path paths ih =>
    rw [List.forall_mem_cons] at hpaths
    have hrest := ih hpaths.2
    refine ((r.silent_readText path).bind_apply (result_readText hpaths.1 s)).2.1.trans ?_
    rw [textsAt, List.filterMap_cons]
    cases r.storage.read path s with
    | error f => exact ((silent_log _ _).bind_apply rfl).2.1.trans hrest
    | ok content => exact ((r.silent_readable paths).bind_apply hrest).2.1

/-! ## Behind the rules

A review is cut in two where the rules have been applied.  The first part is silent; whatever is
proved of a review starts from its second part, in the state in which the review began. -/

/-- A review until the rules have been applied: the files, and what was found in them. -/
def applyRules (r : Reviewer σ) (root : String) (mode : Mode) :
    Run σ (List String × List Finding) := do
  Run.log .info s!"Starting {mode.word} code review of {root}"
  let paths ← r.discover root
  let count := paths.length
  Run.log .info s!"Found {count} file(s) to analyze"
  let byRules ← r.findByRules mode paths
  pure (paths, byRules)

theorem silent_applyRules (r : Reviewer σ) (root : String) (mode : Mode) :
    Silent (r.applyRules root mode) := by
  refine (silent_log _ _).bind fun _ => (silent_discover _ _ _ _).bind fun paths => ?_
  refine (silent_log _ _).bind fun _ => (r.silent_findByRules mode paths).bind fun _ => ?_
  exact silent_pure _

theorem result_applyRules (hlisted : (r.discover root s).result = .ok paths)
    (hpaths : ∀ path ∈ paths, r.storage.ReadsSafely path) (mode : Mode) :
    (r.applyRules root mode s).result = .ok (paths, r.foundInMode mode s paths) := by
  refine ((silent_log _ _).bind_apply rfl).2.1.trans ?_
  refine ((silent_discover _ _ _ _).bind_apply hlisted).2.1.trans ?_
  refine ((silent_log _ _).bind_apply rfl).2.1.trans ?_
  exact ((r.silent_findByRules mode paths).bind_apply (result_findByRules hpaths mode s)).2.1

variable [Text.Spare]

/-- A review once the rules have been applied. -/
def afterRules (r : Reviewer σ) (mode : Mode) (timestamp : String) (paths : List String)
    (byRules : List Finding) : Run σ Report := do
  let found ← r.addByService mode paths byRules
  let architecture ← r.overview paths
  pure (.build found.findings paths.length timestamp (remarks architecture found.insights))

theorem review_eq (r : Reviewer σ) (root : String) (mode : Option Mode) (timestamp : String) :
    r.review root mode timestamp = r.applyRules root (mode.getD r.settings.mode) >>= fun found =>
      r.afterRules (mode.getD r.settings.mode) timestamp found.1 found.2 := by
  simp only [review, findIn, applyRules, bind_assoc]
  rfl

/-- **The rules come first,** and what follows starts in the same state. -/
theorem review_after_rules (hlisted : (r.discover root s).result = .ok paths)
    (hpaths : ∀ path ∈ paths, r.storage.ReadsSafely path) (mode : Option Mode)
    (timestamp : String) :
    let mode' := mode.getD r.settings.mode
    let behind := r.afterRules mode' timestamp paths (r.foundInMode mode' s paths) s
    (r.review root mode timestamp s).prompts = behind.prompts ∧
      (r.review root mode timestamp s).result = behind.result := by
  intro mode' behind
  rw [review_eq]
  obtain ⟨hprompts, hresult, -⟩ := (r.silent_applyRules root mode').bind_apply
    (k := fun found => r.afterRules mode' timestamp found.1 found.2)
    (result_applyRules hlisted hpaths mode')
  exact ⟨hprompts, hresult⟩

/-- What is reported is what was found. -/
theorem findings_of_afterRules {timestamp : String} {byRules : List Finding} {report : Report}
    (h : (r.afterRules mode timestamp paths byRules s).result = .ok report) :
    ∃ g, (r.addByService mode paths byRules s).result = .ok g ∧ report.findings = g.findings := by
  obtain ⟨g, hg, h⟩ := exists_of_bind_ok h
  obtain ⟨architecture, -, ⟨⟩⟩ := exists_of_bind_ok h
  exact ⟨g, hg, rfl⟩

/-- Where the service is not asked about files one by one, only remarks are left to it. -/
theorem afterRules_of_alone (hmode : mode.usesService = false) (timestamp : String)
    (byRules : List Finding) :
    r.afterRules mode timestamp paths byRules = r.overview paths >>= fun architecture =>
      pure (.build byRules paths.length timestamp (remarks architecture [])) := by
  rw [afterRules, addByService, if_neg (by simp [hmode])]
  rfl

end Reviewer
end CodeReview
