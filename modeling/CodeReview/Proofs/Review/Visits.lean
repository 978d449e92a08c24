import CodeReview.Proofs.Session.Chunks
import CodeReview.Proofs.Session.Fixing
import CodeReview.Proofs.Session.Storing
import CodeReview.Review.Fix

/-!
# A visit to a file

When files are fixed, each of them is visited once.  A visit ends in one of five ways
(`Reviewer.Ends`):

* the file cannot be read;
* nothing in it has to be fixed;
* its text comes back as it was;
* its new text is refused;
* its new text is written.

Whatever is asked, is asked before that, and nothing but the new text is ever written
(`ends_visit`). The five are constructors, each with the outcome in full, so that what is known of
every end is a case analysis and the code of a visit is gone through once.

What is written is said in terms of the service: `Reviewer.batch?` is what it makes of the file at
a path, from a state on.  A visit is not stopped, if the findings can be read and no text is
offered that has no bytes (`OffersWritable`).
-/

set_option autoImplicit false

namespace CodeReview

open CodeReview.Run

variable [Text.Spare]

/-- No reply offers a text without bytes: one with a lone surrogate, as it is or escaped. -/
def OffersWritable (events : List Event) : Prop :=
  ∀ prompt reply o code, .answered prompt reply ∈ events → Reply.offerIn reply = .ok o →
    o.code = some code → Text.isWritable code = true

theorem OffersWritable.mono {events events' : List Event} (h : OffersWritable events')
    (hsub : events ⊆ events') : OffersWritable events :=
  fun prompt reply o code hmem => h prompt reply o code (hsub hmem)

/-- It can be seen reply by reply. -/
theorem offersWritable_of_all {events : List Event}
    (h : events.all (fun
      | .answered _ reply =>
        (Reply.offerIn reply).toOption.all fun o => o.code.all fun code => Text.isWritable code
      | _ => true) = true) : OffersWritable events := by
  intro prompt reply o code hmem hoffer hcode
  simpa [hoffer, hcode, Except.toOption] using List.all_eq_true.1 h _ hmem

namespace Reviewer

variable {σ : Type} {disk : σ → Disk} {r : Reviewer σ} {service : Service σ} {path content : String}
  {s s' : σ} {o : FixRun} {b : FixBatch}

/-- What the service makes of the file at a path, from a state on: nothing if the file cannot be
read, the analysis fails or there is nothing grave in it. -/
def batch? (r : Reviewer σ) (service : Service σ) (path : String) (s : σ) : Option FixBatch :=
  (r.storage.read path s).toOption.bind fun content =>
    let analysis := Paging.standard.analyze service ⟨content, path, none, none⟩ s
    analysis.result.toOption.bind fun a =>
      let grave := Finding.selectGrave a.findings
      if grave.isEmpty then none
      else (Fixing.applyFixes service Fixing.standardThreshold content path grave
        analysis.state).result.toOption

/-- The ways in which a visit ends, by the path and the state at its start and by what was counted
before. -/
inductive Ends (r : Reviewer σ) (service : Service σ) (disk : σ → Disk) (path : String) (s : σ)
    (o : FixRun) : Outcome σ FixRun → Prop where
  /-- the file cannot be read -/
  | unread {f : Disk.Fault} {events : List Event} (hread : r.storage.read path s = .error f)
      (hquiet : ∀ e ∈ events, e.isWrite = false) :
      Ends r service disk path s o ⟨events, s, .ok (o.fail 1)⟩
  /-- there is nothing to fix in it -/
  | clean {content : String} {events : List Event} {s' : σ}
      (hread : r.storage.read path s = .ok content) (hquiet : ∀ e ∈ events, e.isWrite = false)
      (hdisk : disk s' = disk s) : Ends r service disk path s o ⟨events, s', .ok o⟩
  /-- its text is what it was -/
  | kept {b : FixBatch} {events : List Event} {s' : σ} (hbatch : r.batch? service path s = some b)
      (hquiet : ∀ e ∈ events, e.isWrite = false) (hdisk : disk s' = disk s) :
      Ends r service disk path s o ⟨events, s', .ok ((o.found (b.fixed + b.failed)).add b)⟩
  /-- its new text is refused -/
  | refused {b : FixBatch} {asking : List Event} {f : Disk.Fault} {line : LogLine} {s' : σ}
      (hbatch : r.batch? service path s = some b) (hquiet : ∀ e ∈ asking, e.isWrite = false)
      (hdisk : disk s' = disk s) :
      Ends r service disk path s o ⟨asking ++ [.unwritten path f, .logged line], s',
        .ok ((o.found (b.fixed + b.failed)).fail (b.fixed + b.failed))⟩
  /-- its new text is written -/
  | written {b : FixBatch} {asking : List Event} {place : Disk.Place} {s' : σ}
      (hbatch : r.batch? service path s = some b) (hquiet : ∀ e ∈ asking, e.isWrite = false)
      (hplace : (disk s).fileOf? path = some place)
      (hdisk : disk s' = (disk s).putAt place b.text.toUTF8) :
      Ends r service disk path s o ⟨asking ++ [.wrote path b.text], s',
        .ok (((o.found (b.fixed + b.failed)).change path).add b)⟩

/-- What comes before the end of a visit does not matter, as long as nothing is written. -/
theorem Ends.after {out : Outcome σ FixRun} (h : Ends r service disk path s o out)
    {before : List Event} (hbefore : ∀ e ∈ before, e.isWrite = false) :
    Ends r service disk path s o ⟨before ++ out.events, out.state, out.result⟩ := by
  have hquiet : ∀ {events : List Event}, (∀ e ∈ events, e.isWrite = false) →
      ∀ e ∈ before ++ events, e.isWrite = false := fun hevents e he =>
    (List.mem_append.1 he).elim (hbefore e) (hevents e)
  cases h with
  | unread hread hevents => exact .unread hread (hquiet hevents)
  | clean hread hevents hdisk => exact .clean hread (hquiet hevents) hdisk
  | kept hbatch hevents hdisk => exact .kept hbatch (hquiet hevents) hdisk
  | refused hbatch hevents hdisk =>
    rw [← List.append_assoc]
    exact .refused hbatch (hquiet hevents) hdisk
  | written hbatch hevents hplace hdisk =>
    rw [← List.append_assoc]
    exact .written hbatch (hquiet hevents) hplace hdisk

/-- The end of a visit behind a run that only asks. -/
theorem Ends.bind {α : Type} {x : Run σ α} {k : α → Run σ FixRun} {a : α} {s₁ s₂ : σ}
    {dialogue : List Exchange} (hx : x.Converses service s₁ dialogue a s₂)
    (h : Ends r service disk path s o (k a s₂)) : Ends r service disk path s o ((x >>= k) s₁) := by
  rw [bind_apply_ok hx.result, hx.state]
  exact h.after hx.quiet

theorem Ends.log_bind {level : Level} {text : String} {x : Run σ FixRun} {s₁ : σ}
    (h : Ends r service disk path s o (x s₁)) :
    Ends r service disk path s o ((log level text >>= fun _ => x) s₁) :=
  Ends.bind (converses_log level text) h

/-! ## Step by step

From the last step to the first.  In front of an end may stand any run that only asks
(`Ends.bind`). -/

/-- What is written back, if anything is. -/
theorem ends_writeBack (hstorage : r.storage.MayRefuse disk) (hnul : Disk.hasNul path = false)
    (hread : r.storage.read path s = .ok content) (hbatch : r.batch? service path s = some b)
    (hdisk : disk s' = disk s) (hwritable : b.text ≠ content → Text.isWritable b.text = true) :
    Ends r service disk path s o
      (r.writeBack path content b (o.found (b.fixed + b.failed)) s') := by
  have hnil : ∀ e ∈ ([] : List Event), e.isWrite = false := fun _ he => absurd he List.not_mem_nil
  by_cases hsame : b.text = content
  · rw [writeBack, if_pos hsame]
    exact .kept hbatch hnil hdisk
  · rw [writeBack, if_neg hsame]
    obtain ⟨place, hplace⟩ := hstorage.exists_fileOf?_of_read hread
    rcases hstorage.write_cases hnul (hdisk ▸ hplace) (hwritable hsame) with
      ⟨s'', hwrite, hput⟩ | ⟨f, s'', hwrite, hf, hrefused⟩
    · rw [hdisk] at hput
      have hdone := surviving_writeText_of_ok hwrite
      rw [bind_apply_ok (congrArg Outcome.result hdone), hdone]
      show Ends r service disk path s o ⟨[] ++ [.wrote path b.text], s'', .ok _⟩
      exact .written hbatch hnil hplace hput
    · have hdone := surviving_writeText_of_error hwrite hf
      rw [bind_apply_ok (congrArg Outcome.result hdone), hdone]
      show Ends r service disk path s o ⟨[] ++ [.unwritten path f, .logged _], s'', .ok _⟩
      exact .refused hbatch hnil (hrefused.trans hdisk)

/-- A file that was read. -/
theorem ends_analyzeAndFix (hstorage : r.storage.MayRefuse disk)
    (hservice : ∀ prompt s, disk (service.reply prompt s).state = disk s)
    (hnul : Disk.hasNul path = false) (hread : r.storage.read path s = .ok content)
    (hlegible : Legible (r.analyzeAndFix service false path content o s).events)
    (hwritable : OffersWritable (r.analyzeAndFix service false path content o s).events) :
    Ends r service disk path s o (r.analyzeAndFix service false path content o s) := by
  obtain ⟨dialogue, p, s₁, hanalysis, -⟩ := Paging.exists_converses_analyze
    (hlegible.mono events_subset_bind_left)
  have hdisk₁ : disk s₁ = disk s := hanalysis.answers.preserves hservice
  have hoffers := hwritable.mono (events_subset_bind_right hanalysis.result)
  rw [hanalysis.state] at hoffers
  refine Ends.bind hanalysis ?_
  by_cases hgrave : (Finding.selectGrave p.result.findings).isEmpty = true
  · rw [if_pos hgrave]
    exact .clean hread (fun _ he => absurd he List.not_mem_nil) hdisk₁
  · rw [if_neg hgrave, if_neg Bool.false_ne_true] at hoffers ⊢
    obtain ⟨fixes, b, s₂, hfixes, -, -, hfollows⟩ := Fixing.exists_converses_steps service
      Fixing.standardThreshold path (.start content) (Finding.selectGrave p.result.findings) s₁
    replace hfixes : (Fixing.applyFixes service Fixing.standardThreshold content path
        (Finding.selectGrave p.result.findings)).Converses service s₁ fixes b s₂ := hfixes
    have hdisk₂ : disk s₂ = disk s := (hfixes.answers.preserves hservice).trans hdisk₁
    have hbatch : r.batch? service path s = some b := by
      simp only [batch?, hread, hanalysis.result, hanalysis.state, hfixes.result, Except.toOption,
        Option.bind_some, if_neg hgrave]
    have hcount : (Finding.selectGrave p.result.findings).length = b.fixed + b.failed := by
      rw [hfollows.total]
      exact (Nat.zero_add _).symm
    rw [fixFile, hcount] at hoffers ⊢
    replace hoffers := (hoffers.mono (events_subset_log_bind _ _ _)).mono events_subset_bind_left
    -- a text that changed was offered by a reply
    have hoffered : b.text ≠ content → Text.isWritable b.text = true := by
      intro hchanged
      rcases Fixing.textAfter_cases Fixing.standardThreshold content fixes with
        hsame | ⟨e, he, reply, o, hreply, hoffer, hcode⟩
      · exact absurd (hfollows.text.trans hsame) hchanged
      · rw [hfollows.text]
        exact hoffers e.prompt reply o _ (hfixes.answered e he reply hreply) hoffer hcode
    exact Ends.log_bind (Ends.bind hfixes
      (ends_writeBack hstorage hnul hread hbatch hdisk₂ hoffered))

/-- **A visit to a file** ends in one of these ways. -/
theorem ends_visit (hstorage : r.storage.MayRefuse disk)
    (hservice : ∀ prompt s, disk (service.reply prompt s).state = disk s)
    (hdelay : isNegative r.settings.delaySeconds = false) (hnul : Disk.hasNul path = false)
    (index : Nat) (hlegible : Legible (r.fixFiles service false index [path] o s).events)
    (hwritable : OffersWritable (r.fixFiles service false index [path] o s).events) :
    Ends r service disk path s o (r.fixFiles service false index [path] o s) := by
  rw [fixFiles] at hlegible hwritable ⊢
  cases hread : r.storage.read path s with
  | error f =>
    have hdone : r.readText path s = ⟨[], s, .ok (.error f.message)⟩ :=
      surviving_readText_of_error hread (hstorage.isSurvivable_of_read hnul hread)
    rw [bind_apply_ok (congrArg Outcome.result hdone), hdone]
    show Ends r service disk path s o ⟨[.logged _], s, .ok (o.fail 1)⟩
    refine .unread hread fun e he => ?_
    obtain rfl := List.mem_singleton.1 he
    rfl
  | ok content =>
    have hdone : r.readText path s = ⟨[], s, .ok (.ok content)⟩ := surviving_readText_of_ok hread
    have hlast : (r.analyzeAndFix service false path content o >>=
        fun o => r.fixFiles service false (index + 1) [] o)
          = r.analyzeAndFix service false path content o := bind_pure _
    rw [bind_apply_ok (congrArg Outcome.result hdone), hdone] at hlegible hwritable ⊢
    simp only [hlast, List.nil_append] at hlegible hwritable ⊢
    by_cases hindex : 0 < index
    · have hpause : (Run.pause r.settings.delaySeconds : Run σ Unit).Converses service s [] () s :=
        converses_pause hdelay
      rw [if_pos hindex] at hlegible hwritable ⊢
      replace hlegible := hlegible.mono (events_subset_bind_right hpause.result)
      replace hwritable := hwritable.mono (events_subset_bind_right hpause.result)
      rw [hpause.state] at hlegible hwritable
      exact Ends.bind hpause (ends_analyzeAndFix hstorage hservice hnul hread hlegible hwritable)
    · rw [if_neg hindex] at hlegible hwritable ⊢
      exact ends_analyzeAndFix hstorage hservice hnul hread hlegible hwritable

/-! ## What is known of every end

The five cases once for each thing that an account needs to know. -/

/-- A batch is made of the text of a file, and each fix of it has a record. -/
theorem of_batch?_eq_some (h : r.batch? service path s = some b) :
    (∃ content, r.storage.read path s = .ok content) ∧ b.details.length = b.fixed := by
  obtain ⟨content, hcontent, h⟩ := Option.bind_eq_some_iff.1 h
  refine ⟨⟨content, Reply.eq_ok_of_toOption hcontent⟩, ?_⟩
  obtain ⟨a, -, h⟩ := Option.bind_eq_some_iff.1 h
  dsimp only at h
  split at h
  · cases h
  · obtain ⟨fixes, b', s', hfixes, hlength, -, hfollows⟩ := Fixing.exists_converses_steps service
      Fixing.standardThreshold path (.start content) (Finding.selectGrave a.findings)
      (Paging.standard.analyze service ⟨content, path, none, none⟩ s).state
    obtain rfl : b' = b := Except.ok.inj (hfixes.result.symm.trans (Reply.eq_ok_of_toOption h))
    rw [hfollows.details, hfollows.fixed]
    simp [FixBatch.start, Fixing.length_details hlength]

namespace Ends

variable {out : Outcome σ FixRun} {o' : FixRun}

/-- No end is a fault. -/
theorem exists_result (h : Ends r service disk path s o out) : ∃ o', out.result = .ok o' := by
  cases h <;> exact ⟨_, rfl⟩

/-- Each finding that was to be fixed is counted, and so is a file that cannot be read. -/
theorem total (h : Ends r service disk path s o out) (hresult : out.result = .ok o') :
    o'.fixed + o'.failed + o.eligible = o.fixed + o.failed + o'.eligible
      + if (r.storage.read path s).toOption.isNone then 1 else 0 := by
  cases h with
  | unread hread hquiet =>
    obtain rfl := Except.ok.inj hresult
    simp only [FixRun.fail, hread, Except.toOption, Option.isNone_none, if_true]
    omega
  | clean hread hquiet hdisk =>
    obtain rfl := Except.ok.inj hresult
    simp [hread, Except.toOption]
  | kept hbatch hquiet hdisk =>
    obtain rfl := Except.ok.inj hresult
    obtain ⟨⟨content, hread⟩, -⟩ := of_batch?_eq_some hbatch
    simp only [FixRun.found, FixRun.add, hread, Except.toOption, Option.isNone_some,
      Bool.false_eq_true, if_false]
    omega
  | refused hbatch hquiet hdisk =>
    obtain rfl := Except.ok.inj hresult
    obtain ⟨⟨content, hread⟩, -⟩ := of_batch?_eq_some hbatch
    simp only [FixRun.found, FixRun.fail, hread, Except.toOption, Option.isNone_some,
      Bool.false_eq_true, if_false]
    omega
  | written hbatch hquiet hplace hdisk =>
    obtain rfl := Except.ok.inj hresult
    obtain ⟨⟨content, hread⟩, -⟩ := of_batch?_eq_some hbatch
    simp only [FixRun.found, FixRun.change, FixRun.add, hread, Except.toOption,
      Option.isNone_some, Bool.false_eq_true, if_false]
    omega

/-- Each fix has a record, if each one before has. -/
theorem details (h : Ends r service disk path s o out) (hresult : out.result = .ok o')
    (hbefore : o.details.length = o.fixed) : o'.details.length = o'.fixed := by
  cases h with
  | unread hread hquiet =>
    obtain rfl := Except.ok.inj hresult
    exact hbefore
  | clean hread hquiet hdisk =>
    obtain rfl := Except.ok.inj hresult
    exact hbefore
  | kept hbatch hquiet hdisk =>
    obtain rfl := Except.ok.inj hresult
    simp [FixRun.found, FixRun.add, hbefore, (of_batch?_eq_some hbatch).2]
  | refused hbatch hquiet hdisk =>
    obtain rfl := Except.ok.inj hresult
    exact hbefore
  | written hbatch hquiet hplace hdisk =>
    obtain rfl := Except.ok.inj hresult
    simp [FixRun.found, FixRun.change, FixRun.add, hbefore, (of_batch?_eq_some hbatch).2]

/-- The file is not changed, or it is and holds the text of its batch. -/
theorem changes (h : Ends r service disk path s o out) (hresult : out.result = .ok o') :
    o'.filesChanged = o.filesChanged ∧ disk out.state = disk s ∨
      o'.filesChanged = o.filesChanged ++ [path] ∧
        ∃ b place, r.batch? service path s = some b ∧ (disk s).fileOf? path = some place ∧
          disk out.state = (disk s).putAt place b.text.toUTF8 := by
  cases h with
  | unread hread hquiet =>
    obtain rfl := Except.ok.inj hresult
    exact .inl ⟨rfl, rfl⟩
  | clean hread hquiet hdisk =>
    obtain rfl := Except.ok.inj hresult
    exact .inl ⟨rfl, hdisk⟩
  | kept hbatch hquiet hdisk =>
    obtain rfl := Except.ok.inj hresult
    exact .inl ⟨rfl, hdisk⟩
  | refused hbatch hquiet hdisk =>
    obtain rfl := Except.ok.inj hresult
    exact .inl ⟨rfl, hdisk⟩
  | written hbatch hquiet hplace hdisk =>
    obtain rfl := Except.ok.inj hresult
    exact .inr ⟨rfl, _, _, hbatch, hplace, hdisk⟩

/-- Every path leads to where it led before. -/
theorem sameOutline (h : Ends r service disk path s o out) (hresult : out.result = .ok o') :
    Disk.SameOutline (disk out.state) (disk s) := by
  rcases h.changes hresult with ⟨-, hdisk⟩ | ⟨-, b, place, -, hplace, hdisk⟩
  · rw [hdisk]
    exact .refl _
  · obtain ⟨-, old, hfile⟩ := Disk.fileOf?_eq_some_iff.1 hplace
    rw [hdisk]
    exact Disk.sameOutline_putAt hfile _

/-- The file is written once at most, and nothing is asked after that. -/
theorem events (h : Ends r service disk path s o out) :
    ∃ asking writing, out.events = asking ++ writing ∧ (∀ e ∈ asking, e.isWrite = false) ∧
      (writing = [] ∨ (∃ f line, writing = [.unwritten path f, .logged line]) ∨
        ∃ text, writing = [.wrote path text]) := by
  cases h with
  | unread hread hquiet => exact ⟨_, [], (List.append_nil _).symm, hquiet, .inl rfl⟩
  | clean hread hquiet hdisk => exact ⟨_, [], (List.append_nil _).symm, hquiet, .inl rfl⟩
  | kept hbatch hquiet hdisk => exact ⟨_, [], (List.append_nil _).symm, hquiet, .inl rfl⟩
  | refused hbatch hquiet hdisk => exact ⟨_, _, rfl, hquiet, .inr (.inl ⟨_, _, rfl⟩)⟩
  | written hbatch hquiet hplace hdisk => exact ⟨_, _, rfl, hquiet, .inr (.inr ⟨_, rfl⟩)⟩

end Ends
end Reviewer
end CodeReview
