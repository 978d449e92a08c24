import CodeReview.Proofs.Review.Accounting
import CodeReview.Proofs.Review.Survival
import CodeReview.Proofs.Session.Requests

/-!
# What a dry run foretells

A dry run tells what a fixing run would do, and a user will rely on it.  The two go through the
same files.  Both ask for the findings of each, and a service that answers a prompt always alike
says the same to both (`Paging.exists_alike_analyze`), as long as both show it the same text.  They
do: a fixing run changes no file but the one that it is at, and the files of later paths are others
(`Disk.AgreeOn`).

So a dry run, which changes nothing itself, foretells the requests for findings that a fixing run
makes and what it counts as eligible (`fix_foretold`).  There is one exception.  A fixing run ends
early where it has made a text that cannot be written because it has no bytes
(`fix_stopped_by_surrogate`); then its requests are the first of those foretold, and the text was
proposed by a reply to a request that the dry run never makes.

The proof compares the two runs file by file, and has three layers:

* `Fares` — how the fixing run fares at one file, by the requests and the count that are expected;
* `Foretells` — one visit in both runs, each from a state of its own;
* `GoesBy` — the rest of the fixing run, by what the rest of the dry run sent and counted.

The states of the two drift apart, since fixes were asked for in one and not in the other.  All
that has to be the same is what is read of the files to come.
-/

set_option autoImplicit false

namespace CodeReview

open CodeReview.Run

variable {σ : Type}

/-! ## Requests for findings

The requests of a fixing run are told apart by their prompts, one for findings from one for a fix.
-/

/-- The prompt asks for findings. -/
def Prompt.asksForFindings (prompt : String) : Bool := mark prompt == some '代'

@[simp] theorem Prompt.asksForFindings_page (p : Page) : asksForFindings p.prompt = true := by
  rw [asksForFindings, mark_page]
  rfl

@[simp] theorem Prompt.asksForFindings_fix (content : String) (f : Finding)
    (context : Option String) : asksForFindings (fix content f context) = false := by
  rw [asksForFindings, mark_fix]
  decide

variable [Text.Spare] {disk : σ → Disk} {service : Service σ}
  {answer : String → Except Fault String}

/-- The exchanges are requests for findings. -/
def OnlyPages (dialogue : List Exchange) : Prop :=
  ∀ e ∈ dialogue, ∃ page : Prompt.Page, e.prompt = page.prompt

/-- A dialogue about a file asks for its findings only. -/
theorem Paging.Turns.onlyPages {paging : Paging} {subject : Subject} {left : Nat}
    {dialogue : List Exchange} {p : Progress} (h : Turns paging subject left .start dialogue p) :
    OnlyPages dialogue := by
  intro e he
  obtain ⟨before, behind, hsplit⟩ := List.append_of_mem he
  exact ⟨_, (h.of_split hsplit).1⟩

omit [Text.Spare] in
/-- What is sent of requests for findings are all of them. -/
theorem OnlyPages.filter_sent {dialogue : List Exchange} (h : OnlyPages dialogue)
    (service : Service σ) :
    (if service.isPresent then dialogue.map Exchange.prompt else []).filter Prompt.asksForFindings
      = if service.isPresent then dialogue.map Exchange.prompt else [] := by
  split
  · refine List.filter_eq_self.2 fun prompt hprompt => ?_
    obtain ⟨e, he, rfl⟩ := List.mem_map.1 hprompt
    obtain ⟨page, hpage⟩ := h e he
    rw [hpage, Prompt.asksForFindings_page]
  · rfl

/-! ## How a fixing run fares

Either the visit has a result, with its count, and has changed its own file at most; or it was
stopped by a text. -/

/-- The run ended because a text that it had made has no bytes. -/
def Outcome.StoppedByText {α : Type} (out : Outcome σ α) : Prop :=
  ∃ path u, out.result = .error (.disk (.unencodable u)) ∧
    .unwritten path (.unencodable u) ∈ out.events

/-- The prompt asks for findings or for a fix. -/
def Prompt.IsKnown (prompt : String) : Prop :=
  (∃ page : Page, prompt = page.prompt) ∨ ∃ content f, prompt = fix content f none

namespace Reviewer

variable {r : Reviewer σ} {path content : String} {s s' : σ} {o : FixRun} {b : FixBatch}

/-- How a visit to a file fares, by the requests for findings that are to be made and by the count
of eligible findings that is to come out: it makes these requests, and has that count and leaves
other files alone, unless it is stopped by a text. -/
structure Fares (disk : σ → Disk) (path : String) (s : σ) (asked : List String) (eligible : Nat)
    (out : Outcome σ FixRun) : Prop where
  asked : out.prompts.filter Prompt.asksForFindings = asked
  known : ∀ prompt ∈ out.prompts, Prompt.IsKnown prompt
  ends : (∃ o, out.result = .ok o ∧ o.eligible = eligible ∧
    (disk out.state).SameButFor (disk s) path) ∨ out.StoppedByText

omit [Text.Spare] in
/-- The visit behind a run that only asks. -/
theorem Fares.bind {α : Type} {x : Run σ α} {k : α → Run σ FixRun} {a : α} {s₁ s₂ : σ}
    {dialogue : List Exchange} {sent asked : List String} {eligible : Nat}
    (hx : x.Converses service s₁ dialogue a s₂)
    (hknown : ∀ e ∈ dialogue, Prompt.IsKnown e.prompt)
    (hsent : (if service.isPresent then dialogue.map Exchange.prompt else []).filter
      Prompt.asksForFindings = sent)
    (h : Fares disk path s asked eligible (k a s₂)) :
    Fares disk path s (sent ++ asked) eligible ((x >>= k) s₁) := by
  have happly : (x >>= k) s₁
      = ⟨(x s₁).events ++ (k a s₂).events, (k a s₂).state, (k a s₂).result⟩ := by
    rw [bind_apply_ok hx.result, hx.state]
  have hprompts : ((x >>= k) s₁).prompts = (x s₁).prompts ++ (k a s₂).prompts := by
    rw [happly, Outcome.prompts_eq, Outcome.prompts_eq, Outcome.prompts_eq,
      List.filterMap_append]
  refine ⟨?_, ?_, ?_⟩
  · rw [hprompts, List.filter_append, hx.prompts, hsent, h.asked]
  · intro prompt hprompt
    rw [hprompts, hx.prompts] at hprompt
    rcases List.mem_append.1 hprompt with hprompt | hprompt
    · split at hprompt
      · obtain ⟨e, he, rfl⟩ := List.mem_map.1 hprompt
        exact hknown e he
      · cases hprompt
    · exact h.known prompt hprompt
  · rw [happly]
    rcases h.ends with hdone | ⟨path', u, hresult, hevent⟩
    · exact .inl hdone
    · exact .inr ⟨path', u, hresult, List.mem_append_right _ hevent⟩

omit [Text.Spare] in
/-- The visit behind a silent run. -/
theorem Fares.silent_bind {α : Type} {x : Run σ α} {k : α → Run σ FixRun} {a : α} {s₁ : σ}
    {asked : List String} {eligible : Nat} (hx : Silent x) (ha : (x s₁).result = .ok a)
    (h : Fares disk path s asked eligible (k a s₁)) :
    Fares disk path s asked eligible ((x >>= k) s₁) := by
  obtain ⟨hprompts, hresult, hstate⟩ := hx.bind_apply (k := k) ha
  refine ⟨?_, ?_, ?_⟩
  · rw [hprompts]
    exact h.asked
  · rw [hprompts]
    exact h.known
  · rcases h.ends with ⟨o, ho, heligible, hdisk⟩ | ⟨path', u, hfault, hevent⟩
    · exact .inl ⟨o, hresult.trans ho, heligible, hstate ▸ hdisk⟩
    · refine .inr ⟨path', u, hresult.trans hfault, events_subset_bind_right ha ?_⟩
      rw [(hx s₁).1]
      exact hevent

omit [Text.Spare] in
theorem fares_pure (hdisk : disk s' = disk s) (o : FixRun) :
    Fares disk path s [] o.eligible ((pure o : Run σ FixRun) s') where
  asked := rfl
  known _ h := absurd h List.not_mem_nil
  ends := .inl ⟨o, rfl, rfl, hdisk ▸ .refl _ path⟩

/-! ## Step by step

The steps of a visit from the last to the first: writing back, fixing, asking for findings. -/

/-- Writing back counts nothing as eligible, and changes one file at most. -/
theorem fares_writeBack (hstorage : r.storage.MayRefuse disk) (hnul : Disk.hasNul path = false)
    (hread : r.storage.read path s = .ok content) (hdisk : disk s' = disk s) (b : FixBatch)
    (o : FixRun) : Fares disk path s [] o.eligible (r.writeBack path content b o s') := by
  by_cases hsame : b.text = content
  · rw [writeBack, if_pos hsame]
    exact fares_pure hdisk (o.add b)
  · rw [writeBack, if_neg hsame]
    obtain ⟨place, hplace⟩ := hstorage.exists_fileOf?_of_read hread
    rcases hstorage.write_cases_of_any hnul (hdisk ▸ hplace) b.text with
      ⟨s'', hwrite, hchange⟩ | ⟨f, s'', hwrite, hf, hrefused⟩ | ⟨u, s'', hwrite⟩
    · have hdone := surviving_writeText_of_ok hwrite
      rw [bind_apply_ok (congrArg Outcome.result hdone), hdone]
      exact ⟨rfl, fun _ h => absurd h List.not_mem_nil, .inl ⟨_, rfl, rfl, hdisk ▸ hchange⟩⟩
    · have hdone := surviving_writeText_of_error hwrite hf
      rw [bind_apply_ok (congrArg Outcome.result hdone), hdone]
      have hleft : disk s'' = disk s := hrefused.trans hdisk
      exact ⟨rfl, fun _ h => absurd h List.not_mem_nil,
        .inl ⟨_, rfl, rfl, hleft ▸ .refl _ path⟩⟩
    · have hdone := surviving_writeText_of_unencodable hwrite
      rw [bind_apply_error (congrArg Outcome.result hdone), hdone]
      exact ⟨rfl, fun _ h => absurd h List.not_mem_nil,
        .inr ⟨path, u, rfl, List.mem_singleton_self _⟩⟩

/-- **Fixing a file** makes no request for findings. -/
theorem fares_fixFile (hstorage : r.storage.MayRefuse disk)
    (hservice : ∀ prompt s, disk (service.reply prompt s).state = disk s)
    (hnul : Disk.hasNul path = false) (hread : r.storage.read path s = .ok content)
    (hdisk : disk s' = disk s) (findings : List Finding) (o : FixRun) :
    Fares disk path s [] o.eligible (r.fixFile service path content findings o s') := by
  obtain ⟨fixes, b, s'', hfixes, -, hshows, -⟩ := Fixing.exists_converses_steps service
    Fixing.standardThreshold path (.start content) findings s'
  replace hfixes : (Fixing.applyFixes service Fixing.standardThreshold content path
      findings).Converses service s' fixes b s'' := hfixes
  have hprompts : ∀ e ∈ fixes, ∃ text f, e.prompt = Prompt.fix text f none := by
    intro e he
    obtain ⟨before, behind, hsplit⟩ := List.append_of_mem he
    obtain ⟨f, -, hprompt⟩ := hshows before e behind hsplit
    exact ⟨_, f, hprompt⟩
  have hnone : (if service.isPresent then fixes.map Exchange.prompt else []).filter
      Prompt.asksForFindings = [] := by
    split
    · refine List.filter_eq_nil_iff.2 fun prompt hprompt => ?_
      obtain ⟨e, he, rfl⟩ := List.mem_map.1 hprompt
      obtain ⟨text, f, hfix⟩ := hprompts e he
      rw [hfix, Prompt.asksForFindings_fix]
      exact Bool.false_ne_true
    · rfl
  have hdisk'' : disk s'' = disk s := (hfixes.answers.preserves hservice).trans hdisk
  refine Fares.silent_bind (silent_log _ _) rfl ?_
  exact Fares.bind hfixes (fun e he => .inr (hprompts e he)) hnone
    (fares_writeBack hstorage hnul hread hdisk'' b o)

/-- What is eligible among the findings of an analysis. -/
def eligibleIn (a : Analysis) : Nat := (Finding.selectGrave a.findings).length

/-- **A fixing run at a file** asks for its findings, and then perhaps for fixes. -/
theorem fares_analyzeAndFix {dialogue : List Exchange} {a : Analysis}
    (hstorage : r.storage.MayRefuse disk)
    (hservice : ∀ prompt s, disk (service.reply prompt s).state = disk s)
    (hnul : Disk.hasNul path = false) (hread : r.storage.read path s = .ok content)
    (honly : OnlyPages dialogue)
    (hanalysis : ∃ s', (Paging.standard.analyze service ⟨content, path, none, none⟩).Converses
      service s dialogue a s') (o : FixRun) :
    Fares disk path s (if service.isPresent then dialogue.map Exchange.prompt else [])
      (o.eligible + eligibleIn a) (r.analyzeAndFix service false path content o s) := by
  obtain ⟨s', hanalysis⟩ := hanalysis
  have hdisk : disk s' = disk s := hanalysis.answers.preserves hservice
  rw [← List.append_nil (if service.isPresent then dialogue.map Exchange.prompt else [])]
  refine Fares.bind hanalysis (fun e he => .inl (honly e he)) (honly.filter_sent service) ?_
  dsimp only
  split
  · rename_i hnone
    rw [eligibleIn, List.isEmpty_iff.1 hnone]
    exact fares_pure hdisk o
  · rw [if_neg Bool.false_ne_true]
    exact fares_fixFile hstorage hservice hnul hread hdisk _ (o.found _)

/-- **A dry run at a file** only asks for its findings, and counts as many as eligible. -/
theorem exists_converses_analyzeAndFix {dialogue : List Exchange} {a : Analysis}
    (hanalysis : ∃ s', (Paging.standard.analyze service ⟨content, path, none, none⟩).Converses
      service s dialogue a s') (o : FixRun) :
    ∃ o' s', (r.analyzeAndFix service true path content o).Converses service s dialogue o' s' ∧
      o'.eligible = o.eligible + eligibleIn a := by
  obtain ⟨s', hanalysis⟩ := hanalysis
  by_cases hnone : (Finding.selectGrave a.findings).isEmpty = true
  · refine ⟨o, s', hanalysis.bind_silent ?_, ?_⟩
    · rw [if_pos hnone]
      exact converses_pure o
    · rw [eligibleIn, List.isEmpty_iff.1 hnone]
      rfl
  · refine ⟨o.found (eligibleIn a), s', hanalysis.bind_silent ?_, rfl⟩
    rw [if_neg hnone]
    exact converses_pure _

/-! ## A visit in both runs

A file that cannot be read is asked about in neither run.  A file that can be read is asked about
alike, since the text is the same and the service answers alike. -/

/-- What a visit to a file asks and counts, in a dry run from one state and in a fixing run from
another. -/
structure Foretells (r : Reviewer σ) (service : Service σ) (disk : σ → Disk) (path : String)
    (s s' : σ) (asked : List String) (count : Nat) : Prop where
  dry : ∀ index o, ∃ dialogue o₁ s₁,
    (r.fixFiles service true index [path] o).Converses service s dialogue o₁ s₁ ∧
      OnlyPages dialogue ∧ o₁.eligible = o.eligible + count ∧
      asked = if service.isPresent then dialogue.map Exchange.prompt else []
  real : ∀ index o, Fares disk path s' asked (o.eligible + count)
    (r.fixFiles service false index [path] o s')

/-- A file that cannot be read is not asked about. -/
theorem foretells_of_error {f : Disk.Fault} (hread : r.storage.read path s = .error f)
    (hread' : r.storage.read path s' = .error f) (hf : f.isSurvivable = true) :
    Foretells r service disk path s s' [] 0 where
  dry index o := by
    have hdone : r.readText path s = ⟨[], s, .ok (.error f.message)⟩ :=
      surviving_readText_of_error hread hf
    refine ⟨[], o.fail 1, s, ?_, fun _ he => absurd he List.not_mem_nil, rfl,
      by rw [List.map_nil, ite_self]⟩
    rw [fixFiles]
    exact (converses_of_apply hdone).bind (converses_pure _).log_bind
  real index o := by
    have hdone : (r.readText path s').result = .ok (.error f.message) :=
      congrArg Outcome.result (surviving_readText_of_error hread' hf)
    rw [fixFiles]
    refine Fares.silent_bind (Run.silent_readText r.storage path) hdone ?_
    refine Fares.silent_bind (silent_log _ _) rfl ?_
    exact fares_pure rfl (o.fail 1)

/-- A file that is read is asked about alike, and what is eligible in it counts. -/
theorem foretells_of_ok (hstorage : r.storage.MayRefuse disk)
    (hservice : service.AnswersBy disk answer)
    (hdelay : isNegative r.settings.delaySeconds = false) (hnul : Disk.hasNul path = false)
    (hread : r.storage.read path s = .ok content) (hread' : r.storage.read path s' = .ok content)
    {dialogue : List Exchange} {a : Analysis} (honly : OnlyPages dialogue)
    (hanalysis : ∀ s, ∃ s', (Paging.standard.analyze service ⟨content, path, none, none⟩).Converses
      service s dialogue a s') :
    Foretells r service disk path s s'
      (if service.isPresent then dialogue.map Exchange.prompt else []) (eligibleIn a) := by
  have hpause (s : σ) : (Run.pause r.settings.delaySeconds : Run σ Unit).Converses service s [] ()
      s := converses_pause hdelay
  have hlast (dryRun : Bool) (index : Nat) (o : FixRun) :
      (r.analyzeAndFix service dryRun path content o >>=
        fun o => r.fixFiles service dryRun (index + 1) [] o)
        = r.analyzeAndFix service dryRun path content o := bind_pure _
  constructor
  case dry =>
    intro index o
    obtain ⟨o₁, s₁, hvisit, heligible⟩ := exists_converses_analyzeAndFix (r := r) (hanalysis s) o
    have hdone : r.readText path s = ⟨[], s, .ok (.ok content)⟩ := surviving_readText_of_ok hread
    refine ⟨dialogue, o₁, s₁, ?_, honly, heligible, rfl⟩
    rw [fixFiles]
    refine (converses_of_apply hdone).bind ?_
    dsimp only
    rw [hlast]
    split
    · exact (hpause s).bind hvisit
    · exact hvisit
  case real =>
    intro index o
    have hvisit := fares_analyzeAndFix hstorage hservice.disk hnul hread' honly (hanalysis s') o
    have hdone : (r.readText path s').result = .ok (.ok content) :=
      congrArg Outcome.result (surviving_readText_of_ok hread')
    rw [fixFiles]
    refine Fares.silent_bind (Run.silent_readText r.storage path) hdone ?_
    dsimp only
    rw [hlast]
    by_cases hindex : 0 < index
    · rw [if_pos hindex]
      exact Fares.silent_bind (silent_pause _) (hpause s').result hvisit
    · rw [if_neg hindex]
      exact hvisit

/-- **Both runs fare alike at a file** that both read alike. -/
theorem exists_foretells (hstorage : r.storage.MayRefuse disk)
    (hservice : service.AnswersBy disk answer) (hanswer : AnswersFindings answer)
    (hdelay : isNegative r.settings.delaySeconds = false) (hnul : Disk.hasNul path = false)
    (hsame : r.storage.read path s' = r.storage.read path s) :
    ∃ asked count, Foretells r service disk path s s' asked count := by
  cases hread : r.storage.read path s with
  | error f =>
    exact ⟨[], 0, foretells_of_error hread (hsame.trans hread)
      (hstorage.isSurvivable_of_read hnul hread)⟩
  | ok content =>
    obtain ⟨dialogue, p, hturns, hanalysis⟩ := Paging.exists_alike_analyze hservice hanswer
      Paging.standard ⟨content, path, none, none⟩
    exact ⟨_, _, foretells_of_ok hstorage hservice hdelay hnul hread (hsame.trans hread)
      hturns.onlyPages hanalysis⟩

/-! ## The whole of both runs

The induction is on the files, with the two disks agreeing on those that are still to come.  When
the fixing run has changed a file, they agree on one path less (`Disk.AgreeOn.tail`). -/

/-- How a fixing run goes, by what a dry run sent and counted: it makes the same requests for
findings and has the same count, unless it is stopped by a text; then it made the first of them. -/
structure GoesBy (sent : List String) (eligible : Nat) (real : Outcome σ FixRun) : Prop where
  known : ∀ prompt ∈ real.prompts, Prompt.IsKnown prompt
  begun : real.prompts.filter Prompt.asksForFindings <+: sent
  ends : (∃ o, real.result = .ok o ∧ o.eligible = eligible ∧
    real.prompts.filter Prompt.asksForFindings = sent) ∨ real.StoppedByText

omit [Text.Spare] in
/-- A visit that is stopped ends the run. -/
theorem GoesBy.stopped {x : Run σ FixRun} {k : FixRun → Run σ FixRun} {asked rest : List String}
    {count eligible : Nat} (h : Fares disk path s' asked count (x s'))
    (hstopped : (x s').StoppedByText) : GoesBy (asked ++ rest) eligible ((x >>= k) s') := by
  obtain ⟨path', u, hresult, hevent⟩ := hstopped
  have hprompts := prompts_bind_error (k := k) hresult
  refine ⟨?_, ?_, .inr ⟨path', u, ?_, ?_⟩⟩
  · rw [hprompts]
    exact h.known
  · rw [hprompts, h.asked]
    exact List.prefix_append asked rest
  · rw [bind_apply_error hresult]
  · exact events_subset_bind_left hevent

omit [Text.Spare] in
/-- A visit that is not stopped is followed by the others. -/
theorem GoesBy.cons {x : Run σ FixRun} {k : FixRun → Run σ FixRun} {asked rest : List String}
    {count eligible : Nat} (h : Fares disk path s' asked count (x s'))
    (hresult : (x s').result = .ok o) (hrest : GoesBy rest eligible (k o (x s').state)) :
    GoesBy (asked ++ rest) eligible ((x >>= k) s') := by
  have hprompts := prompts_bind_ok (k := k) hresult
  refine ⟨fun prompt hprompt => ?_, ?_, ?_⟩
  · rw [hprompts] at hprompt
    exact (List.mem_append.1 hprompt).elim (h.known prompt) (hrest.known prompt)
  · rw [hprompts, List.filter_append, h.asked]
    exact (List.prefix_append_right_inj asked).2 hrest.begun
  · rw [bind_apply_ok hresult]
    rcases hrest.ends with ⟨o', ho', heligible, hall⟩ | ⟨path', u, hfault, hevent⟩
    · refine .inl ⟨o', ho', heligible, ?_⟩
      rw [← bind_apply_ok hresult, hprompts, List.filter_append, h.asked, hall]
    · exact .inr ⟨path', u, hfault, List.mem_append_right _ hevent⟩

/-- **File by file,** the dry run foretells the fixing run. -/
theorem exists_goesBy (hstorage : r.storage.MayRefuse disk) (hsteady : r.storage.ReadsAlike disk)
    (hservice : service.AnswersBy disk answer) (hanswer : AnswersFindings answer)
    (hdelay : isNegative r.settings.delaySeconds = false) {paths : List String}
    (hnul : ∀ path ∈ paths, Disk.hasNul path = false) (hnodup : paths.Nodup) (index : Nat)
    {o o' : FixRun} (heligible : o'.eligible = o.eligible) {s s' : σ}
    (hagree : (disk s').AgreeOn (disk s) paths) (hapart : (disk s).NamesApart paths) :
    ∃ dialogue o₁ s₁,
      (r.fixFiles service true index paths o).Converses service s dialogue o₁ s₁ ∧
        OnlyPages dialogue ∧
        GoesBy (if service.isPresent then dialogue.map Exchange.prompt else []) o₁.eligible
          (r.fixFiles service false index paths o' s') := by
  induction paths generalizing index o o' s s' with
  | nil =>
    refine ⟨[], o, s, converses_pure o, fun _ he => absurd he List.not_mem_nil, ?_⟩
    exact ⟨fun _ h => absurd h List.not_mem_nil, List.nil_prefix,
      .inl ⟨o', rfl, heligible, by rw [List.map_nil, ite_self]; rfl⟩⟩
  | cons path paths ih =>
    rw [List.forall_mem_cons] at hnul
    rw [List.nodup_cons] at hnodup
    rw [fixFiles_cons true index path paths o, fixFiles_cons false index path paths o']
    have hfirst : (disk s').AgreeOn (disk s) [path] := hagree.mono (by simp)
    obtain ⟨asked, count, hforetells⟩ := exists_foretells hstorage hservice hanswer hdelay hnul.1
      (hsteady path s' s hfirst)
    obtain ⟨visit, o₁, s₁, hvisit, honly, hcount, hasked⟩ := hforetells.dry index o
    have hfares := hforetells.real index o'
    have hdisk : disk s₁ = disk s := hvisit.answers.preserves hservice.disk
    have hrest : (disk s₁).NamesApart paths := by
      rw [hdisk]
      exact hapart.mono (List.subset_cons_self path paths)
    have hsent (rest : List Exchange) :
        (if service.isPresent then (visit ++ rest).map Exchange.prompt else [])
          = asked ++ if service.isPresent then rest.map Exchange.prompt else [] := by
      rw [hasked, List.map_append]
      split <;> rfl
    rcases hfares.ends with ⟨o₁', hresult, hcount', hchange⟩ | hstopped
    · have hagree' : (disk (r.fixFiles service false index [path] o' s').state).AgreeOn
          (disk s₁) paths := by
        rw [hdisk]
        exact hagree.tail hchange hnodup.1 hapart
      obtain ⟨rest, o₂, s₂, hdry, honly', hgoes⟩ := ih hnul.2 hnodup.2 (index + 1)
        (show o₁'.eligible = o₁.eligible by omega) hagree' hrest
      refine ⟨visit ++ rest, o₂, s₂, hvisit.bind hdry, ?_, ?_⟩
      · exact List.forall_mem_append.2 ⟨honly, honly'⟩
      · rw [hsent]
        exact GoesBy.cons hfares hresult hgoes
    · -- the dry run goes on by itself
      obtain ⟨rest, o₂, s₂, hdry, honly', -⟩ := ih hnul.2 hnodup.2 (index + 1)
        (rfl : o₁.eligible = o₁.eligible) (.refl (disk s₁) paths) hrest
      refine ⟨visit ++ rest, o₂, s₂, hvisit.bind hdry, ?_, ?_⟩
      · exact List.forall_mem_append.2 ⟨honly, honly'⟩
      · rw [hsent]
        exact GoesBy.stopped hfares hstopped

/-- Without a service there is nothing to run. -/
theorem fix_of_none (hnone : r.service = none) (root : String) (dryRun : Bool) (s : σ) :
    r.fix root dryRun s
      = ⟨[.logged ⟨.error, "AI fixes require a configured LLM"⟩], s, .ok (.start dryRun)⟩ := by
  rw [fix, hnone]
  rfl

/-- **What a dry run foretells.**  Let the paths of the files lead to different ones, and let a
service answer a prompt always alike, leave the disk alone and say nothing about a file that cannot
be read.  Then a dry run has a result, sends nothing but requests for findings, and writes nothing.
A fixing run from the same state makes the same requests for findings in the same order and counts
as many findings as eligible, unless it ends early because a text that it made for a file has no
bytes; its requests for findings are then the first of the dry run, and the text is one that a reply
to a request for a fix proposed. -/
theorem fix_foretold (hstorage : r.storage.MayRefuse disk) (hsteady : r.storage.ReadsAlike disk)
    {fields : Json.Fields} (hsettings : ReviewSettings.ofFields fields = .valid r.settings)
    (hservice : ∀ service ∈ r.service, service.AnswersBy disk answer)
    (hanswer : AnswersFindings answer) {root : String} {paths : List String}
    (hpaths : (disk s).discover root r.extensions r.settings.maxFileBytes = .ok paths)
    (hapart : (disk s).NamesApart paths) :
    let dry := r.fix root true s
    let real := r.fix root false s
    (∃ o, dry.result = .ok o ∧
      ((∃ o', real.result = .ok o' ∧ o'.eligible = o.eligible ∧
          real.prompts.filter Prompt.asksForFindings = dry.prompts) ∨ real.StoppedByText)) ∧
    (∀ prompt ∈ dry.prompts, ∃ page : Prompt.Page, prompt = page.prompt) ∧
    disk dry.state = disk s ∧ (∀ e ∈ dry.events, e.isWrite = false) ∧
    real.prompts.filter Prompt.asksForFindings <+: dry.prompts ∧
    (∀ prompt ∈ real.prompts, (∃ page : Prompt.Page, prompt = page.prompt) ∨
      ∃ content f, prompt = Prompt.fix content f none) ∧
    Explained real.events := by
  intro dry real
  obtain ⟨-, -, -, -, hdelay⟩ := ReviewSettings.bounds_of_ofFields hsettings
  cases hr : r.service with
  | none =>
    have hdryRun : dry = _ := fix_of_none hr root true s
    have hrealRun : real = _ := fix_of_none hr root false s
    rw [hdryRun, hrealRun]
    refine ⟨⟨_, rfl, .inl ⟨_, rfl, rfl, rfl⟩⟩, fun _ h => absurd h List.not_mem_nil, rfl, ?_,
      List.nil_prefix, fun _ h => absurd h List.not_mem_nil,
      explained_of_harmless (harmless_logged [_])⟩
    intro e he
    obtain rfl := List.mem_singleton.1 he
    rfl
  | some service =>
    have hlisted : r.storage.discover root r.extensions r.settings.maxFileBytes s = .ok paths :=
      (hstorage.discover _ _ _ s).trans hpaths
    have hordered := Disk.pairwise_of_discover hpaths
    have hnul : ∀ path ∈ paths, Disk.hasNul path = false :=
      fun path hpath => Disk.hasNul_of_discover hpaths hpath
    have hstops : StoppedByEvents (r.fixFiles service false 0 paths (.start false)) :=
      stoppedByEvents_fixFiles hdelay false
        (fun path hpath => hstorage.readsSafely (hnul path hpath))
        (fun path hpath => hstorage.writesSafely (hnul path hpath)) 0 _
    have hanswers := hservice service hr
    have hstart : (FixRun.start false).eligible = (FixRun.start true).eligible := rfl
    obtain ⟨dialogue, o, s₁, hdry, honly, hgoes⟩ := exists_goesBy hstorage hsteady hanswers hanswer
      hdelay hnul (hordered.imp String.ne_of_lt) 0 hstart (.refl (disk s) paths) hapart
    have hdryRun : dry = r.fixFiles service true 0 paths (.start true) s :=
      fix_of_discover hr hlisted true
    have hrealRun : real = r.fixFiles service false 0 paths (.start false) s :=
      fix_of_discover hr hlisted false
    rw [hdryRun, hrealRun]
    refine ⟨⟨o, hdry.result, ?_⟩, ?_, ?_, hdry.quiet, ?_, hgoes.known,
      hstops.explained s⟩
    · rw [hdry.prompts]
      exact hgoes.ends
    · intro prompt hprompt
      rw [hdry.prompts] at hprompt
      split at hprompt
      · obtain ⟨e, he, rfl⟩ := List.mem_map.1 hprompt
        exact honly e he
      · cases hprompt
    · rw [hdry.state]
      exact hdry.answers.preserves hanswers.disk
    · rw [hdry.prompts]
      exact hgoes.begun

omit [Text.Spare] in
/-- Two files, and a service whose answer to every prompt is both an analysis and a fix. -/
theorem fix_foretold_two_files :
    letI : Text.Spare := ⟨0⟩
    let reply := "\x7b\"issues\": [\x7b\"severity\": \"high\", \"message\": \"m\"\x7d], "
      ++ "\"fixedCode\": \"g()\", \"confidence\": 90\x7d"
    let r : Reviewer Disk := ⟨⟨.hybrid, 20, 50000, 1000000, ReviewSettings.defaultDelay, false⟩,
      some (.always reply), .ofDisk id fun d _ => d, Disk.defaultExtensions⟩
    let dry := r.fix "/w" true Disk.twoFiles
    let real := r.fix "/w" false Disk.twoFiles
    ∃ o o', dry.result = .ok o ∧ real.result = .ok o' ∧ o'.filesChanged = ["/w/a.js", "/w/b.js"] ∧
      o'.eligible = o.eligible ∧ real.prompts.filter Prompt.asksForFindings = dry.prompts ∧
      dry.state = Disk.twoFiles := by
  let : Text.Spare := ⟨0⟩
  intro reply r dry real
  have hanswer : AnswersFindings fun _ => .ok reply :=
    answersFindings_of_isSome (by decide +kernel)
  have hservice : ∀ service ∈ r.service, service.AnswersBy id fun _ => .ok reply := by
    rintro service ⟨⟩
    exact Service.answersBy_always id reply
  have hstorage : r.storage.MayRefuse id := .ofDisk_id
  have hsteady : r.storage.ReadsAlike id := Storage.readsAlike_ofDisk_id
  have hsettings : ReviewSettings.ofFields [] = .valid r.settings := rfl
  have hapart : Disk.twoFiles.NamesApart ["/w/a.js", "/w/b.js"] := by decide +kernel
  have hreal : real = r.fixFiles _ false 0 ["/w/a.js", "/w/b.js"] (.start false) Disk.twoFiles :=
    fix_of_discover rfl Disk.discover_twoFiles false
  have hchanged : real.result.toOption.map FixRun.filesChanged
      = some ["/w/a.js", "/w/b.js"] := by
    rw [hreal]
    decide +kernel
  obtain ⟨⟨o, hdry, hgoes⟩, -, hsame, -⟩ := fix_foretold (s := Disk.twoFiles) hstorage hsteady
    hsettings hservice hanswer Disk.discover_twoFiles hapart
  rcases hgoes with ⟨o', hresult, heligible, hprompts⟩ | ⟨path, u, hstopped, -⟩
  · refine ⟨o, o', hdry, hresult, ?_, heligible, hprompts, hsame⟩
    rw [show real.result = .ok o' from hresult] at hchanged
    exact Option.some.inj hchanged
  · rw [show real.result = _ from hstopped] at hchanged
    cases hchanged

omit [Text.Spare] in
/-- A fix that is half a surrogate pair: the dry run counts two findings, one in each file, and the
fixing run ends with the first file, whose text it cannot write.  Of its two prompts one asks for
that fix, so it never asks about the second file. -/
theorem fix_stopped_by_surrogate :
    letI : Text.Spare := ⟨0⟩
    let reply := "\x7b\"issues\": [\x7b\"severity\": \"high\", \"message\": \"m\"\x7d], "
      ++ "\"fixedCode\": \"\\ud800\", \"confidence\": 90\x7d"
    let r : Reviewer Disk := ⟨⟨.hybrid, 20, 50000, 1000000, ReviewSettings.defaultDelay, false⟩,
      some (.always reply), .ofDisk id fun d _ => d, Disk.defaultExtensions⟩
    let dry := r.fix "/w" true Disk.twoFiles
    let real := r.fix "/w" false Disk.twoFiles
    AnswersFindings (fun _ => .ok reply) ∧
      Disk.twoFiles.discover "/w" Disk.defaultExtensions 1000000 = .ok ["/w/a.js", "/w/b.js"] ∧
      Disk.twoFiles.NamesApart ["/w/a.js", "/w/b.js"] ∧
      dry.result.toOption.map FixRun.eligible = some 2 ∧ dry.prompts.length = 2 ∧
      real.result = .error (.disk (.unencodable ⟨.utf8, 0, 1, 0xd800⟩)) ∧
      real.prompts.length = 2 := by
  let : Text.Spare := ⟨0⟩
  intro reply r dry real
  have hanswer : AnswersFindings fun _ => .ok reply :=
    answersFindings_of_isSome (by decide +kernel)
  have hdry : dry = r.fixFiles _ true 0 ["/w/a.js", "/w/b.js"] (.start true) Disk.twoFiles :=
    fix_of_discover rfl Disk.discover_twoFiles true
  have hreal : real = r.fixFiles _ false 0 ["/w/a.js", "/w/b.js"] (.start false) Disk.twoFiles :=
    fix_of_discover rfl Disk.discover_twoFiles false
  refine ⟨hanswer, Disk.discover_twoFiles, by decide +kernel, ?_⟩
  rw [hdry, hreal]
  decide +kernel

end Reviewer
end CodeReview
