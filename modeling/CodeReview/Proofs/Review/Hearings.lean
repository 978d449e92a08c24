import CodeReview.Proofs.Session.Requests
import CodeReview.Proofs.Session.Storing
import CodeReview.Proofs.Session.Yields
import CodeReview.Review.Basic

/-!
# What a review asks

What may a review cost?  Requests are what costs, so the question is how many of them there are,
about what, and in which order, and nothing should have to be supposed of the service.  It may
fail, claim more forever, change the files while it is asked, or end the review.

The service is heard about one file after another, and then at most once about all of them
together. A `Hearing` is what is asked about one file: pages of the text that the file has when the
hearing begins (`Hearing.Suits`), at most ten, numbered from the first.  The hearings of a review
are about some of the first files, in their order, and that bounds what the review asks
(`prompts_review`): ten prompts for each file that may be shown, and one more.

As the service may end the review at any point, this goes by `Run.Asks`, which is about runs
however they end.  What is bounded is then the prompts of the part that was run.
## What is here

* `Hearing`, `Hearing.Suits`, `Held` — what is asked about a file, and hearings one after another,
  each in the state that the one before it left;
* `silent_findByRules`, `silent_readable` — what asks nothing;
* `exists_asks_gather` — the files are heard one after another, by recursion on how many may still
  be shown;
* `MayAsk`, `exists_asks_review` — the whole review;
* `prompts_review` — the bound on its prompts, and their order.
-/

set_option autoImplicit false

namespace CodeReview

open CodeReview.Run

variable {σ : Type}

/-- What is asked about one file. -/
structure Hearing where
  path : String
  content : String
  prompts : List String

namespace Reviewer

variable {r : Reviewer σ} {service : Service σ} {path : String} {s : σ}

/-- The hearing is about the text of its file, one that is not too long, and asks for ten pages of
it at most. -/
structure Suits (r : Reviewer σ) (s : σ) (h : Hearing) : Prop where
  read : r.storage.read h.path s = .ok h.content
  short : h.content.length ≤ r.settings.maxFileChars
  length : h.prompts.length ≤ 10
  numbered : Paging.standard.Numbered ⟨h.content, h.path, none, none⟩ 0 h.prompts

/-- One hearing after another, each about a file as the one before it left it. -/
inductive Held (r : Reviewer σ) (service : Service σ) : σ → List Hearing → Prop where
  | nil (s : σ) : Held r service s []
  | cons {s : σ} {h : Hearing} {hearings : List Hearing} (first : r.Suits s h)
      (rest : Held r service (service.after s h.prompts) hearings) :
      Held r service s (h :: hearings)

theorem Held.length_le {hearings : List Hearing} (h : r.Held service s hearings) :
    (hearings.flatMap Hearing.prompts).length ≤ 10 * hearings.length := by
  induction h with
  | nil s => exact Nat.le_refl 0
  | cons first rest ih =>
    have hfirst := first.length
    rw [List.flatMap_cons, List.length_append, List.length_cons]
    omega

/-! ## What asks nothing

All that is done with files is silent. -/

theorem silent_readText (r : Reviewer σ) (path : String) : Silent (r.readText path) :=
  Run.silent_readText r.storage path

theorem silent_suitableText (r : Reviewer σ) (path : String) : Silent (r.suitableText path) := by
  refine (r.silent_readText path).bind fun read => ?_
  cases read with
  | error e => exact (silent_log _ _).bind fun _ => silent_pure none
  | ok content =>
    dsimp only
    split
    · exact (silent_log _ _).bind fun _ => silent_pure none
    · exact silent_pure (some content)

theorem silent_ruleFindings (r : Reviewer σ) (path : String) : Silent (r.ruleFindings path) := by
  refine (r.silent_readText path).bind fun read => ?_
  cases read with
  | error e => exact (silent_log _ _).bind fun _ => silent_pure []
  | ok content =>
    dsimp only
    split
    · exact (silent_log _ _).bind fun _ => silent_pure _
    · exact silent_pure _

theorem silent_allRuleFindings (r : Reviewer σ) (paths : List String) :
    Silent (r.allRuleFindings paths) := by
  induction paths with
  | nil => exact silent_pure []
  | cons path paths ih =>
    exact (r.silent_ruleFindings path).bind fun _ => ih.bind fun _ => silent_pure _

/-- **The rules ask nothing.** -/
theorem silent_findByRules (r : Reviewer σ) (mode : Mode) (paths : List String) :
    Silent (r.findByRules mode paths) := by
  rw [findByRules]
  split
  · exact (r.silent_allRuleFindings paths).bind fun _ => silent_pure _
  · exact silent_pure []

theorem silent_readable (r : Reviewer σ) (paths : List String) : Silent (r.readable paths) := by
  induction paths with
  | nil => exact silent_pure []
  | cons path paths ih =>
    refine (r.silent_readText path).bind fun read => ?_
    cases read with
    | error e => exact (silent_log _ _).bind fun _ => ih
    | ok content => exact ih.bind fun rest => silent_pure _

/-! ## Asking about files

A file that cannot be read or is too long has no hearing, but its place among the first files is
used up; so the hearings are about a sublist of the first files, and not about the first that are
suitable. -/

/-- A text that the service is asked about is that of the file, and not too long. -/
theorem of_result_suitableText {content : String}
    (h : (r.suitableText path s).result = .ok (some content)) :
    r.storage.read path s = .ok content ∧ content.length ≤ r.settings.maxFileChars := by
  obtain ⟨read, hread, h⟩ := exists_of_bind_ok h
  cases read with
  | error e =>
    obtain ⟨-, -, ⟨⟩⟩ := exists_of_bind_ok h
  | ok text =>
    have hstored : r.storage.read path s = .ok text := by
      cases hstored : r.storage.read path s with
      | ok text' =>
        rw [readText, surviving_readText_of_ok hstored] at hread
        rw [Except.ok.inj (Except.ok.inj hread)]
      | error f =>
        simp only [readText, surviving, Run.readText, hstored, Except.mapError] at hread
        split at hread <;> cases hread
    dsimp only at h
    split at h
    · obtain ⟨-, -, ⟨⟩⟩ := exists_of_bind_ok h
    · rename_i hshort
      cases h
      exact ⟨hstored, Nat.not_lt.1 hshort⟩

variable [Text.Spare]

/-- **One hearing.** -/
theorem exists_asks_askAbout (r : Reviewer σ) (service : Service σ) (requested : Bool)
    (path content : String) (s : σ) :
    ∃ asked, (r.askAbout service requested path content).Asks service s asked ∧
      asked.length ≤ 10 ∧ Paging.standard.Numbered ⟨content, path, none, none⟩ 0 asked := by
  have hnone : ([] : List String).length ≤ 10 ∧
      Paging.standard.Numbered ⟨content, path, none, none⟩ 0 [] :=
    ⟨Nat.zero_le 10, Paging.numbered_nil 0⟩
  have hasks : ∃ asked, Run.Asks (do
      Run.log .info s!"AI analyzing {path}"
      let a ← Paging.standard.analyze service ⟨content, path, none, none⟩
      let count := a.findings.length
      Run.log .info s!"Found {count} AI-detected issue(s) in {path}"
      pure (Gathered.ofAnalysis path a)) service s asked ∧
      asked.length ≤ 10 ∧ Paging.standard.Numbered ⟨content, path, none, none⟩ 0 asked := by
    refine (silent_log _ _).exists_asks_bind hnone fun _ _ => ?_
    obtain ⟨asked, hasked, hpages⟩ := Paging.exists_asks_analyze Paging.standard service
      ⟨content, path, none, none⟩ s
    refine ⟨asked, hasked.bind_silent fun a => ?_, hpages⟩
    exact (silent_log _ _).bind fun _ => silent_pure _
  cases requested with
  | false => exact hasks
  | true => exact (silent_pause _).exists_asks_bind hnone fun _ _ => hasks

/-- **The files are heard one after another,** as far as the review gets. -/
theorem exists_asks_gather (r : Reviewer σ) (service : Service σ) (left : Nat) (requested : Bool)
    (paths : List String) (s : σ) :
    ∃ asked, (r.gather service left requested paths).Asks service s asked ∧
      ∃ hearings, asked = hearings.flatMap Hearing.prompts ∧ r.Held service s hearings ∧
        (hearings.map Hearing.path).Sublist (paths.take left) := by
  have hnone (s : σ) (paths : List String) :
      ∃ hearings, [] = hearings.flatMap Hearing.prompts ∧ r.Held service s hearings ∧
        (hearings.map Hearing.path).Sublist paths :=
    ⟨[], rfl, .nil s, List.nil_sublist paths⟩
  induction paths generalizing left requested s with
  | nil => exact ⟨[], by cases left <;> exact (silent_pure _).asks, hnone s _⟩
  | cons path paths ih =>
    cases left with
    | zero => exact ⟨[], ((silent_log _ _).bind fun _ => silent_pure _).asks, hnone s _⟩
    | succ left =>
      rw [List.take_succ_cons]
      refine (r.silent_suitableText path).exists_asks_bind (hnone s _) fun text htext => ?_
      cases text with
      | none =>
        obtain ⟨asked, hasked, hearings, hall, hheld, hpaths⟩ := ih left requested s
        exact ⟨asked, hasked, hearings, hall, hheld, hpaths.cons path⟩
      | some content =>
        obtain ⟨hread, hshort⟩ := of_result_suitableText htext
        obtain ⟨asked, hasked, hlength, hnumbered⟩ :=
          r.exists_asks_askAbout service requested path content s
        have hsuits : r.Suits s ⟨path, content, asked⟩ := ⟨hread, hshort, hlength, hnumbered⟩
        -- even if this hearing ends the review, it was held
        refine Run.exists_asks_bind hasked ⟨[⟨path, content, asked⟩], (List.append_nil asked).symm,
          .cons hsuits (.nil _), (List.nil_sublist _).cons_cons path⟩ fun first _ => ?_
        obtain ⟨rest, hrest, hearings, hall, hheld, hpaths⟩ :=
          ih left true (service.after s asked)
        refine ⟨rest, hrest.bind_silent fun _ => silent_pure _, ⟨path, content, asked⟩ :: hearings,
          ?_, .cons hsuits hheld, hpaths.cons_cons path⟩
        rw [hall, List.flatMap_cons]

/-! ## The whole review

The files are those that the review itself discovers; if it cannot list them there are none. -/

/-- What a review may ask about these files, from a state on: hearings about some of the first
ones, and then one prompt about the architecture. -/
structure MayAsk (r : Reviewer σ) (service : Service σ) (s : σ) (paths : List String)
    (hearings : List Hearing) (overview : List String) : Prop where
  held : r.Held service s hearings
  listed : (hearings.map Hearing.path).Sublist (paths.take r.settings.maxServiceFiles)
  once : overview.length ≤ 1
  architecture : ∀ prompt ∈ overview, ∃ files, prompt = Prompt.architecture files none

omit [Text.Spare] in
theorem mayAsk_nil (r : Reviewer σ) (service : Service σ) (s : σ) (paths : List String) :
    r.MayAsk service s paths [] [] where
  held := .nil s
  listed := List.nil_sublist _
  once := Nat.zero_le 1
  architecture := fun _ h => absurd h List.not_mem_nil

omit [Text.Spare] in
/-- Ten prompts for each of the first files. -/
theorem MayAsk.length_le {paths overview : List String} {hearings : List Hearing}
    (h : r.MayAsk service s paths hearings overview) :
    (hearings.flatMap Hearing.prompts).length
      ≤ 10 * min r.settings.maxServiceFiles paths.length := by
  have hheld := h.held.length_le
  have hlisted := h.listed.length_le
  rw [List.length_map, List.length_take] at hlisted
  omega

theorem exists_asks_addByService (hr : r.service = some service) (mode : Mode)
    (paths : List String) (byRules : List Finding) (s : σ) :
    ∃ asked, (r.addByService mode paths byRules).Asks service s asked ∧
      ∃ hearings, asked = hearings.flatMap Hearing.prompts ∧ r.MayAsk service s paths hearings [] := by
  rw [addByService, hr]
  split
  · obtain ⟨asked, hasked, hearings, hall, hheld, hlisted⟩ :=
      r.exists_asks_gather service r.settings.maxServiceFiles false paths s
    exact ⟨asked, hasked.bind_silent fun _ => silent_pure _, hearings, hall, hheld, hlisted,
      Nat.zero_le 1, fun _ h => absurd h List.not_mem_nil⟩
  · exact ⟨[], (silent_pure _).asks, [], rfl, r.mayAsk_nil service s paths⟩

/-- **At most one prompt** is asked for the review of the architecture. -/
theorem exists_asks_overview (hr : r.service = some service) (paths : List String) (s : σ) :
    ∃ asked, (r.overview paths).Asks service s asked ∧ asked.length ≤ 1 ∧
      ∀ prompt ∈ asked, ∃ files, prompt = Prompt.architecture files none := by
  have hnone : ([] : List String).length ≤ 1 ∧
      ∀ prompt ∈ ([] : List String), ∃ files, prompt = Prompt.architecture files none :=
    ⟨Nat.zero_le 1, fun _ h => absurd h List.not_mem_nil⟩
  rw [overview, hr]
  dsimp only
  split
  · have hpass : ∃ asked, (r.architecturePass service paths).Asks service s asked ∧
        asked.length ≤ 1 ∧ ∀ prompt ∈ asked, ∃ files, prompt = Prompt.architecture files none := by
      refine (r.silent_readable _).exists_asks_bind hnone fun files _ => ?_
      refine ⟨_, (asks_reviewArchitecture service files none s).bind_silent fun a => ?_,
        Nat.le_refl 1, fun prompt h => ⟨files, List.mem_singleton.1 h⟩⟩
      exact (silent_log _ _).bind fun _ => silent_pure _
    obtain ⟨asked, hasked, hprompts⟩ := hpass
    exact ⟨asked, hasked.bind_silent fun _ => silent_pure _, hprompts⟩
  · exact ⟨[], (silent_pure _).asks, hnone⟩

/-- **A review with a service** holds its hearings and asks about the architecture in the end. -/
theorem exists_asks_review (hr : r.service = some service) (root : String) (mode : Option Mode)
    (timestamp : String) (s : σ) :
    ∃ asked, (r.review root mode timestamp).Asks service s asked ∧
      ∃ hearings overview, asked = hearings.flatMap Hearing.prompts ++ overview ∧
        r.MayAsk service s ((r.discover root s).result.toOption.getD []) hearings overview := by
  have hnone (paths : List String) : ∃ hearings overview,
      [] = hearings.flatMap Hearing.prompts ++ overview ∧
        r.MayAsk service s paths hearings overview :=
    ⟨[], [], rfl, r.mayAsk_nil service s paths⟩
  refine (silent_log _ _).exists_asks_bind (hnone _) fun _ _ => ?_
  refine (silent_discover _ _ _ _).exists_asks_bind (hnone _) fun paths hpaths => ?_
  have hlisted : (r.discover root s).result.toOption.getD [] = paths :=
    congrArg (fun found => found.toOption.getD []) hpaths
  rw [hlisted]
  refine (silent_log _ _).exists_asks_bind (hnone paths) fun _ _ => ?_
  have hfinds : ∃ asked, (r.findIn (mode.getD r.settings.mode) paths).Asks service s asked ∧
      ∃ hearings, asked = hearings.flatMap Hearing.prompts ∧
        r.MayAsk service s paths hearings [] := by
    refine (r.silent_findByRules _ paths).exists_asks_bind ?_ fun byRules _ => ?_
    · exact ⟨[], rfl, r.mayAsk_nil service s paths⟩
    · exact exists_asks_addByService hr _ paths byRules s
  obtain ⟨asked, hasked, hearings, rfl, hmay⟩ := hfinds
  refine Run.exists_asks_bind hasked ⟨hearings, [], (List.append_nil _).symm, hmay⟩ fun found _ => ?_
  obtain ⟨overview, hoverview, honce, harchitecture⟩ := exists_asks_overview hr paths
    (service.after s (hearings.flatMap Hearing.prompts))
  exact ⟨overview, hoverview.bind_silent fun _ => silent_pure _, hearings, overview, rfl, hmay.held,
    hmay.listed, honce, harchitecture⟩

/-- Without a service nothing is asked. -/
theorem silent_review (hr : r.service = none) (root : String) (mode : Option Mode)
    (timestamp : String) : Silent (r.review root mode timestamp) := by
  have hadds (mode : Mode) (paths : List String) (byRules : List Finding) :
      Silent (r.addByService mode paths byRules) := by
    rw [addByService, hr]
    split
    · exact (silent_log _ _).bind fun _ => silent_pure _
    · exact silent_pure _
  have hoverview (paths : List String) : Silent (r.overview paths) := by
    rw [overview, hr]
    exact silent_pure none
  refine (silent_log _ _).bind fun _ => (silent_discover _ _ _ _).bind fun paths => ?_
  refine (silent_log _ _).bind fun _ => Silent.bind ?_ fun found => ?_
  · exact (r.silent_findByRules _ paths).bind fun byRules => hadds _ paths byRules
  · exact (hoverview paths).bind fun _ => silent_pure _

/-- What is sent is what is asked of a service that is present. -/
theorem exists_prompts_review (r : Reviewer σ) (root : String) (mode : Option Mode)
    (timestamp : String) (s : σ) :
    (r.review root mode timestamp s).prompts = [] ∨
      ∃ service ∈ r.service, ∃ hearings overview,
        (r.review root mode timestamp s).prompts
          = hearings.flatMap Hearing.prompts ++ overview ∧
        r.MayAsk service s ((r.discover root s).result.toOption.getD []) hearings overview := by
  cases hr : r.service with
  | none => exact .inl (silent_review hr root mode timestamp s).2
  | some service =>
    obtain ⟨asked, hasked, hearings, overview, rfl, hmay⟩ :=
      exists_asks_review hr root mode timestamp s
    have hprompts := hasked.prompts
    split at hprompts
    · exact .inr ⟨service, rfl, hearings, overview, hprompts, hmay⟩
    · exact .inl hprompts

/-- **The budget of a review.**  Whatever the service does, the prompts of a review are those of one
hearing after another and at most one more about the architecture.  There are ten at most for each
file that may be shown to the service.  The hearings are about some of the first files, in
their order; each asks for pages of the text that its file has then, which is not too long. -/
theorem prompts_review {disk : σ → Disk} (hstorage : r.storage.MayRefuse disk) (root : String)
    (mode : Option Mode) (timestamp : String) (s : σ) :
    ∃ paths hearings overview,
      paths = ((disk s).discover root r.extensions r.settings.maxFileBytes).toOption.getD [] ∧
      (r.review root mode timestamp s).prompts
        = hearings.flatMap Hearing.prompts ++ overview ∧
      (hearings.flatMap Hearing.prompts).length
        ≤ 10 * min r.settings.maxServiceFiles paths.length ∧
      overview.length ≤ 1 ∧
      (∀ prompt ∈ overview, ∃ files, prompt = Prompt.architecture files none) ∧
      (hearings.map Hearing.path).Sublist (paths.take r.settings.maxServiceFiles) ∧
      (hearings.map Hearing.path).Pairwise (· < ·) ∧
      (hearings = [] ∨ ∃ service ∈ r.service, r.Held service s hearings) := by
  have hfound : (r.discover root s).result.toOption.getD []
      = ((disk s).discover root r.extensions r.settings.maxFileBytes).toOption.getD [] :=
    congrArg (fun found => found.toOption.getD []) (hstorage.discover _ _ _ s)
  have hordered : (((disk s).discover root r.extensions r.settings.maxFileBytes).toOption.getD
      []).Pairwise (· < ·) := by
    cases hpaths : (disk s).discover root r.extensions r.settings.maxFileBytes with
    | error f => exact List.Pairwise.nil
    | ok paths => exact Disk.pairwise_of_discover hpaths
  rcases r.exists_prompts_review root mode timestamp s with
    hnothing | ⟨service, hservice, hearings, overview, hprompts, hmay⟩
  · exact ⟨_, [], [], rfl, hnothing, Nat.zero_le _, Nat.zero_le 1,
      fun _ h => absurd h List.not_mem_nil, List.nil_sublist _, List.Pairwise.nil, .inl rfl⟩
  · rw [hfound] at hmay
    exact ⟨_, hearings, overview, rfl, hprompts, hmay.length_le, hmay.once, hmay.architecture,
      hmay.listed, hordered.sublist (hmay.listed.trans (List.take_sublist _ _)),
      .inr ⟨service, hservice, hmay.held⟩⟩

omit [Text.Spare] in
/-- Two files, of which one may be shown to a service that always claims to have more to say: it is
the first one, and there are ten prompts for it at most. -/
theorem prompts_review_two_files :
    letI : Text.Spare := ⟨0⟩
    let reply := "\x7b\"issues\": [], \"hasMore\": true\x7d"
    let r : Reviewer Disk := ⟨⟨.hybrid, 1, 50000, 1000000, ReviewSettings.defaultDelay, true⟩,
      some (.always reply), .ofDisk id fun d _ => d, Disk.defaultExtensions⟩
    ∃ (hearings : List Hearing) (overview : List String),
      (r.review "/w" none "2024-01-01" Disk.twoFiles).prompts
        = hearings.flatMap Hearing.prompts ++ overview ∧
      (hearings.flatMap Hearing.prompts).length ≤ 10 ∧ overview.length ≤ 1 ∧
      (hearings.map Hearing.path).Sublist ["/w/a.js"] := by
  let : Text.Spare := ⟨0⟩
  intro reply r
  have hstorage : r.storage.MayRefuse id := .ofDisk_id
  obtain ⟨paths, hearings, overview, hlisted, hprompts, hlength, honce, -, hfirst, -⟩ :=
    prompts_review hstorage "/w" none "2024-01-01" Disk.twoFiles
  have hpaths : (id Disk.twoFiles).discover "/w" r.extensions r.settings.maxFileBytes
      = .ok ["/w/a.js", "/w/b.js"] := Disk.discover_twoFiles
  rw [hpaths] at hlisted
  subst hlisted
  exact ⟨hearings, overview, hprompts, hlength, honce, hfirst⟩

end Reviewer
end CodeReview
