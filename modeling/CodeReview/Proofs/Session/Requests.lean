import CodeReview.Proofs.Session.Dialogue
import CodeReview.Session.Overview
import CodeReview.Session.Paging
import CodeReview.Session.Storage

/-!
# What a run asks, however it ends

A run may end in a fault at any point, and what it asked until then was asked.  `Run.Converses` is
of no use there, as it is about runs with a result.  `Run.Asks` says less and says it of every run:
what the run asks from a state, and that asking is all it does to the state.  A run that asks
nothing is `Run.Silent`.

Links of a chain are put together whether or not the chain is cut short.  In `exists_asks_bind` the
property `P` of the prompts has to hold of what the first link asked, in case the chain ends there,
and of all that was asked, in case it goes on.  So a bound on what is asked holds against any
service (`Paging.exists_asks_analyze`), also against one whose replies cannot be read.
## What is here

* `Run.Silent`, `Run.Asks` — runs that ask nothing, and what a run asks;
* `Run.exists_asks_bind` — a chain asks what its links ask, as far as it goes;
* `Paging.Numbered`, `Paging.exists_asks_analyze` — the pages of a file, by number and by how many
  there can be.
-/

set_option autoImplicit false

namespace CodeReview

variable {σ α β : Type}

/-- The state in which a service is left when it was asked these prompts. -/
def Service.after (service : Service σ) (s : σ) (asked : List String) : σ :=
  asked.foldl (fun s prompt => (service.reply prompt s).state) s

@[simp] theorem Service.after_nil (service : Service σ) (s : σ) : service.after s [] = s := rfl

@[simp] theorem Service.after_append (service : Service σ) (s : σ) (asked rest : List String) :
    service.after s (asked ++ rest) = service.after (service.after s asked) rest :=
  List.foldl_append

namespace Run

variable {x : Run σ α} {k : α → Run σ β} {service : Service σ} {s : σ} {asked : List String}

theorem prompts_bind_ok {a : α} (h : (x s).result = .ok a) :
    ((x >>= k) s).prompts = (x s).prompts ++ (k a (x s).state).prompts := by
  simp only [Outcome.prompts_eq, bind_apply_ok h, List.filterMap_append]

theorem prompts_bind_error {f : Fault} (h : (x s).result = .error f) :
    ((x >>= k) s).prompts = (x s).prompts := by
  simp only [Outcome.prompts_eq, bind_apply_error h]

/-- Links that send the same are as good as each other. -/
theorem prompts_bind_congr {γ : Type} {k' : α → Run σ γ}
    (hk : ∀ a s, (k a s).prompts = (k' a s).prompts) :
    ((x >>= k) s).prompts = ((x >>= k') s).prompts := by
  cases hresult : (x s).result with
  | error f => rw [prompts_bind_error hresult, prompts_bind_error hresult]
  | ok a => rw [prompts_bind_ok hresult, prompts_bind_ok hresult, hk]

/-! ## Silent runs

Logging, waiting and reading files are silent, and so is every chain of silent runs. -/

/-- The run asks nothing and leaves the state alone. -/
def Silent (x : Run σ α) : Prop := ∀ s, (x s).state = s ∧ (x s).prompts = []

theorem silent_pure (a : α) : Silent (pure a : Run σ α) := fun _ => ⟨rfl, rfl⟩

theorem silent_log (level : Level) (text : String) : Silent (log level text : Run σ Unit) :=
  fun _ => ⟨rfl, rfl⟩

theorem silent_pause (seconds : Double) : Silent (pause seconds : Run σ Unit) := by
  rw [pause]
  split
  · exact fun _ => ⟨rfl, rfl⟩
  · split
    · exact silent_pure ()
    · exact fun _ => ⟨rfl, rfl⟩

theorem silent_discover (storage : Storage σ) (root : String) (extensions : List String)
    (maxBytes : Int) : Silent (discover storage root extensions maxBytes) :=
  fun _ => ⟨rfl, rfl⟩

theorem silent_ofReading [Text.Spare] (read : Reply.Reading α) :
    Silent (ofReading read : Run σ α) :=
  fun s => ⟨rfl, prompts_ofReading read s⟩

theorem Silent.surviving (hx : Silent x) : Silent x.surviving := by
  intro s
  have hboth : (x.surviving s).state = (x s).state ∧ (x.surviving s).events = (x s).events := by
    simp only [Run.surviving]
    split
    · exact ⟨rfl, rfl⟩
    · split <;> exact ⟨rfl, rfl⟩
    · exact ⟨rfl, rfl⟩
  refine ⟨hboth.1.trans (hx s).1, ?_⟩
  rw [Outcome.prompts_eq, hboth.2, ← Outcome.prompts_eq, (hx s).2]

theorem silent_readText (storage : Storage σ) (path : String) :
    Silent (readText storage path).surviving :=
  Silent.surviving fun _ => ⟨rfl, rfl⟩

theorem Silent.bind (hx : Silent x) (hk : ∀ a, Silent (k a)) : Silent (x >>= k) := by
  intro s
  obtain ⟨hstate, hprompts⟩ := hx s
  cases hresult : (x s).result with
  | error f =>
    rw [prompts_bind_error hresult, bind_apply_error hresult]
    exact ⟨hstate, hprompts⟩
  | ok a =>
    obtain ⟨hstate', hprompts'⟩ := hk a (x s).state
    rw [prompts_bind_ok hresult, bind_apply_ok hresult, hprompts, hprompts']
    exact ⟨hstate'.trans hstate, rfl⟩

/-- A silent link at the end sends nothing. -/
theorem prompts_bind_silent (hk : ∀ a, Silent (k a)) :
    ((x >>= k) s).prompts = (x s).prompts := by
  cases hresult : (x s).result with
  | error f => rw [prompts_bind_error hresult]
  | ok a => rw [prompts_bind_ok hresult, (hk a _).2, List.append_nil]

/-- What follows a silent run that has a result starts where that one started. -/
theorem Silent.bind_apply (hx : Silent x) {a : α} (h : (x s).result = .ok a) :
    ((x >>= k) s).prompts = (k a s).prompts ∧ ((x >>= k) s).result = (k a s).result ∧
      ((x >>= k) s).state = (k a s).state := by
  obtain ⟨hstate, hprompts⟩ := hx s
  rw [prompts_bind_ok h, bind_apply_ok h, hprompts, hstate]
  exact ⟨rfl, rfl, rfl⟩

/-! ## Asking

A request asks its prompt whether or not it is answered. -/

/-- From a state the run asks these prompts, and does nothing else to the state. -/
structure Asks (x : Run σ α) (service : Service σ) (s : σ) (asked : List String) : Prop where
  state : (x s).state = service.after s asked
  prompts : (x s).prompts = if service.isPresent then asked else []

theorem Silent.asks (hx : Silent x) : x.Asks service s [] where
  state := (hx s).1
  prompts := by rw [(hx s).2, ite_self]

theorem asks_attempt_ask (service : Service σ) (prompt : String) (s : σ) :
    (ask service prompt).attempt.Asks service s [prompt] where
  state := rfl
  prompts := (converses_attempt_ask service prompt s).prompts

/-- A chain that goes on. -/
theorem Asks.bind_ok {rest : List String} {a : α} (hx : x.Asks service s asked)
    (h : (x s).result = .ok a) (hk : (k a).Asks service (service.after s asked) rest) :
    (x >>= k).Asks service s (asked ++ rest) where
  state := by
    rw [bind_apply_ok h, hx.state, Service.after_append]
    exact hk.state
  prompts := by
    rw [prompts_bind_ok h, hx.prompts, hx.state, hk.prompts]
    split <;> rfl

/-- A chain that is cut short. -/
theorem Asks.bind_error {f : Fault} (hx : x.Asks service s asked)
    (h : (x s).result = .error f) : (x >>= k).Asks service s asked where
  state := by
    rw [bind_apply_error h]
    exact hx.state
  prompts := by rw [prompts_bind_error h, hx.prompts]

/-- **A chain asks what its links ask,** as far as it goes. -/
theorem exists_asks_bind {P : List String → Prop} (hx : x.Asks service s asked) (hstop : P asked)
    (hk : ∀ a, (x s).result = .ok a → ∃ rest, (k a).Asks service (service.after s asked) rest ∧
      P (asked ++ rest)) : ∃ all, (x >>= k).Asks service s all ∧ P all := by
  cases hresult : (x s).result with
  | error f => exact ⟨asked, hx.bind_error hresult, hstop⟩
  | ok a =>
    obtain ⟨rest, hrest, hP⟩ := hk a hresult
    exact ⟨asked ++ rest, hx.bind_ok hresult hrest, hP⟩

/-- The same behind a silent link. -/
theorem Silent.exists_asks_bind {P : List String → Prop} (hx : Silent x) (hstop : P [])
    (hk : ∀ a, (x s).result = .ok a → ∃ rest, (k a).Asks service s rest ∧ P rest) :
    ∃ all, (x >>= k).Asks service s all ∧ P all :=
  Run.exists_asks_bind hx.asks hstop hk

/-- Nothing is asked behind some link. -/
theorem Asks.bind_silent (hx : x.Asks service s asked) (hk : ∀ a, Silent (k a)) :
    (x >>= k).Asks service s asked := by
  obtain ⟨all, hall, rfl⟩ := Run.exists_asks_bind (P := (· = asked)) hx rfl fun a _ =>
    ⟨[], (hk a).asks, List.append_nil asked⟩
  exact hall

end Run

open Run

/-! ## The pages of a file

Pages are numbered from the first one on, which need not be zero within the recursion. -/

namespace Paging

variable {paging : Paging} {subject : Subject} {service : Service σ}

/-- The prompts ask for the pages of a file one after another, the first of which has this
number. -/
def Numbered (paging : Paging) (subject : Subject) (first : Nat) (prompts : List String) : Prop :=
  ∀ (i : Nat) (prompt : String), prompts[i]? = some prompt → ∃ delivered : Nat,
    prompt = Prompt.Page.prompt
      { content := subject.text
        path := subject.path
        chunk := (first + i : Nat)
        delivered := delivered
        pageSize := paging.pageSize
        projectType := subject.projectType
        framework := subject.framework }

theorem numbered_nil (first : Nat) : paging.Numbered subject first [] := by
  intro i prompt h
  cases h

theorem Numbered.cons {first : Nat} {prompts : List String} {p : Progress}
    (hfirst : p.chunks = first) (h : paging.Numbered subject (first + 1) prompts) :
    paging.Numbered subject first ((paging.page subject p).prompt :: prompts) := by
  intro i prompt hi
  cases i with
  | zero =>
    obtain rfl := Option.some.inj hi
    exact ⟨p.analysis.findings.length, by rw [page, hfirst, Nat.add_zero]⟩
  | succ i =>
    obtain ⟨delivered, hprompt⟩ := h i prompt hi
    have hnumber : first + 1 + i = first + (i + 1) := by omega
    exact ⟨delivered, hnumber ▸ hprompt⟩

/-- **Pages are asked for by number,** as many as are allowed at most, whatever the service does. -/
theorem exists_asks_pages [Text.Spare] (paging : Paging) (service : Service σ) (subject : Subject)
    (left : Nat) (p : Progress) (s : σ) :
    ∃ asked, (paging.pages service subject left p).Asks service s asked ∧
      asked.length ≤ left ∧ paging.Numbered subject p.chunks asked := by
  induction left generalizing p s with
  | zero => exact ⟨[], (silent_pure p).asks, Nat.le_refl 0, numbered_nil _⟩
  | succ left ih =>
    have hone : [(paging.page subject p).prompt].length ≤ left + 1 ∧
        paging.Numbered subject p.chunks [(paging.page subject p).prompt] :=
      ⟨by simp, (numbered_nil _).cons rfl⟩
    refine exists_asks_bind (asks_attempt_ask service (paging.page subject p).prompt s) hone ?_
    intro answer _
    cases answer with
    | error e => exact ⟨[], ((silent_log _ _).bind fun _ => silent_pure p).asks, hone⟩
    | ok reply =>
      refine (silent_ofReading (Reply.readAnalysis reply subject.path)).exists_asks_bind hone ?_
      intro page _
      dsimp only
      split
      · exact ⟨[], (silent_pure _).asks, hone⟩
      · refine (silent_log _ _).exists_asks_bind hone fun _ _ => ?_
        obtain ⟨rest, hrest, hlength, hnumbered⟩ := ih (p.add page) _
        refine ⟨rest, hrest, ?_, hnumbered.cons rfl⟩
        rw [List.singleton_append, List.length_cons]
        omega

/-- **What is asked about a file** is at most as many pages as are allowed, counted from zero. -/
theorem exists_asks_analyze [Text.Spare] (paging : Paging) (service : Service σ)
    (subject : Subject) (s : σ) :
    ∃ asked, (paging.analyze service subject).Asks service s asked ∧
      asked.length ≤ paging.maxChunks ∧ paging.Numbered subject 0 asked := by
  obtain ⟨asked, hasked, hlength, hnumbered⟩ :=
    exists_asks_pages paging service subject paging.maxChunks .start s
  refine ⟨asked, hasked.bind_silent fun p => ?_, hlength, hnumbered⟩
  dsimp only
  split
  · exact (silent_log _ _).bind fun _ => silent_pure _
  · exact silent_pure _

end Paging

/-- **One prompt about the architecture** is asked, and no other. -/
theorem asks_reviewArchitecture [Text.Spare] (service : Service σ)
    (files : List (String × String)) (projectType : Option String) (s : σ) :
    (reviewArchitecture service files projectType).Asks service s
      [Prompt.architecture files projectType] := by
  refine (asks_attempt_ask service _ s).bind_silent fun answer => ?_
  cases answer with
  | error e => exact (silent_log _ _).bind fun _ => silent_pure _
  | ok reply => exact silent_ofReading _

end CodeReview
