import CodeReview.Proofs.Reply.Limit
import CodeReview.Proofs.Session.Storing
import CodeReview.Prompt.Architecture
import CodeReview.Session.Fixing
import CodeReview.Session.Pause

/-!
# What stops a run

A run has a result or ends in a fault.  For a maintainer the question is which faults there can be,
and the answer should be a list of events and not an account of the code.  Some events stop a run
(`Event.Stops`): a request for findings or for a review of the architecture is answered by a reply
that cannot be read, or a text that has no bytes should be written.  An outcome is
`Outcome.StoppedByEvents` if it is a fault exactly when one of its events stops the run, and the
fault is the one of that event.

It is an equivalence, and both directions are used: nothing else stops a run, and these always do.
The second needs that a run does not go on after such an event, or else the fault would be one of
two.

A text without bytes is nothing a run makes up: one of its events proposed it (`Explained`).  This
is kept along with the rest, because whether a later write can fail so depends on what was proposed
before.

A run is `Run.StoppedByEvents` if both hold from every state.  Chains of such runs are such runs
(`Run.StoppedByEvents.bind`), so a long run is seen to be one link by link.  A request for a fix
stops no run: whatever comes of it is recorded.
## What is here

* `mark` — telling prompts apart;
* `Event.Stops`, `Harmless` — events that stop a run, and lists of events without one;
* `Proposes`, `Explained` — where a text without bytes comes from;
* `stoppedByEvents_attempt_ask_bind`, `stoppedByEvents_answered` — a request, and the reading of
  its answer;
* `stoppedByEvents_surviving_writeText` — a write.
-/

set_option autoImplicit false

namespace CodeReview

/-! ## Telling prompts apart

The event of an answer has the prompt as a text, and what kind of request it was has to be told
from that.  One character is enough, and it is in a part of the prompt that is fixed. -/

namespace Prompt

/-- The character by which the prompts that ask for JSON differ; it is part of who is addressed. -/
def mark (prompt : String) : Option Char := prompt.toList[4]?

theorem mark_append {heading : String} {c : Char} (h : mark heading = some c) (rest : String) :
    mark (heading ++ rest) = some c := by
  rw [mark, String.toList_append, List.getElem?_append_left (List.getElem?_eq_some_iff.1 h).1]
  exact h

theorem mark_page (p : Page) : mark p.prompt = some '代' := by
  unfold Page.prompt
  repeat with_reducible refine mark_append ?_ _
  decide +kernel

theorem mark_architecture (files : List (String × String)) (projectType : Option String) :
    mark (architecture files projectType) = some '软' := by
  unfold architecture
  repeat with_reducible refine mark_append ?_ _
  decide +kernel

theorem mark_fix (content : String) (f : Finding) (context : Option String) :
    mark (fix content f context) = some '开' := by
  unfold fix
  repeat with_reducible refine mark_append ?_ _
  decide +kernel

end Prompt

/-! ## Events that stop a run

An answer stops a run by what it is an answer to, so each constructor names the request. -/

variable [Text.Spare]

/-- The event stops a run, with this fault. -/
inductive Event.Stops : Event → Fault → Prop where
  /-- what should be findings meets a limit of the JSON reader -/
  | findings (page : Prompt.Page) {reply : String} {l : Json.Limit} (h : Reply.MeetsLimit reply l) :
      Stops (.answered page.prompt reply) (.limit l)
  /-- what should be a review of the architecture meets a limit of the JSON reader -/
  | architecture (files : List (String × String)) (projectType : Option String) {reply : String}
      {l : Json.Limit} (h : Reply.MeetsLimit reply l) :
      Stops (.answered (Prompt.architecture files projectType) reply) (.limit l)
  /-- a review of the architecture states a quality beyond binary64 -/
  | score (files : List (String × String)) (projectType : Option String) {reply : String}
      (h : Reply.HasHugeScore reply) :
      Stops (.answered (Prompt.architecture files projectType) reply) .numberTooLarge
  /-- a text without bytes should be written -/
  | text (path : String) (u : Text.Unencodable) :
      Stops (.unwritten path (.unencodable u)) (.disk (.unencodable u))

namespace Event

variable {reply : String} {f : Fault}

theorem stops_findings_iff {page : Prompt.Page} :
    Stops (.answered page.prompt reply) f ↔ ∃ l, f = .limit l ∧ Reply.MeetsLimit reply l := by
  constructor
  · intro h
    generalize hprompt : page.prompt = prompt at h
    have hmark := Prompt.mark_page page
    rw [hprompt] at hmark
    cases h with
    | findings page' h => exact ⟨_, rfl, h⟩
    | architecture files projectType h => simp [Prompt.mark_architecture] at hmark
    | score files projectType h => simp [Prompt.mark_architecture] at hmark
  · rintro ⟨l, rfl, h⟩
    exact .findings page h

theorem stops_architecture_iff {files : List (String × String)} {projectType : Option String} :
    Stops (.answered (Prompt.architecture files projectType) reply) f ↔
      (∃ l, f = .limit l ∧ Reply.MeetsLimit reply l) ∨
        f = .numberTooLarge ∧ Reply.HasHugeScore reply := by
  constructor
  · intro h
    generalize hprompt : Prompt.architecture files projectType = prompt at h
    have hmark := Prompt.mark_architecture files projectType
    rw [hprompt] at hmark
    cases h with
    | findings page h => simp [Prompt.mark_page] at hmark
    | architecture files' projectType' h => exact .inl ⟨_, rfl, h⟩
    | score files' projectType' h => exact .inr ⟨rfl, h⟩
  · rintro (⟨l, rfl, h⟩ | ⟨rfl, h⟩)
    · exact .architecture files projectType h
    · exact .score files projectType h

theorem not_stops_fix {content : String} {finding : Finding} {context : Option String} :
    ¬ Stops (.answered (Prompt.fix content finding context) reply) f := by
  intro h
  generalize hprompt : Prompt.fix content finding context = prompt at h
  have hmark := Prompt.mark_fix content finding context
  rw [hprompt] at hmark
  cases h with
  | findings page h => simp [Prompt.mark_page] at hmark
  | architecture files projectType h => simp [Prompt.mark_architecture] at hmark
  | score files projectType h => simp [Prompt.mark_architecture] at hmark

end Event

/-- It is a fault exactly if one of the events stops the run, and the fault of that event. -/
def Outcome.StoppedByEvents {σ α : Type} (o : Outcome σ α) : Prop :=
  ∀ f, o.result = .error f ↔ ∃ e ∈ o.events, e.Stops f

namespace Run

variable {σ α β : Type}

omit [Text.Spare] in
theorem answered_mem_ask {service : Service σ} {prompt reply : String} {s : σ}
    (h : (ask service prompt s).result = .ok reply) :
    .answered prompt reply ∈ (ask service prompt s).events := by
  have hreply : (service.reply prompt s).result = .ok reply := h
  simp only [ask, hreply]
  exact List.mem_append_right _ List.mem_cons_self

/-! ## Events that stop nothing

Requests, lines of the log and the answers to requests for fixes. -/

/-- No event of these stops a run. -/
def Harmless (events : List Event) : Prop := ∀ e ∈ events, ∀ f, ¬ e.Stops f

theorem harmless_append {before behind : List Event} :
    Harmless (before ++ behind) ↔ Harmless before ∧ Harmless behind :=
  List.forall_mem_append

theorem harmless_nil : Harmless [] := fun _ he => absurd he List.not_mem_nil

theorem harmless_logged (lines : List LogLine) : Harmless (lines.map .logged) := by
  intro e he f h
  obtain ⟨line, -, rfl⟩ := List.mem_map.1 he
  cases h

theorem harmless_sent {service : Service σ} {prompt : String} :
    Harmless (if service.isPresent then [Event.asked prompt] else []) := by
  split
  · intro e he f h
    obtain rfl := List.mem_singleton.1 he
    cases h
  · exact harmless_nil

theorem harmless_ask {service : Service σ} {prompt : String}
    (h : ∀ reply f, ¬ Event.Stops (.answered prompt reply) f) {s : σ} :
    Harmless (ask service prompt s).events := by
  have hanswered : Harmless ((service.reply prompt s).result.toOption.toList.map
      fun reply => Event.answered prompt reply) := by
    intro e he f hstops
    obtain ⟨reply, -, rfl⟩ := List.mem_map.1 he
    exact h reply f hstops
  exact harmless_append.2 ⟨harmless_append.2 ⟨harmless_sent, harmless_logged _⟩, hanswered⟩

theorem harmless_ofReading (read : Reply.Reading α) (s : σ) :
    Harmless (ofReading read s).events := by
  have hlogged := harmless_logged (read.notices.map fun n => ⟨.warning, n.message⟩)
  rwa [List.map_map] at hlogged

theorem harmless_bind {x : Run σ α} {k : α → Run σ β} {s : σ} (hx : Harmless (x s).events)
    (hk : ∀ a, Harmless (k a (x s).state).events) : Harmless ((x >>= k) s).events := by
  cases hresult : (x s).result with
  | error e =>
    rw [bind_apply_error hresult]
    exact hx
  | ok a =>
    rw [bind_apply_ok hresult]
    exact harmless_append.2 ⟨hx, hk a⟩

theorem exists_stops_append {before behind : List Event} (h : Harmless before) {f : Fault} :
    (∃ e ∈ before ++ behind, e.Stops f) ↔ ∃ e ∈ behind, e.Stops f := by
  constructor
  · rintro ⟨e, he, hstops⟩
    rcases List.mem_append.1 he with he | he
    · exact absurd hstops (h e he f)
    · exact ⟨e, he, hstops⟩
  · rintro ⟨e, he, hstops⟩
    exact ⟨e, List.mem_append_right _ he, hstops⟩

/-! ## Where a text comes from

The text is proposed by a reply that is sure enough, since others are not applied. -/

/-- One of these events answers a request for a fix, and the reply is sure enough of this text. -/
def Proposes (events : List Event) (text : String) : Prop :=
  ∃ content finding context reply proposal,
    .answered (Prompt.fix content finding context) reply ∈ events ∧
      (Reply.readProposal reply content).result = .ok proposal ∧ proposal.patched = text ∧
      Fixing.standardThreshold < proposal.confidence

/-- Whenever a text without bytes could not be written, one of the events had proposed it. -/
def Explained (events : List Event) : Prop :=
  ∀ path u, .unwritten path (.unencodable u) ∈ events →
    ∃ text, Text.encode text = .error u ∧ Proposes events text

theorem Proposes.mono {events events' : List Event} {text : String} (h : Proposes events text)
    (hsub : events ⊆ events') : Proposes events' text := by
  obtain ⟨content, finding, context, reply, proposal, hmem, hrest⟩ := h
  exact ⟨content, finding, context, reply, proposal, hsub hmem, hrest⟩

theorem Explained.append {before behind : List Event} (hbefore : Explained before)
    (hbehind : Explained behind) : Explained (before ++ behind) := by
  intro path u h
  rcases List.mem_append.1 h with h | h
  · obtain ⟨text, hu, htext⟩ := hbefore path u h
    exact ⟨text, hu, htext.mono (List.subset_append_left _ _)⟩
  · obtain ⟨text, hu, htext⟩ := hbehind path u h
    exact ⟨text, hu, htext.mono (List.subset_append_right _ _)⟩

theorem explained_of_harmless {events : List Event} (h : Harmless events) : Explained events :=
  fun path u hmem => absurd (.text path u) (h _ hmem _)

/-! ## Runs that are stopped by events alone

For a chain there are two versions.  `stoppedByEvents_bind_apply` is about one state, for links
that are stopped by events only where they are reached. -/

/-- Every outcome of the run is stopped by events, and what could not be written is explained. -/
structure StoppedByEvents (x : Run σ α) : Prop where
  outcome : ∀ s, (x s).StoppedByEvents
  explained : ∀ s, Explained (x s).events

theorem stoppedByEvents_of_result {o : Outcome σ α} {a : α} (hevents : Harmless o.events)
    (ha : o.result = .ok a) : o.StoppedByEvents := by
  intro f
  constructor
  · intro hf
    rw [ha] at hf
    cases hf
  · rintro ⟨e, he, hstops⟩
    exact absurd hstops (hevents e he f)

/-- What is not stopped has a result. -/
theorem exists_result_of_harmless {o : Outcome σ α} (ho : o.StoppedByEvents)
    (hevents : Harmless o.events) : ∃ a, o.result = .ok a := by
  cases hresult : o.result with
  | error f =>
    obtain ⟨e, he, hstops⟩ := (ho f).1 hresult
    exact absurd hstops (hevents e he f)
  | ok a => exact ⟨a, rfl⟩

theorem stoppedByEvents_of_harmless {x : Run σ α}
    (h : ∀ s, Harmless (x s).events ∧ ∃ a, (x s).result = .ok a) : StoppedByEvents x := by
  refine ⟨fun s => ?_, fun s => explained_of_harmless (h s).1⟩
  obtain ⟨hevents, a, ha⟩ := h s
  exact stoppedByEvents_of_result hevents ha

/-- What has a result is harmless so far. -/
theorem harmless_of_result {o : Outcome σ α} (ho : o.StoppedByEvents) {a : α}
    (h : o.result = .ok a) : Harmless o.events := by
  intro e he f hstops
  have hf := (ho f).2 ⟨e, he, hstops⟩
  rw [h] at hf
  cases hf

/-- A chain from one state, whose second link starts where the first one ended. -/
theorem stoppedByEvents_bind_apply {x : Run σ α} {k : α → Run σ β} {s : σ}
    (hx : (x s).StoppedByEvents)
    (hk : ∀ a, (x s).result = .ok a → (k a (x s).state).StoppedByEvents) :
    ((x >>= k) s).StoppedByEvents := by
  intro f
  cases hresult : (x s).result with
  | error g =>
    rw [bind_apply_error hresult, ← hx f, hresult, Except.error.injEq, Except.error.injEq]
  | ok a =>
    rw [bind_apply_ok hresult, exists_stops_append (harmless_of_result hx hresult)]
    exact hk a hresult f

theorem explained_bind_apply {x : Run σ α} {k : α → Run σ β} {s : σ}
    (hx : Explained (x s).events)
    (hk : ∀ a, (x s).result = .ok a → Explained (k a (x s).state).events) :
    Explained ((x >>= k) s).events := by
  cases hresult : (x s).result with
  | error g =>
    rw [bind_apply_error hresult]
    exact hx
  | ok a =>
    rw [bind_apply_ok hresult]
    exact hx.append (hk a hresult)

/-- **One run after another** is stopped by events alone if both are. -/
theorem StoppedByEvents.bind {x : Run σ α} {k : α → Run σ β} (hx : StoppedByEvents x)
    (hk : ∀ a, StoppedByEvents (k a)) : StoppedByEvents (x >>= k) where
  outcome s := stoppedByEvents_bind_apply (hx.outcome s) fun a _ => (hk a).outcome _
  explained s := explained_bind_apply (hx.explained s) fun a _ => (hk a).explained _

theorem stoppedByEvents_pure (a : α) : StoppedByEvents (pure a : Run σ α) :=
  stoppedByEvents_of_harmless fun _ => ⟨harmless_nil, a, rfl⟩

theorem stoppedByEvents_log (level : Level) (text : String) :
    StoppedByEvents (log level text : Run σ Unit) :=
  stoppedByEvents_of_harmless fun _ => ⟨harmless_logged [⟨level, text⟩], (), rfl⟩

theorem StoppedByEvents.log_bind {level : Level} {text : String} {x : Run σ α}
    (hx : StoppedByEvents x) : StoppedByEvents (log level text >>= fun _ => x) :=
  (stoppedByEvents_log level text).bind fun _ => hx

theorem stoppedByEvents_pause {seconds : Double} (h : isNegative seconds = false) :
    StoppedByEvents (pause seconds : Run σ Unit) := by
  rw [pause, if_neg (by simp [h])]
  split
  · exact stoppedByEvents_pure ()
  · refine stoppedByEvents_of_harmless fun s => ⟨fun e he f hstops => ?_, (), rfl⟩
    obtain rfl := List.mem_singleton.1 he
    cases hstops

/-! ## Asking

The event of an answer comes before the reply is read, so the link with it in front is what is
stopped by events; the reading alone is not. -/

variable {service : Service σ} {prompt : String} {storage : Storage σ} {path text : String}

/-- **A request** is stopped by events alone if what follows is, the answer included. -/
theorem stoppedByEvents_attempt_ask_bind {k : Except Fault String → Run σ β}
    (hfail : ∀ e, StoppedByEvents (k (.error e)))
    (hreply : ∀ reply,
      StoppedByEvents (emit (.answered prompt reply) >>= fun _ => k (.ok reply))) :
    StoppedByEvents ((ask service prompt).attempt >>= k) := by
  have hsent (s : σ) : Harmless ((if service.isPresent then [Event.asked prompt] else [])
      ++ (service.reply prompt s).log.map .logged) :=
    harmless_append.2 ⟨harmless_sent, harmless_logged _⟩
  refine ⟨fun s f => ?_, fun s => ?_⟩
  · rw [bind_apply_ok (a := (service.reply prompt s).result) rfl]
    show _ ↔ ∃ e ∈ (_ ++ _ ++ List.map _ _) ++ _, _
    rw [List.append_assoc, exists_stops_append (hsent s)]
    cases (service.reply prompt s).result with
    | error e => exact (hfail e).outcome _ f
    | ok reply => exact (hreply reply).outcome (service.reply prompt s).state f
  · rw [bind_apply_ok (a := (service.reply prompt s).result) rfl]
    show Explained ((_ ++ _ ++ List.map _ _) ++ _)
    rw [List.append_assoc]
    refine (explained_of_harmless (hsent s)).append ?_
    cases (service.reply prompt s).result with
    | error e => exact (hfail e).explained _
    | ok reply => exact (hreply reply).explained (service.reply prompt s).state

/-- An answer that is read: the event of the answer tells whether it can be. -/
theorem stoppedByEvents_answered {read : Reply.Reading α} {reply : String}
    (hread : ∀ f, Event.Stops (.answered prompt reply) f ↔ read.result = .error f) :
    StoppedByEvents (emit (.answered prompt reply) >>= fun _ => ofReading read : Run σ α) := by
  refine ⟨fun s f => ?_, fun s => ?_⟩
  · rw [bind_apply_ok (a := ()) rfl]
    show read.result = .error f ↔ ∃ e ∈ Event.answered prompt reply :: _, _
    rw [← hread f]
    constructor
    · intro h
      exact ⟨_, List.mem_cons_self, h⟩
    · rintro ⟨e, he, hstops⟩
      rcases List.mem_cons.1 he with rfl | he
      · exact hstops
      · exact absurd hstops (harmless_ofReading read s e he f)
  · refine explained_bind_apply ?_ fun _ _ => explained_of_harmless (harmless_ofReading read _)
    intro path u h
    cases List.mem_singleton.1 h

theorem stoppedByEvents_answered_bind {read : Reply.Reading α} {reply : String} {k : α → Run σ β}
    (hread : ∀ f, Event.Stops (.answered prompt reply) f ↔ read.result = .error f)
    (hk : ∀ a, StoppedByEvents (k a)) :
    StoppedByEvents (emit (.answered prompt reply) >>= fun _ => ofReading read >>= k) := by
  rw [← bind_assoc]
  exact (stoppedByEvents_answered hread).bind hk

/-! ## Files

A write that is refused is recorded and survived. -/

theorem stops_unwritten_iff {g : Disk.Fault} {f : Fault} :
    Event.Stops (.unwritten path g) f ↔ ∃ u, g = .unencodable u ∧ f = .disk g := by
  constructor
  · rintro ⟨⟩
    exact ⟨_, rfl, rfl⟩
  · rintro ⟨u, rfl, rfl⟩
    exact .text path u

/-- **A file is written** or has a fault that can be told, unless the text has no bytes. -/
theorem stoppedByEvents_surviving_writeText (hpath : storage.WritesSafely path) (s : σ) :
    ((writeText storage path text).surviving s).StoppedByEvents := by
  rcases hwrite : storage.write path text s with ⟨f | ⟨⟩, s'⟩
  · rcases hpath text s f (congrArg Prod.fst hwrite) with hf | ⟨u, -, rfl⟩
    · rw [surviving_writeText_of_error hwrite hf]
      refine stoppedByEvents_of_result (fun e he g hstops => ?_) rfl
      obtain rfl := List.mem_singleton.1 he
      obtain ⟨u, rfl, -⟩ := stops_unwritten_iff.1 hstops
      cases hf
    · rw [surviving_writeText_of_unencodable hwrite]
      intro g
      simp only [List.mem_singleton, exists_eq_left, stops_unwritten_iff, Except.error.injEq]
      constructor
      · intro h
        exact ⟨u, rfl, h.symm⟩
      · rintro ⟨-, -, h⟩
        exact h.symm
  · rw [surviving_writeText_of_ok hwrite]
    refine stoppedByEvents_of_result (fun e he g hstops => ?_) rfl
    obtain rfl := List.mem_singleton.1 he
    cases hstops

/-- A text that could not be written for want of bytes has none. -/
theorem encode_of_unwritten {s : σ} {path' : String} {u : Text.Unencodable}
    (hpath : storage.WritesSafely path)
    (h : .unwritten path' (.unencodable u) ∈ ((writeText storage path text).surviving s).events) :
    Text.encode text = .error u := by
  rcases hwrite : storage.write path text s with ⟨f | ⟨⟩, s'⟩
  · rcases hpath text s f (congrArg Prod.fst hwrite) with hf | ⟨u', hu, rfl⟩
    · rw [surviving_writeText_of_error hwrite hf] at h
      cases List.mem_singleton.1 h
      cases hf
    · rw [surviving_writeText_of_unencodable hwrite] at h
      cases List.mem_singleton.1 h
      exact hu
  · rw [surviving_writeText_of_ok hwrite] at h
    cases List.mem_singleton.1 h

end Run
end CodeReview
