import CodeReview.Session.Pause
import CodeReview.Session.Service

/-!
# Dialogues

What a run asks of a service and what comes back is its dialogue: a list of exchanges in the order
in which they were made.  What comes back may depend on all that was asked before, so a list of
exchanges is not by itself something that a service would answer.  It is a dialogue with a service
from some state on (`Service.Answers`) if each exchange is what the service does in the state that
the one before it left.

A run that does nothing but ask, log and wait is described in full by its dialogue and its result,
and this is what `Run.Converses` says: the result, the state at the end, the prompts in order, the
answers among the events, and that no file was written.  Such runs are put together link by link
(`Run.Converses.bind`), with their dialogues one behind the other, so that a statement about a long
run is assembled from statements about its links and the run itself is never unfolded.

A service that is absent is asked nothing, but the run goes on as if every request had failed.  The
prompts are therefore those of the dialogue only if the service is present.
-/

set_option autoImplicit false

namespace CodeReview

/-- A prompt, and what came back for it. -/
structure Exchange where
  prompt : String
  answer : Except Fault String

/-- Asked these prompts one after another, the service answers so and goes from the first state to
the last. -/
inductive Service.Answers {σ : Type} (service : Service σ) : σ → List Exchange → σ → Prop where
  | nil (s : σ) : Answers service s [] s
  | cons {s s' : σ} {prompt : String} {rest : List Exchange}
      (h : Answers service (service.reply prompt s).state rest s') :
      Answers service s (⟨prompt, (service.reply prompt s).result⟩ :: rest) s'

/-- The event is an attempt to change a file. -/
def Event.isWrite : Event → Bool
  | .wrote _ _ => true
  | .unwritten _ _ => true
  | _ => false

/-- The prompt that was sent. -/
def Event.prompt? : Event → Option String
  | .asked prompt => some prompt
  | _ => none

variable {σ α β : Type} {service : Service σ} {s s' s'' : σ}

theorem Outcome.prompts_eq (o : Outcome σ α) : o.prompts = o.events.filterMap Event.prompt? := by
  refine congrFun (congrArg _ (funext fun e => ?_)) _
  cases e <;> rfl

theorem filterMap_prompt?_logged (lines : List LogLine) :
    (lines.map Event.logged).filterMap Event.prompt? = [] := by
  rw [List.filterMap_map]
  exact List.filterMap_eq_nil_iff.2 fun _ _ => rfl

/-! ## What a service answers

Dialogues are joined where the state is the same. -/

namespace Service.Answers

variable {before behind : List Exchange}

theorem append (h : service.Answers s before s') (h' : service.Answers s' behind s'') :
    service.Answers s (before ++ behind) s'' := by
  induction h with
  | nil s => exact h'
  | cons _ ih => exact .cons (ih h')

theorem single (prompt : String) (s : σ) :
    service.Answers s [⟨prompt, (service.reply prompt s).result⟩] (service.reply prompt s).state :=
  .cons (.nil _)

/-- What the service never changes is the same at the end of a dialogue. -/
theorem preserves {τ : Type} {part : σ → τ}
    (hpart : ∀ prompt s, part (service.reply prompt s).state = part s)
    (h : service.Answers s before s') : part s' = part s := by
  induction h with
  | nil s => rfl
  | cons _ ih => rw [ih, hpart]

end Service.Answers

/-! ## Runs that only ask

One lemma for each kind of link.  Those that ask nothing have the empty dialogue, and are joined
without a change to it (`Run.Converses.bind_silent`). -/

/-- From a state the run holds this dialogue, does nothing else that matters, and ends with this
result in this state. -/
structure Run.Converses (x : Run σ α) (service : Service σ) (s : σ) (dialogue : List Exchange)
    (a : α) (s' : σ) : Prop where
  result : (x s).result = .ok a
  state : (x s).state = s'
  answers : service.Answers s dialogue s'
  prompts : (x s).prompts = if service.isPresent then dialogue.map Exchange.prompt else []
  answered : ∀ e ∈ dialogue, ∀ reply, e.answer = .ok reply →
    .answered e.prompt reply ∈ (x s).events
  quiet : ∀ e ∈ (x s).events, e.isWrite = false

namespace Run

/-- A run that asks nothing. -/
theorem converses_of_silent {x : Run σ α} {a : α} (hresult : (x s).result = .ok a)
    (hstate : (x s).state = s) (hprompts : (x s).prompts = [])
    (hquiet : ∀ e ∈ (x s).events, e.isWrite = false) : x.Converses service s [] a s where
  result := hresult
  state := hstate
  answers := .nil s
  prompts := by rw [hprompts, List.map_nil, ite_self]
  answered := fun _ he => absurd he List.not_mem_nil
  quiet := hquiet

/-- A run that does nothing but have a result. -/
theorem converses_of_apply {x : Run σ α} {a : α} (h : x s = ⟨[], s, .ok a⟩) :
    x.Converses service s [] a s := by
  refine converses_of_silent ?_ ?_ ?_ ?_
  · rw [h]
  · rw [h]
  · rw [h]
    rfl
  · rw [h]
    exact fun _ he => absurd he List.not_mem_nil

theorem converses_pure (a : α) : (pure a : Run σ α).Converses service s [] a s :=
  converses_of_silent rfl rfl rfl fun _ he => absurd he List.not_mem_nil

theorem converses_log (level : Level) (text : String) :
    (log level text : Run σ Unit).Converses service s [] () s := by
  refine converses_of_silent rfl rfl rfl fun e he => ?_
  obtain rfl := List.mem_singleton.1 he
  rfl

theorem converses_pause {seconds : Double} (h : isNegative seconds = false) :
    (pause seconds : Run σ Unit).Converses service s [] () s := by
  rw [pause, if_neg (by simp [h])]
  split
  · exact converses_pure ()
  · refine converses_of_silent rfl rfl rfl fun e he => ?_
    obtain rfl := List.mem_singleton.1 he
    rfl

theorem events_ofReading [Text.Spare] (r : Reply.Reading α) (s : σ) :
    (ofReading r s).events
      = (r.notices.map fun n => LogLine.mk .warning n.message).map .logged := by
  rw [List.map_map]
  rfl

theorem prompts_ofReading [Text.Spare] (r : Reply.Reading α) (s : σ) :
    (ofReading r s).prompts = [] := by
  rw [Outcome.prompts_eq, events_ofReading, filterMap_prompt?_logged]

theorem quiet_ofReading [Text.Spare] (r : Reply.Reading α) (s : σ) :
    ∀ e ∈ (ofReading r s).events, e.isWrite = false := by
  intro e he
  rw [events_ofReading] at he
  obtain ⟨line, -, rfl⟩ := List.mem_map.1 he
  rfl

theorem converses_ofReading [Text.Spare] {r : Reply.Reading α} {a : α} (h : r.result = .ok a) :
    (ofReading r : Run σ α).Converses service s [] a s :=
  converses_of_silent h rfl (prompts_ofReading r s) (quiet_ofReading r s)

theorem converses_attempt_ofReading [Text.Spare] (r : Reply.Reading α) :
    (ofReading r : Run σ α).attempt.Converses service s [] r.result s :=
  converses_of_silent rfl rfl (prompts_ofReading r s) (quiet_ofReading r s)

/-- A request, whatever comes back. -/
theorem converses_attempt_ask (service : Service σ) (prompt : String) (s : σ) :
    (ask service prompt).attempt.Converses service s
      [⟨prompt, (service.reply prompt s).result⟩] (service.reply prompt s).result
      (service.reply prompt s).state where
  result := rfl
  state := rfl
  answers := .single prompt s
  prompts := by
    have hanswered : ((service.reply prompt s).result.toOption.toList.map fun reply =>
        Event.answered prompt reply).filterMap Event.prompt? = [] := by
      rw [List.filterMap_map]
      exact List.filterMap_eq_nil_iff.2 fun _ _ => rfl
    rw [Outcome.prompts_eq]
    show List.filterMap _ (_ ++ _ ++ _) = _
    rw [List.filterMap_append, List.filterMap_append, hanswered, filterMap_prompt?_logged]
    split <;> rfl
  answered := by
    intro e he reply hreply
    obtain rfl := List.mem_singleton.1 he
    have hanswer : (service.reply prompt s).result = .ok reply := hreply
    show _ ∈ _ ++ List.map _ _
    rw [hanswer]
    exact List.mem_append_right _ List.mem_cons_self
  quiet := by
    intro e he
    rcases List.mem_append.1 he with he | he
    · rcases List.mem_append.1 he with he | he
      · split at he
        · obtain rfl := List.mem_singleton.1 he
          rfl
        · cases he
      · obtain ⟨line, -, rfl⟩ := List.mem_map.1 he
        rfl
    · obtain ⟨reply, -, rfl⟩ := List.mem_map.1 he
      rfl

namespace Converses

variable {x : Run σ α} {k : α → Run σ β} {a : α} {b : β} {before behind : List Exchange}

/-- **One run after another** holds one dialogue after another. -/
theorem bind (hx : x.Converses service s before a s')
    (hk : (k a).Converses service s' behind b s'') :
    (x >>= k).Converses service s (before ++ behind) b s'' := by
  have happly : (x >>= k) s
      = ⟨(x s).events ++ (k a s').events, (k a s').state, (k a s').result⟩ := by
    rw [bind_apply_ok hx.result, hx.state]
  refine ⟨?_, ?_, hx.answers.append hk.answers, ?_, ?_, ?_⟩
  · rw [happly, hk.result]
  · rw [happly, hk.state]
  · rw [happly, Outcome.prompts_eq, List.filterMap_append, ← Outcome.prompts_eq,
      ← Outcome.prompts_eq, hx.prompts, hk.prompts, List.map_append]
    split <;> rfl
  · intro e he reply hreply
    rw [happly]
    rcases List.mem_append.1 he with he | he
    · exact List.mem_append_left _ (hx.answered e he reply hreply)
    · exact List.mem_append_right _ (hk.answered e he reply hreply)
  · intro e he
    rw [happly] at he
    exact (List.mem_append.1 he).elim (hx.quiet e) (hk.quiet e)

/-- Nothing is asked by the second run. -/
theorem bind_silent (hx : x.Converses service s before a s')
    (hk : (k a).Converses service s' [] b s'') : (x >>= k).Converses service s before b s'' :=
  List.append_nil before ▸ hx.bind hk

theorem log_bind {level : Level} {text : String} (hx : x.Converses service s before a s') :
    (log level text >>= fun _ => x).Converses service s before a s' :=
  (converses_log level text).bind hx

end Converses

theorem events_subset_log_bind (level : Level) (text : String) (x : Run σ α) :
    (x s).events ⊆ ((log level text >>= fun _ => x) s).events :=
  events_subset_bind_right (x := log level text) (k := fun _ => x) (s := s) (a := ()) rfl

theorem bind_pure (x : Run σ α) : (x >>= fun a => pure a) = x := by
  funext s
  cases hx : (x s).result with
  | error f => rw [bind_apply_error hx, ← hx]
  | ok a => rw [bind_apply_ok hx, pure_apply, List.append_nil, ← hx]

/-- A chain is attempted by attempting its links, as long as there is a result to go on with. -/
theorem attempt_bind (x : Run σ α) (k : α → Run σ β) :
    (x >>= k).attempt = x.attempt >>= fun r =>
      match r with
      | .error e => pure (.error e)
      | .ok a => (k a).attempt := by
  funext s
  rw [attempt_apply, bind_apply_ok (a := (x s).result) rfl]
  cases hx : (x s).result with
  | error e =>
    rw [bind_apply_error hx]
    show _ = Outcome.mk ((x s).events ++ []) _ _
    rw [List.append_nil]
    rfl
  | ok a =>
    rw [bind_apply_ok hx]
    rfl

end Run
end CodeReview
