import CodeReview.Reply.Notice
import CodeReview.Session.Basic

/-!
# The completion service

All that is asked of a service is a text for a prompt.  It may answer differently each time, fail,
change the world, and log what it does; whatever it does, a run records the prompt before it and
the answer behind it.  Where there is no service (`Service.absent`), no prompt is sent and every
request fails.
-/

set_option autoImplicit false

namespace CodeReview

/-- What a service does with a prompt: the text or its fault, the state it leaves, what it logs. -/
structure Answer (σ : Type) where
  result : Except Fault String
  state : σ
  log : List LogLine

/-- A service that answers prompts; no prompt reaches one that is not present. -/
structure Service (σ : Type) where
  reply : String → σ → Answer σ
  isPresent : Bool := true

/-- What stands where a service should be and none is. -/
def Service.absent {σ : Type} : Service σ where
  reply _ s := ⟨.error .serviceAbsent, s, []⟩
  isPresent := false

namespace Run

variable {σ α : Type}

/-- Send a prompt to the service. -/
def ask (service : Service σ) (prompt : String) : Run σ String := fun s =>
  let a := service.reply prompt s
  let sent := if service.isPresent then [Event.asked prompt] else []
  let answered := a.result.toOption.toList.map fun reply => Event.answered prompt reply
  ⟨sent ++ a.log.map .logged ++ answered, a.state, a.result⟩

/-- Take what was read from a reply; each notice becomes a warning. -/
def ofReading [Text.Spare] (r : Reply.Reading α) : Run σ α := fun s =>
  ⟨r.notices.map fun n => .logged ⟨.warning, n.message⟩, s, r.result⟩

theorem ofReading_state [Text.Spare] (r : Reply.Reading α) (s : σ) :
    (ofReading r s).state = s := rfl

end Run
end CodeReview
