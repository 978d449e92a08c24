import CodeReview.Session.Pause
import CodeReview.Session.Service
import CodeReview.Session.Storage

/-!
# Runs that depend on nothing but the disk

Many runs give the same result from every state with the same disk, and leave the disk alone
(`Run.Yields`).  Chains of such runs are such runs (`Run.Yields.bind`), so what a chain yields is
known from what its links yield, whatever else is in the state: requests that were made before,
replies still to come.

This is the notion for a review of one file to be compared with a review of many.  The state in
which a file is come to is not the same in the two, as other files were asked about before; but the
disk is, and so a run that yields something yields the same in both.

Asking a service is such a run if the service answers a prompt always alike (`Service.AnswersBy`).
`Service.always` is the simplest of this kind.
-/

set_option autoImplicit false

namespace CodeReview

variable {σ α β : Type} {disk : σ → Disk} {d : Disk}

/-- The service answers a prompt always alike, and leaves the disk alone. -/
structure Service.AnswersBy (service : Service σ) (disk : σ → Disk)
    (answer : String → Except Fault String) : Prop where
  result : ∀ prompt s, (service.reply prompt s).result = answer prompt
  disk : ∀ prompt s, disk (service.reply prompt s).state = disk s

/-- The service that has one reply to every prompt. -/
def Service.always (reply : String) : Service σ := ⟨fun _ s => ⟨.ok reply, s, []⟩, true⟩

theorem Service.answersBy_always (disk : σ → Disk) (reply : String) :
    (Service.always reply).AnswersBy disk fun _ => .ok reply := ⟨fun _ _ => rfl, fun _ _ => rfl⟩

namespace Run

/-- From every state with this disk the run has this result, and it leaves the disk as it is. -/
def Yields (disk : σ → Disk) (d : Disk) (x : Run σ α) (a : α) : Prop :=
  ∀ s, disk s = d → (x s).result = .ok a ∧ disk (x s).state = d

theorem yields_pure (a : α) : Yields disk d (pure a) a := fun _ hs => ⟨rfl, hs⟩

theorem yields_emit (e : Event) : Yields disk d (emit e) () := fun _ hs => ⟨rfl, hs⟩

theorem yields_log (level : Level) (text : String) : Yields disk d (log level text) () :=
  yields_emit _

/-- **One run after another** yields what the second one yields. -/
theorem Yields.bind {x : Run σ α} {f : α → Run σ β} {a : α} {b : β} (hx : Yields disk d x a)
    (hf : Yields disk d (f a) b) : Yields disk d (x >>= f) b := by
  intro s hs
  obtain ⟨hresult, hdisk⟩ := hx s hs
  rw [bind_apply_ok hresult]
  exact hf _ hdisk

theorem Yields.log_bind {level : Level} {text : String} {x : Run σ α} {a : α}
    (hx : Yields disk d x a) : Yields disk d (log level text >>= fun _ => x) a :=
  (yields_log level text).bind hx

theorem yields_ofReading [Text.Spare] {r : Reply.Reading α} {a : α} (h : r.result = .ok a) :
    Yields disk d (ofReading r) a := fun _ hs => ⟨h, hs⟩

theorem yields_pause {seconds : Double} (h : isNegative seconds = false) :
    Yields disk d (pause seconds) () := by
  rw [pause, if_neg (by simp [h])]
  split
  · exact yields_pure ()
  · exact yields_emit _

/-- What a run yields is its result from every state with the disk. -/
theorem Yields.result_eq {x : Run σ α} {a : α} (h : Yields disk d x a) {s : σ} (hs : disk s = d) :
    (x s).result = .ok a := (h s hs).1

/-! ## Asking

A service that is absent is one whose requests all fail. -/

/-- A request yields the answer, or the fault in its place. -/
theorem yields_attempt_ask {service : Service σ} {answer : String → Except Fault String}
    (h : service.AnswersBy disk answer) (prompt : String) :
    Yields disk d (ask service prompt).attempt (answer prompt) := by
  intro s hs
  rw [attempt_apply]
  refine ⟨congrArg Except.ok (h.result prompt s), ?_⟩
  show disk (service.reply prompt s).state = d
  rw [h.disk, hs]

end Run
end CodeReview
