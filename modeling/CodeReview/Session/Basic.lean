import CodeReview.Fault
import CodeReview.Number.Double

/-!
# Runs

An operation that asks a service or uses a disk is a `Run`: from the state of the world it makes an
`Outcome`, which is what happened on the way (`Event`), the state it leaves, and a result or the
fault that ended it.  The state can be of any type; who gives the service and the disk chooses it.

Events are kept in one list, in the order in which they happened, so that it can be said which
request came before which write.  A fault that ends a run takes none of them back.
-/

set_option autoImplicit false

namespace CodeReview

/-- How much a line of the log matters. -/
inductive Level where
  | info
  | warning
  | error
  deriving Repr, DecidableEq, Inhabited

/-- The word for a level. -/
def Level.word : Level → String
  | info => "INFO"
  | warning => "WARNING"
  | error => "ERROR"

/-- A line of the log. -/
structure LogLine where
  level : Level
  text : String
  deriving Repr, DecidableEq, Inhabited

/-- Something that happened in a run. -/
inductive Event where
  /-- a line was logged -/
  | logged (line : LogLine)
  /-- the completion service was sent this prompt -/
  | asked (prompt : String)
  /-- the completion service answered this prompt with this text -/
  | answered (prompt reply : String)
  /-- the file at this path was written with this text -/
  | wrote (path text : String)
  /-- the file at this path could not be written -/
  | unwritten (path : String) (f : Disk.Fault)
  /-- the run waited this many seconds -/
  | waited (seconds : Double)
  deriving Repr, DecidableEq, Inhabited

/-- What a run leaves behind. -/
structure Outcome (σ α : Type) where
  events : List Event
  state : σ
  result : Except Fault α

/-- The lines logged. -/
def Outcome.log {σ α : Type} (o : Outcome σ α) : List LogLine :=
  o.events.filterMap fun
    | .logged line => some line
    | _ => none

/-- The prompts sent. -/
def Outcome.prompts {σ α : Type} (o : Outcome σ α) : List String :=
  o.events.filterMap fun
    | .asked prompt => some prompt
    | _ => none

/-- An operation in a world with states `σ`. -/
def Run (σ α : Type) := σ → Outcome σ α

namespace Run

variable {σ α β : Type}

/-- One run after another, if the first has a result. -/
def bind (x : Run σ α) (f : α → Run σ β) : Run σ β := fun s =>
  let o := x s
  match o.result with
  | .error e => ⟨o.events, o.state, .error e⟩
  | .ok a =>
    let o' := f a o.state
    ⟨o.events ++ o'.events, o'.state, o'.result⟩

instance : Monad (Run σ) where
  pure a := fun s => ⟨[], s, .ok a⟩
  bind := bind

/-- End the run. -/
def fail (e : Fault) : Run σ α := fun s => ⟨[], s, .error e⟩

/-- A result that was found without the world. -/
def ofExcept (r : Except Fault α) : Run σ α := fun s => ⟨[], s, r⟩

/-- Let something happen. -/
def emit (e : Event) : Run σ Unit := fun s => ⟨[e], s, .ok ()⟩

/-- Log a line. -/
def log (level : Level) (text : String) : Run σ Unit := emit (.logged ⟨level, text⟩)

/-- A run whose fault is part of its result. -/
def attempt (x : Run σ α) : Run σ (Except Fault α) := fun s =>
  let o := x s
  ⟨o.events, o.state, .ok o.result⟩

/-! ## What a run does, step by step -/

theorem pure_apply (a : α) (s : σ) : (pure a : Run σ α) s = ⟨[], s, .ok a⟩ := rfl

theorem bind_apply_ok {x : Run σ α} {f : α → Run σ β} {s : σ} {a : α}
    (h : (x s).result = .ok a) :
    (x >>= f) s = ⟨(x s).events ++ (f a (x s).state).events, (f a (x s).state).state,
      (f a (x s).state).result⟩ := by
  show bind x f s = _
  simp only [bind, h]

theorem bind_apply_error {x : Run σ α} {f : α → Run σ β} {s : σ} {e : Fault}
    (h : (x s).result = .error e) :
    (x >>= f) s = ⟨(x s).events, (x s).state, .error e⟩ := by
  show bind x f s = _
  simp only [bind, h]

theorem attempt_apply (x : Run σ α) (s : σ) :
    attempt x s = ⟨(x s).events, (x s).state, .ok (x s).result⟩ := rfl

theorem emit_apply (e : Event) (s : σ) : (emit e : Run σ Unit) s = ⟨[e], s, .ok ()⟩ := rfl

/-! ## Chains -/

theorem bind_assoc {γ : Type} (x : Run σ α) (f : α → Run σ β) (g : β → Run σ γ) :
    x >>= f >>= g = x >>= fun a => f a >>= g := by
  funext s
  show bind (bind x f) g s = bind x (fun a => bind (f a) g) s
  cases hx : (x s).result with
  | error e => simp only [bind, hx]
  | ok a =>
    cases hf : (f a (x s).state).result with
    | error e => simp only [bind, hx, hf]
    | ok b => simp only [bind, hx, hf, List.append_assoc]

theorem exists_of_bind_ok {x : Run σ α} {k : α → Run σ β} {s : σ} {b : β}
    (h : ((x >>= k) s).result = .ok b) :
    ∃ a, (x s).result = .ok a ∧ (k a (x s).state).result = .ok b := by
  cases hx : (x s).result with
  | error e =>
    rw [bind_apply_error hx] at h
    cases h
  | ok a =>
    rw [bind_apply_ok hx] at h
    exact ⟨a, rfl, h⟩

theorem mem_events_of_bind {x : Run σ α} {k : α → Run σ β} {s : σ} {e : Event}
    (h : e ∈ ((x >>= k) s).events) :
    e ∈ (x s).events ∨ ∃ a, (x s).result = .ok a ∧ e ∈ (k a (x s).state).events := by
  cases hx : (x s).result with
  | error g =>
    rw [bind_apply_error hx] at h
    exact .inl h
  | ok a =>
    rw [bind_apply_ok hx] at h
    exact (List.mem_append.1 h).imp_right fun h => ⟨a, rfl, h⟩

theorem events_subset_bind_left {x : Run σ α} {k : α → Run σ β} {s : σ} :
    (x s).events ⊆ ((x >>= k) s).events := by
  cases hx : (x s).result with
  | error e =>
    rw [bind_apply_error hx]
    exact List.Subset.refl _
  | ok a =>
    rw [bind_apply_ok hx]
    exact List.subset_append_left _ _

theorem events_subset_bind_right {x : Run σ α} {k : α → Run σ β} {s : σ} {a : α}
    (hx : (x s).result = .ok a) : (k a (x s).state).events ⊆ ((x >>= k) s).events := by
  rw [bind_apply_ok hx]
  exact List.subset_append_right _ _

end Run
end CodeReview
