import CodeReview.Prompt.Purpose
import CodeReview.Session.Service

/-!
# Prepared replies

A service that plays replies prepared in advance, for rehearsals.  The replies stand in one queue,
or in one for each purpose; a queue may keep its last reply for ever.  A prepared reply may also
ask for a change of the world before it is given.
-/

set_option autoImplicit false

namespace CodeReview.Scripted

open CodeReview.Prompt (Purpose)

/-- A prepared reply: its text or the wording of a failure, and what to do to the world first. -/
structure Cue (κ : Type) where
  change : Option κ
  answer : Except String String

/-- The replies still to come. -/
inductive Queues (κ : Type) where
  /-- one queue for every prompt -/
  | shared (cues : List (Cue κ))
  /-- a queue for each purpose -/
  | separate (cues : Purpose → List (Cue κ))

/-- Replies, and whether the last one of a queue is kept. -/
structure Script (κ : Type) where
  queues : Queues κ
  loop : Bool

namespace Script

variable {κ : Type}

/-- The first reply of a queue and the queue without it. -/
def takeFrom (loop : Bool) : List (Cue κ) → Option (Cue κ) × List (Cue κ)
  | [] => (none, [])
  | [c] => (some c, if loop then [c] else [])
  | c :: d :: rest => (some c, d :: rest)

/-- The next reply to a prompt. -/
def next (s : Script κ) (prompt : String) : Option (Cue κ) × Script κ :=
  match s.queues with
  | .shared cues =>
    let (cue, rest) := takeFrom s.loop cues
    (cue, { s with queues := .shared rest })
  | .separate cues =>
    let purpose := Purpose.ofPrompt prompt
    let (cue, rest) := takeFrom s.loop (cues purpose)
    (cue, { s with queues := .separate fun p => if p = purpose then rest else cues p })

end Script

/-- The service that plays a script, which is part of the state: `script` and `setScript` reach it
there, `change` carries out what a reply asks for. -/
def service {σ κ : Type} (script : σ → Script κ) (setScript : Script κ → σ → σ)
    (change : κ → σ → σ) : Service σ where
  reply prompt s :=
    let (cue, rest) := (script s).next prompt
    let s := setScript rest s
    match cue with
    | none => ⟨.error (.service "no scripted reply"), s, []⟩
    | some cue => ⟨cue.answer.mapError .service, cue.change.elim s fun k => change k s, []⟩

end CodeReview.Scripted
