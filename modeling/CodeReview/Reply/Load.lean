import CodeReview.Json.Reader
import CodeReview.Reply.Notice
import CodeReview.Reply.Span

/-!
# The fields of a reply

`loadWith` finds the object in a reply and reads it, strictly at first.  If that fails, a repair of
the text is read, strictly again; if that fails too there is nothing.  A limit of the reader is met
by text that is JSON, so it is never repaired: it ends the reading.
-/

set_option autoImplicit false

namespace CodeReview.Reply

open CodeReview.Json (Value Fields Obstacle)

/-- A repair of a text that is no JSON. -/
abbrev Repair := List Char → List Char

/-- The value of a text that was repaired. -/
def readRepaired [Text.Spare] (span : List Char) : Reading (Option Value) :=
  match Json.read (String.ofList span) with
  | .ok v => pure (some v)
  | .error (.limit l) => .fail (.limit l)
  | .error (.fault f) => do
    Reading.notice (.notRepaired f)
    pure none

/-- The value of a text, repaired if need be. -/
def readOrRepair [Text.Spare] (repair : Repair) (span : List Char) : Reading (Option Value) :=
  match Json.read (String.ofList span) with
  | .ok v => pure (some v)
  | .error (.limit l) => .fail (.limit l)
  | .error (.fault f) => do
    Reading.notice (.notJson f)
    readRepaired (repair span)

/-- The fields of the object in a reply, if there is one that can be read. -/
def loadWith [Text.Spare] (repair : Repair) (text : String) : Reading (Option Fields) :=
  match Span.extract? text.toList with
  | none => do
    Reading.notice .noObject
    pure none
  | some span => do
    match ← readOrRepair repair span with
    | none => pure none
    | some (.obj fields) => pure (some fields)
    | some v =>
      Reading.notice (.notAnObject v.kindName)
      pure none

/-- The fields of the object in a reply, cut-off objects being closed. -/
def load [Text.Spare] (text : String) : Reading (Option Fields) := loadWith Span.balance text

end CodeReview.Reply
