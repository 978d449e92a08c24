import CodeReview.Address.Basic
import CodeReview.Fault
import CodeReview.Record.Field

/-!
# Settings

How a review is run (`ReviewSettings`) and how the completion service is reached
(`ServiceSettings`).  Both are read from the fields of an object; a field that is absent takes its
default, and a number has to keep its bounds.
-/

set_option autoImplicit false

namespace CodeReview

open CodeReview.Json (Value Fields)
open CodeReview.Record (Checked ValueReader required optional oneOf)

/-- Which passes a review makes. -/
inductive Mode where
  /-- the rules alone -/
  | fast
  /-- the completion service alone -/
  | thorough
  /-- both -/
  | hybrid
  /-- a name that stands for no pass -/
  | other (name : String)
  deriving Repr, DecidableEq, Inhabited

namespace Mode

/-- The word for a mode. -/
def word : Mode → String
  | fast => "fast"
  | thorough => "thorough"
  | hybrid => "hybrid"
  | other name => name

/-- The modes that can be set. -/
def words : List (String × Mode) := [fast, thorough, hybrid].map fun m => (m.word, m)

/-- The mode that a word asks for. -/
def ofWord (w : String) : Mode := (words.lookup w).getD (other w)

/-- The mode applies the rules. -/
def usesRules : Mode → Bool
  | fast | hybrid => true
  | _ => false

/-- The mode asks the service. -/
def usesService : Mode → Bool
  | thorough | hybrid => true
  | _ => false

end Mode

/-- How a review is run. -/
structure ReviewSettings where
  mode : Mode
  maxServiceFiles : Nat
  maxFileChars : Nat
  maxFileBytes : Nat
  delaySeconds : Double
  reviewsArchitecture : Bool
  deriving Repr, DecidableEq, Inhabited

/-- How the completion service is reached and what it is asked for. -/
structure ServiceSettings where
  address : Address
  key : String
  model : String
  maxTokens : Nat
  temperature : Double
  deriving Repr, DecidableEq, Inhabited

/-- All settings. -/
structure Settings where
  service : ServiceSettings
  review : ReviewSettings
  deriving Repr, DecidableEq, Inhabited

namespace Settings

/-- A number above zero. -/
def positive : ValueReader Nat := fun v =>
  ((Record.int v).ensure (0 < ·) .greaterThan).map Int.toNat

/-- A real that is not below zero. -/
def notNegative : ValueReader Double := fun v =>
  (Record.double v).ensure (Double.ofInt 0).le .greaterThanEqual

/-- A real from zero to two. -/
def upToTwo : ValueReader Double := fun v =>
  ((Record.double v).ensure (·.le (Double.ofInt 2)) .lessThanEqual).ensure (Double.ofInt 0).le
    .greaterThanEqual

/-- The fault of a text that is no address. -/
def flawKind : Address.Flaw → Record.Kind
  | .tooLong => .urlTooLong
  | .malformed => .urlParsing
  | .unwantedScheme => .urlScheme

/-- An address for the web. -/
def address : ValueReader Address
  | .str s =>
    match Address.parse s with
    | .ok a => .valid a
    | .error flaw => .fail (flawKind flaw)
  | _ => .fail .urlParsing

end Settings

namespace ReviewSettings

/-- The waiting time unless another is set: a second. -/
def defaultDelay : Double := Double.ofInt 1

/-- How a review is run, from the fields of an object. -/
def ofFields (fields : Fields) : Checked ReviewSettings :=
  pure ReviewSettings.mk
    <*> optional fields "mode" .hybrid (oneOf Mode.words)
    <*> optional fields "max_ai_files" 20 Settings.positive
    <*> optional fields "max_file_chars" 50000 Settings.positive
    <*> optional fields "max_file_bytes" 1000000 Settings.positive
    <*> optional fields "request_delay_seconds" defaultDelay Settings.notNegative
    <*> optional fields "architecture_review" false Record.bool

/-- How a review is run, or what is wrong with it. -/
def ofFields? (fields : Fields) : Except Fault ReviewSettings :=
  (ofFields fields).toExcept.mapError (.invalid "ReviewConfig")

end ReviewSettings

namespace ServiceSettings

/-- The most tokens of an answer unless set otherwise. -/
def defaultMaxTokens : Nat := 8192

/-- The temperature unless set otherwise: a tenth. -/
def defaultTemperature : Double := Double.ofDecimal false 1 (-1)

/-- How the service is reached, from the fields of an object. -/
def ofFields (fields : Fields) : Checked ServiceSettings :=
  pure ServiceSettings.mk
    <*> required fields "base_url" Settings.address
    <*> required fields "api_key" Record.text
    <*> required fields "model" Record.text
    <*> optional fields "max_tokens" defaultMaxTokens Settings.positive
    <*> optional fields "temperature" defaultTemperature Settings.upToTwo

/-- How the service is reached, or what is wrong with it. -/
def ofFields? (fields : Fields) : Except Fault ServiceSettings :=
  (ofFields fields).toExcept.mapError (.invalid "LLMConfig")

end ServiceSettings
end CodeReview
