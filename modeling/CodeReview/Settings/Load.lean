import CodeReview.Settings.Basic

/-!
# Settings from an environment

An environment gives texts to names.  Three names have to be there and not empty; of the others,
those that are absent or empty leave their default.  The service is settled first: what is wrong
with the review is told only if nothing is wrong with the service.
-/

set_option autoImplicit false

namespace CodeReview

open CodeReview.Json (Value Fields)

/-- Names and their texts. -/
abbrev Environment := List (String × String)

namespace Environment

/-- The text of a name, if there is one that is not empty. -/
def present? (env : Environment) (name : String) : Option String :=
  (env.lookup name).filter (· ≠ "")

/-- A field with the text of a name. -/
def field? (env : Environment) (entry : String × String) : Option (String × Value) :=
  (env.present? entry.1).map fun text => (entry.2, .str text)

/-- The fields whose names in the environment have a text. -/
def fields (env : Environment) (entries : List (String × String)) : Fields :=
  entries.filterMap env.field?

end Environment

namespace Settings

/-- What has to be there: names in the environment and the fields they set. -/
def requiredNames : List (String × String) :=
  [("LLM_BASE_URL", "base_url"), ("LLM_API_KEY", "api_key"), ("LLM_MODEL", "model")]

/-- What may be there for the service. -/
def serviceNames : List (String × String) :=
  [("LLM_MAX_TOKENS", "max_tokens"), ("LLM_TEMPERATURE", "temperature")]

/-- What may be there for the review. -/
def reviewNames : List (String × String) :=
  [("REVIEW_MODE", "mode"), ("REVIEW_MAX_AI_FILES", "max_ai_files"),
    ("REVIEW_MAX_FILE_CHARS", "max_file_chars"), ("REVIEW_MAX_FILE_BYTES", "max_file_bytes"),
    ("REVIEW_REQUEST_DELAY_SECONDS", "request_delay_seconds"),
    ("REVIEW_ARCHITECTURE", "architecture_review")]

/-- The names that have to be there and are not. -/
def missing (env : Environment) : List String :=
  (requiredNames.map Prod.fst).filter fun name => (env.present? name).isNone

/-- The settings that an environment makes. -/
def load (env : Environment) : Except Fault Settings :=
  if missing env ≠ [] then .error (.settingsMissing (missing env))
  else do
    let service ← ServiceSettings.ofFields? (env.fields (requiredNames ++ serviceNames))
    let review ← ReviewSettings.ofFields? (env.fields reviewNames)
    .ok ⟨service, review⟩

end Settings
end CodeReview
