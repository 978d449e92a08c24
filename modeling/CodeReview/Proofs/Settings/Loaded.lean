import CodeReview.Proofs.Number.Order
import CodeReview.Proofs.Settings.Accepted
import CodeReview.Settings.Load

/-!
# Settings that an environment makes

Settings come from the environment of the process.  An environment says something by a name if it
has a text for it that is not empty; otherwise it leaves the name out.  There are then three
questions about a name: whether it must be there, what its text reads as, and what bounds that has
to keep.

`ServiceSettings.ReadFrom` and `ReviewSettings.ReadFrom` answer the first two, name by name, and
`WithinBounds` the third, as comparisons of numbers: a real is within its bounds if it stands for a
number that is, so a NaN is not and an infinity may be.  Main statement: an environment makes
settings exactly if it reads as them and they keep their bounds (`Settings.load_eq_ok_iff`).

The statement is an equivalence for a reason.  A reader that refused everything would satisfy all
that is usually said about bounds.  Here it is also said what must be accepted, down to numerals
with underscores and an exponent that makes a temperature minus zero (`load_outermost`).
## What is here

* `Environment.Says`, `Environment.Omits`, `Environment.Settles` — what an environment says by a
  name;
* `required_fields_eq_valid_iff`, `optional_fields_eq_valid_iff` — a field of the settings, by its
  name in the environment;
* `ServiceSettings.ReadFrom`, `ReviewSettings.ReadFrom`, `WithinBounds` — the specification;
* `ServiceSettings.ofFields_fields_eq_valid_iff`, `ReviewSettings.ofFields_fields_eq_valid_iff` —
  the two groups of settings;
* `load_eq_ok_iff` — all settings together.
-/

set_option autoImplicit false

namespace CodeReview

open CodeReview.Json (Value Fields)
open Record (Checked ValueReader required optional)

/-! ## What an environment says

`Says` is for a name that has to be there and `Settles` for one with a default.  `present?` is the
lookup in which an empty text counts as none, and both are put in terms of it. -/

namespace Environment

variable {α : Type} {env : Environment} {entries : List (String × String)} {name field : String}
  {default a : α}

/-- The name has a text that is not empty, and the text is so. -/
def Says (env : Environment) (name : String) (P : String → Prop) : Prop :=
  ∃ text, env.lookup name = some text ∧ text ≠ "" ∧ P text

/-- The name is absent, or its text is empty. -/
def Omits (env : Environment) (name : String) : Prop :=
  env.lookup name = none ∨ env.lookup name = some ""

/-- A setting that may be left out: its default where the name is, and otherwise what the text of
the name reads as. -/
structure Settles (env : Environment) (name : String) (default : α) (Reads : String → α → Prop)
    (a : α) : Prop where
  omitted : env.Omits name → a = default
  said : ∀ text, env.lookup name = some text → text ≠ "" → Reads text a

theorem present?_eq_some_iff {text : String} :
    env.present? name = some text ↔ env.lookup name = some text ∧ text ≠ "" := by
  simp [present?, Option.filter_eq_some_iff]

theorem present?_eq_none_iff : env.present? name = none ↔ env.Omits name := by
  rw [present?, Option.filter_eq_none_iff, Omits]
  cases env.lookup name <;> simp

theorem says_iff {P : String → Prop} :
    env.Says name P ↔ ∃ text, env.present? name = some text ∧ P text := by
  simp only [Says, present?_eq_some_iff, and_assoc]

theorem settles_of_absent {Reads : String → α → Prop} (h : env.present? name = none) :
    env.Settles name default Reads a ↔ a = default := by
  constructor
  · intro hsettles
    exact hsettles.omitted (present?_eq_none_iff.1 h)
  · rintro rfl
    refine ⟨fun _ => rfl, fun text hlookup htext => ?_⟩
    rw [present?_eq_some_iff.2 ⟨hlookup, htext⟩] at h
    cases h

theorem settles_of_present {Reads : String → α → Prop} {text : String}
    (h : env.present? name = some text) : env.Settles name default Reads a ↔ Reads text a := by
  obtain ⟨hlookup, htext⟩ := present?_eq_some_iff.1 h
  constructor
  · intro hsettles
    exact hsettles.said text hlookup htext
  · intro hreads
    refine ⟨fun homits => ?_, fun other hother _ => ?_⟩
    · rw [present?_eq_none_iff.2 homits] at h
      cases h
    · rw [hlookup] at hother
      cases hother
      exact hreads

/-- A bound that the default keeps may be asked of the setting instead of its text. -/
theorem settles_and_iff {Reads : String → α → Prop} {P : α → Prop} (hdefault : P default) :
    env.Settles name default (fun text b => Reads text b ∧ P b) a ↔
      env.Settles name default Reads a ∧ P a := by
  cases hpresent : env.present? name with
  | none =>
    rw [settles_of_absent hpresent, settles_of_absent hpresent]
    exact ⟨fun ha => ⟨ha, ha ▸ hdefault⟩, And.left⟩
  | some text => rw [settles_of_present hpresent, settles_of_present hpresent]

/-! ## Its fields

The settings are read from an object with a field for each name that is present.  Its fields have
the texts of their names as long as no two names make one field. -/

theorem get?_fields_of_not_mem (h : field ∉ entries.map Prod.snd) :
    (env.fields entries).get? field = none := by
  rw [Fields.get?, List.lookup_eq_none_iff]
  rintro ⟨other, value⟩ hother
  obtain ⟨entry, hentry, hvalue⟩ := List.mem_filterMap.1 hother
  obtain ⟨text, -, hsame⟩ := Option.map_eq_some_iff.1 hvalue
  cases hsame
  rw [bne_iff_ne]
  rintro rfl
  exact h (List.mem_map_of_mem hentry)

/-- The field of a name has the text of the name. -/
theorem get?_fields (hnodup : (entries.map Prod.snd).Nodup) (hmem : (name, field) ∈ entries) :
    (env.fields entries).get? field = (env.present? name).map .str := by
  induction entries with
  | nil => cases hmem
  | cons entry rest ih =>
    rw [List.map_cons, List.nodup_cons] at hnodup
    rw [fields, List.filterMap_cons, field?]
    rcases List.mem_cons.1 hmem with rfl | hrest
    · cases env.present? name with
      | none => exact get?_fields_of_not_mem hnodup.1
      | some text => simp [Fields.get?]
    · have hne : field ≠ entry.2 := by
        rintro rfl
        exact hnodup.1 (List.mem_map.2 ⟨_, hrest, rfl⟩)
      cases env.present? entry.1 with
      | none => exact ih hnodup.2 hrest
      | some text =>
        rw [← ih hnodup.2 hrest, Fields.get?, Option.map_some, List.lookup_cons,
          beq_eq_false_iff_ne.2 hne]
        rfl

theorem required_fields_eq_valid_iff {read : ValueReader α} (name : String)
    (hnodup : (entries.map Prod.snd).Nodup) (hmem : (name, field) ∈ entries) :
    required (env.fields entries) field read = .valid a ↔
      env.Says name fun text => read (.str text) = .valid a := by
  rw [required, get?_fields hnodup hmem, says_iff]
  cases env.present? name with
  | none => simp [Checked.fail, Checked.under]
  | some text => simp [Checked.under_eq_valid]

theorem optional_fields_eq_valid_iff {read : ValueReader α} (name : String)
    (hnodup : (entries.map Prod.snd).Nodup) (hmem : (name, field) ∈ entries) :
    optional (env.fields entries) field default read = .valid a ↔
      env.Settles name default (fun text b => read (.str text) = .valid b) a := by
  rw [Record.optional, get?_fields hnodup hmem]
  cases hpresent : env.present? name with
  | none =>
    rw [settles_of_absent hpresent]
    simp [eq_comm]
  | some text =>
    rw [settles_of_present hpresent]
    exact Checked.under_eq_valid

end Environment

/-! ## What it says of the settings

The names and the defaults stand here once more, so that the statement can be read without the
program. -/

/-- How the service is reached is what the environment says. -/
structure ServiceSettings.ReadFrom (s : ServiceSettings) (env : Environment) : Prop where
  address : env.Says "LLM_BASE_URL" fun text => Address.parse text = .ok s.address
  key : env.Says "LLM_API_KEY" fun text => text = s.key
  model : env.Says "LLM_MODEL" fun text => text = s.model
  maxTokens : env.Settles "LLM_MAX_TOKENS" 8192
    (fun text (n : Nat) => Record.parseInt text = .valid (n : Int)) s.maxTokens
  temperature : env.Settles "LLM_TEMPERATURE" (Double.ofDecimal false 1 (-1))
    (fun text x => Record.parseDouble text = .valid x) s.temperature

/-- How a review is run is what the environment says. -/
structure ReviewSettings.ReadFrom (s : ReviewSettings) (env : Environment) : Prop where
  mode : env.Settles "REVIEW_MODE" .hybrid (fun text m => text = m.word) s.mode
  maxServiceFiles : env.Settles "REVIEW_MAX_AI_FILES" 20
    (fun text (n : Nat) => Record.parseInt text = .valid (n : Int)) s.maxServiceFiles
  maxFileChars : env.Settles "REVIEW_MAX_FILE_CHARS" 50000
    (fun text (n : Nat) => Record.parseInt text = .valid (n : Int)) s.maxFileChars
  maxFileBytes : env.Settles "REVIEW_MAX_FILE_BYTES" 1000000
    (fun text (n : Nat) => Record.parseInt text = .valid (n : Int)) s.maxFileBytes
  delaySeconds : env.Settles "REVIEW_REQUEST_DELAY_SECONDS" (Double.ofInt 1)
    (fun text x => Record.parseDouble text = .valid x) s.delaySeconds
  reviewsArchitecture : env.Settles "REVIEW_ARCHITECTURE" false
    (fun text b => Record.parseBool text = .valid b) s.reviewsArchitecture

/-- The bounds of how the service is reached. -/
structure ServiceSettings.WithinBounds (s : ServiceSettings) : Prop where
  maxTokens : 0 < s.maxTokens
  temperature : ∃ t ∈ s.temperature.value?, 0 ≤ t ∧ t ≤ 2

/-- The bounds of how a review is run. -/
structure ReviewSettings.WithinBounds (s : ReviewSettings) : Prop where
  mode : s.mode ∈ [Mode.fast, .thorough, .hybrid]
  maxServiceFiles : 0 < s.maxServiceFiles
  maxFileChars : 0 < s.maxFileChars
  maxFileBytes : 0 < s.maxFileBytes
  delaySeconds : ∃ t ∈ s.delaySeconds.value?, 0 ≤ t

/-! ## Single settings

The bounds of a real are tested by `Double.le`; what the test means is `Double.le_iff`. -/

namespace Settings

theorem address_str_eq_valid_iff {text : String} {a : Address} :
    address (.str text) = .valid a ↔ Address.parse text = .ok a := by
  rw [address]
  cases Address.parse text <;> simp [Checked.fail]

theorem notNegative_eq_valid_iff {v : Value} {x : Double} :
    notNegative v = .valid x ↔ Record.double v = .valid x ∧ ∃ t ∈ x.value?, 0 ≤ t := by
  rw [notNegative, Checked.ensure_eq_valid, Double.ofInt_zero_le_iff]

-- A NaN is not below zero either, but it has no value that could be at least zero.
example : (notNegative (.str "nan")).faults = [⟨[], .greaterThanEqual⟩] := by decide

theorem upToTwo_eq_valid_iff {v : Value} {x : Double} :
    upToTwo v = .valid x ↔ Record.double v = .valid x ∧ ∃ t ∈ x.value?, 0 ≤ t ∧ t ≤ 2 := by
  have htwo := Double.le_ofInt_iff (n := 2) (x := x) (by decide)
  simp only [Int.cast_ofNat, WithTop.coe_ofNat, WithBot.coe_ofNat] at htwo
  rw [upToTwo, Checked.ensure_eq_valid, Checked.ensure_eq_valid, Double.ofInt_zero_le_iff, htwo,
    and_assoc]
  cases x.value? <;> simp [and_comm]

end Settings

theorem ServiceSettings.ofFields?_eq_ok_iff {fields : Fields} {s : ServiceSettings} :
    ServiceSettings.ofFields? fields = .ok s ↔ ServiceSettings.ofFields fields = .valid s :=
  Checked.toExcept_mapError_eq_ok

theorem ReviewSettings.ofFields?_eq_ok_iff {fields : Fields} {s : ReviewSettings} :
    ReviewSettings.ofFields? fields = .ok s ↔ ReviewSettings.ofFields fields = .valid s :=
  Checked.toExcept_mapError_eq_ok

/-- **How the service is reached** is read from an environment with its bounds. -/
theorem ServiceSettings.ofFields_fields_eq_valid_iff {env : Environment} {s : ServiceSettings} :
    ServiceSettings.ofFields (env.fields (Settings.requiredNames ++ Settings.serviceNames))
      = .valid s ↔ s.ReadFrom env ∧ s.WithinBounds := by
  have hnodup : ((Settings.requiredNames ++ Settings.serviceNames).map Prod.snd).Nodup := by decide
  have hdefault : Settings.upToTwo (.real defaultTemperature) = .valid defaultTemperature := rfl
  rw [ofFields_eq_valid_iff,
    Environment.required_fields_eq_valid_iff "LLM_BASE_URL" hnodup (by decide),
    Environment.required_fields_eq_valid_iff "LLM_API_KEY" hnodup (by decide),
    Environment.required_fields_eq_valid_iff "LLM_MODEL" hnodup (by decide),
    Environment.optional_fields_eq_valid_iff "LLM_MAX_TOKENS" hnodup (by decide),
    Environment.optional_fields_eq_valid_iff "LLM_TEMPERATURE" hnodup (by decide)]
  simp only [Record.text_eq_valid_iff, Value.str.injEq, Settings.address_str_eq_valid_iff,
    Settings.positive_eq_valid_iff, Settings.upToTwo_eq_valid_iff, Record.int, Record.double]
  rw [Environment.settles_and_iff (P := (0 < ·)) (by decide),
    Environment.settles_and_iff (P := fun x : Double => ∃ t ∈ x.value?, 0 ≤ t ∧ t ≤ 2)
      (Settings.upToTwo_eq_valid_iff.1 hdefault).2]
  constructor
  · rintro ⟨haddress, hkey, hmodel, ⟨htokens, hpositive⟩, hread, hbounds⟩
    exact ⟨⟨haddress, hkey, hmodel, htokens, hread⟩, hpositive, hbounds⟩
  · rintro ⟨⟨haddress, hkey, hmodel, htokens, hread⟩, hpositive, hbounds⟩
    exact ⟨haddress, hkey, hmodel, ⟨htokens, hpositive⟩, hread, hbounds⟩

/-- **How a review is run** is read from an environment with its bounds. -/
theorem ReviewSettings.ofFields_fields_eq_valid_iff {env : Environment} {s : ReviewSettings} :
    ReviewSettings.ofFields (env.fields Settings.reviewNames) = .valid s ↔
      s.ReadFrom env ∧ s.WithinBounds := by
  have hnodup : (Settings.reviewNames.map Prod.snd).Nodup := by decide
  have hdefault : Settings.notNegative (.real defaultDelay) = .valid defaultDelay := rfl
  rw [ofFields_eq_valid_iff,
    Environment.optional_fields_eq_valid_iff "REVIEW_MODE" hnodup (by decide),
    Environment.optional_fields_eq_valid_iff "REVIEW_MAX_AI_FILES" hnodup (by decide),
    Environment.optional_fields_eq_valid_iff "REVIEW_MAX_FILE_CHARS" hnodup (by decide),
    Environment.optional_fields_eq_valid_iff "REVIEW_MAX_FILE_BYTES" hnodup (by decide),
    Environment.optional_fields_eq_valid_iff "REVIEW_REQUEST_DELAY_SECONDS" hnodup (by decide),
    Environment.optional_fields_eq_valid_iff "REVIEW_ARCHITECTURE" hnodup (by decide)]
  simp only [Mode.oneOf_eq_valid_iff, Value.str.injEq, Settings.positive_eq_valid_iff,
    Settings.notNegative_eq_valid_iff, Record.int, Record.double, Record.bool]
  rw [Environment.settles_and_iff (P := (· ∈ [Mode.fast, .thorough, .hybrid])) (by decide),
    Environment.settles_and_iff (P := (0 < ·)) (by decide),
    Environment.settles_and_iff (P := (0 < ·)) (by decide),
    Environment.settles_and_iff (P := (0 < ·)) (by decide),
    Environment.settles_and_iff (P := fun x : Double => ∃ t ∈ x.value?, 0 ≤ t)
      (Settings.notNegative_eq_valid_iff.1 hdefault).2]
  constructor
  · rintro ⟨⟨hmode, hknown⟩, ⟨hfiles, hfiles'⟩, ⟨hchars, hchars'⟩, ⟨hbytes, hbytes'⟩,
      ⟨hseconds, hseconds'⟩, harchitecture⟩
    exact ⟨⟨hmode, hfiles, hchars, hbytes, hseconds, harchitecture⟩,
      hknown, hfiles', hchars', hbytes', hseconds'⟩
  · rintro ⟨⟨hmode, hfiles, hchars, hbytes, hseconds, harchitecture⟩,
      hknown, hfiles', hchars', hbytes', hseconds'⟩
    exact ⟨⟨hmode, hknown⟩, ⟨hfiles, hfiles'⟩, ⟨hchars, hchars'⟩, ⟨hbytes, hbytes'⟩,
      ⟨hseconds, hseconds'⟩, harchitecture⟩

/-! ## All settings

Names that are missing are reported before any is read, and there are none if all required ones are
said. -/

namespace Settings

variable {env : Environment} {s : Settings}

theorem missing_eq_nil (h : s.service.ReadFrom env) : missing env = [] := by
  have hpresent : ∀ name P, env.Says name P → (env.present? name).isNone = false := by
    intro name P hsays
    obtain ⟨text, htext, -⟩ := Environment.says_iff.1 hsays
    rw [htext, Option.isNone_some]
  simp [missing, requiredNames, hpresent _ _ h.address, hpresent _ _ h.key, hpresent _ _ h.model]

theorem load_eq_ok_iff_fields :
    load env = .ok s ↔ missing env = [] ∧
      ServiceSettings.ofFields (env.fields (requiredNames ++ serviceNames)) = .valid s.service ∧
      ReviewSettings.ofFields (env.fields reviewNames) = .valid s.review := by
  rw [← ServiceSettings.ofFields?_eq_ok_iff, ← ReviewSettings.ofFields?_eq_ok_iff, load]
  split
  · rename_i hmissing
    exact ⟨fun h => (nomatch h), fun h => absurd h.1 hmissing⟩
  · rename_i hmissing
    rw [and_iff_right (not_not.1 hmissing)]
    cases ServiceSettings.ofFields? (env.fields (requiredNames ++ serviceNames)) with
    | error fault => exact ⟨fun h => (nomatch h), fun h => (nomatch h.1)⟩
    | ok service =>
      cases ReviewSettings.ofFields? (env.fields reviewNames) with
      | error fault => exact ⟨fun h => (nomatch h), fun h => (nomatch h.2)⟩
      | ok review =>
        constructor
        · rintro ⟨⟩
          exact ⟨rfl, rfl⟩
        · rintro ⟨⟨⟩, ⟨⟩⟩
          rfl

/-- **An environment makes settings** exactly if it reads as them and they keep their bounds. -/
theorem load_eq_ok_iff :
    load env = .ok s ↔
      (s.service.ReadFrom env ∧ s.service.WithinBounds) ∧
        s.review.ReadFrom env ∧ s.review.WithinBounds := by
  rw [load_eq_ok_iff_fields, ServiceSettings.ofFields_fields_eq_valid_iff,
    ReviewSettings.ofFields_fields_eq_valid_iff, and_iff_right_of_imp]
  exact fun h => missing_eq_nil h.1.1

/-- An environment at its bounds: a temperature so little below zero that it is read as minus zero,
and a delay without end. -/
def outermost : Environment :=
  [("LLM_BASE_URL", "http://[::1]"), ("LLM_API_KEY", "k"), ("LLM_MODEL", "m"),
    ("LLM_MAX_TOKENS", " +1_000.00 "), ("LLM_TEMPERATURE", "-1e-4_00"), ("REVIEW_MODE", ""),
    ("REVIEW_MAX_AI_FILES", "001"), ("REVIEW_REQUEST_DELAY_SECONDS", "Infinity")]

/-- The settings that it makes. -/
def outermostSettings : Settings where
  service := ⟨⟨"http", none, "[::1]", none, [""], none, none⟩, "k", "m", 1000,
    .finite true 0 (-1074)⟩
  review := ⟨.hybrid, 1, 50000, 1000000, .infinite false, false⟩

theorem load_outermost :
    load outermost = .ok outermostSettings ∧
      (outermostSettings.service.ReadFrom outermost ∧ outermostSettings.service.WithinBounds) ∧
        outermostSettings.review.ReadFrom outermost ∧ outermostSettings.review.WithinBounds := by
  have hload : load outermost = .ok outermostSettings := by decide +kernel
  exact ⟨hload, load_eq_ok_iff.1 hload⟩

end Settings
end CodeReview
