import CodeReview.Proofs.Record.Valid
import CodeReview.Session.Pause
import CodeReview.Settings.Basic

/-!
# Settings that were accepted

Settings are checked when they are read, and then handed on as a record of numbers and words.  Who
has such a record may rely on the checks: a reader of settings lets a value pass only if it keeps
its bounds, and a default keeps them too (`ReviewSettings.bounds_of_ofFields`).  For defaults this
is a fact about each of them, and a default that broke its own bound would show in the proof.

The equivalences behind it, `ReviewSettings.ofFields_eq_valid_iff` and
`ServiceSettings.ofFields_eq_valid_iff`, say that settings are read exactly if each of their fields
is.  They are what every other statement about settings starts from.
-/

set_option autoImplicit false

namespace CodeReview

open CodeReview.Json (Value Fields)
open Record (Checked required optional)

/-! ## Single settings

What the reader of one setting lets pass, for each kind: a positive integer, a real that is not
negative, one of several words. -/

theorem Double.lt_eq_false_of_le {x y : Double} (h : y.le x = true) : x.lt y = false := by
  rw [Double.lt, h, Bool.not_true, Bool.and_false]

namespace Settings

theorem positive_eq_valid_iff {v : Value} {n : Nat} :
    positive v = .valid n ↔ Record.int v = .valid (n : Int) ∧ 0 < n := by
  simp only [positive, Checked.map_eq_valid, Checked.ensure_eq_valid, decide_eq_true_eq]
  constructor
  · rintro ⟨k, ⟨hint, hpos⟩, rfl⟩
    have hsame : ((k.toNat : Nat) : Int) = k := Int.toNat_of_nonneg (Int.le_of_lt hpos)
    exact ⟨hsame.symm ▸ hint, by omega⟩
  · rintro ⟨hint, hpos⟩
    exact ⟨n, ⟨hint, Int.natCast_pos.2 hpos⟩, Int.toNat_natCast n⟩

theorem notNegative_eq_valid {v : Value} {x : Double} (h : notNegative v = .valid x) :
    Run.isNegative x = false :=
  Double.lt_eq_false_of_le (Checked.ensure_eq_valid.1 h).2

end Settings

theorem Mode.oneOf_eq_valid_iff {v : Value} {m : Mode} :
    Record.oneOf Mode.words v = .valid m ↔
      v = .str m.word ∧ m ∈ [Mode.fast, .thorough, .hybrid] := by
  constructor
  · intro h
    cases v with
    | str s =>
      rw [Record.oneOf] at h
      cases hl : Mode.words.lookup s with
      | none =>
        rw [hl] at h
        cases h
      | some m' =>
        rw [hl] at h
        cases h
        obtain ⟨before, behind, hwords, -⟩ := List.lookup_eq_some_iff.1 hl
        have hmem : (s, m) ∈ Mode.words := hwords ▸ List.mem_append_right _ List.mem_cons_self
        obtain ⟨m', hm', heq⟩ := List.mem_map.1 hmem
        cases heq
        exact ⟨rfl, hm'⟩
    | _ => cases h
  · rintro ⟨rfl, hm⟩
    simp only [List.mem_cons, List.not_mem_nil, or_false] at hm
    rcases hm with rfl | rfl | rfl <;> rfl

/-! ## All settings of a review

Every field has a default. -/

theorem ReviewSettings.ofFields_eq_valid_iff {fields : Fields} {s : ReviewSettings} :
    ReviewSettings.ofFields fields = .valid s ↔
      optional fields "mode" .hybrid (Record.oneOf Mode.words) = .valid s.mode ∧
      optional fields "max_ai_files" 20 Settings.positive = .valid s.maxServiceFiles ∧
      optional fields "max_file_chars" 50000 Settings.positive = .valid s.maxFileChars ∧
      optional fields "max_file_bytes" 1000000 Settings.positive = .valid s.maxFileBytes ∧
      optional fields "request_delay_seconds" defaultDelay Settings.notNegative
        = .valid s.delaySeconds ∧
      optional fields "architecture_review" false Record.bool = .valid s.reviewsArchitecture := by
  constructor
  · intro h
    obtain ⟨_, _, h₅, harchitecture, rfl⟩ := Checked.seq_eq_valid.1 h
    obtain ⟨_, delay, h₄, hdelay, rfl⟩ := Checked.seq_eq_valid.1 h₅
    obtain ⟨_, bytes, h₃, hbytes, rfl⟩ := Checked.seq_eq_valid.1 h₄
    obtain ⟨_, chars, h₂, hchars, rfl⟩ := Checked.seq_eq_valid.1 h₃
    obtain ⟨_, count, h₁, hcount, rfl⟩ := Checked.seq_eq_valid.1 h₂
    obtain ⟨_, mode, h₀, hmode, rfl⟩ := Checked.seq_eq_valid.1 h₁
    cases h₀
    exact ⟨hmode, hcount, hchars, hbytes, hdelay, harchitecture⟩
  · rintro ⟨hmode, hcount, hchars, hbytes, hdelay, harchitecture⟩
    rw [ReviewSettings.ofFields, hmode, hcount, hchars, hbytes, hdelay, harchitecture]
    rfl

/-- **The bounds of accepted settings.** -/
theorem ReviewSettings.bounds_of_ofFields {fields : Fields} {s : ReviewSettings}
    (h : ReviewSettings.ofFields fields = .valid s) :
    s.mode ∈ [Mode.fast, .thorough, .hybrid] ∧ 0 < s.maxServiceFiles ∧ 0 < s.maxFileChars ∧
      0 < s.maxFileBytes ∧ Run.isNegative s.delaySeconds = false := by
  obtain ⟨hmode, hcount, hchars, hbytes, hdelay, -⟩ := ReviewSettings.ofFields_eq_valid_iff.1 h
  have hpositive : ∀ v n, Settings.positive v = .valid n → 0 < n :=
    fun v n hv => (Settings.positive_eq_valid_iff.1 hv).2
  have hknown : ∀ v m, Record.oneOf Mode.words v = .valid m →
      m ∈ [Mode.fast, .thorough, .hybrid] := fun v m hv => (Mode.oneOf_eq_valid_iff.1 hv).2
  exact ⟨Record.of_optional_eq_valid (by decide) hknown hmode,
    Record.of_optional_eq_valid (by decide) hpositive hcount,
    Record.of_optional_eq_valid (by decide) hpositive hchars,
    Record.of_optional_eq_valid (by decide) hpositive hbytes,
    Record.of_optional_eq_valid (P := fun x => Run.isNegative x = false) (by decide +kernel)
      (fun _ _ => Settings.notNegative_eq_valid) hdelay⟩

/-! ## All settings of the service

The address, the key and the model have none. -/

theorem ServiceSettings.ofFields_eq_valid_iff {fields : Fields} {s : ServiceSettings} :
    ServiceSettings.ofFields fields = .valid s ↔
      required fields "base_url" Settings.address = .valid s.address ∧
      required fields "api_key" Record.text = .valid s.key ∧
      required fields "model" Record.text = .valid s.model ∧
      optional fields "max_tokens" defaultMaxTokens Settings.positive = .valid s.maxTokens ∧
      optional fields "temperature" defaultTemperature Settings.upToTwo
        = .valid s.temperature := by
  constructor
  · intro h
    obtain ⟨_, temperature, h₄, htemperature, rfl⟩ := Checked.seq_eq_valid.1 h
    obtain ⟨_, tokens, h₃, htokens, rfl⟩ := Checked.seq_eq_valid.1 h₄
    obtain ⟨_, model, h₂, hmodel, rfl⟩ := Checked.seq_eq_valid.1 h₃
    obtain ⟨_, key, h₁, hkey, rfl⟩ := Checked.seq_eq_valid.1 h₂
    obtain ⟨_, address, h₀, haddress, rfl⟩ := Checked.seq_eq_valid.1 h₁
    cases h₀
    exact ⟨haddress, hkey, hmodel, htokens, htemperature⟩
  · rintro ⟨haddress, hkey, hmodel, htokens, htemperature⟩
    rw [ServiceSettings.ofFields, haddress, hkey, hmodel, htokens, htemperature]
    rfl

end CodeReview
