import CodeReview.Record.Field

/-!
# Records without fault

A reader of records goes on when it finds fault, so that all faults are reported and in the order
of the fields.  This makes the result of a reader a matter of all its parts at once.  To *use* such
a result one wants the opposite: the record was read, so each field was, and each of them is what
its reader says.  That is how the lemmas here are stated, as equations `… = .valid a ↔ …` with the
parts on the right:

* `Checked.seq_eq_valid`, `Checked.map_eq_valid` — a function and its argument, which is how a
  record is put together from its fields;
* `Checked.under_eq_valid` — a value seen from one level further out, where only the places of
  faults change;
* `Checked.ensure_eq_valid` — a value that was tested;
* `of_optional_eq_valid` — a field with a default, for what holds of the default and of every value
  that is read;
* `optional_text_eq_valid` — a field whose text may be left out.
-/

set_option autoImplicit false

namespace CodeReview

open CodeReview.Json (Value Fields)

namespace Record

variable {α β : Type}

theorem Checked.seq_eq_valid {f : Checked (α → β)} {x : Checked α} {b : β} :
    Checked.seq f x = .valid b ↔ ∃ g a, f = .valid g ∧ x = .valid a ∧ b = g a := by
  cases f <;> cases x <;> simp [Checked.seq, eq_comm]

theorem Checked.map_eq_valid {f : α → β} {x : Checked α} {b : β} :
    x.map f = .valid b ↔ ∃ a, x = .valid a ∧ f a = b := by
  cases x <;> simp [Checked.map]

theorem Checked.toExcept_mapError_eq_ok {ε : Type} {f : List Fault → ε} {x : Checked α} {a : α} :
    x.toExcept.mapError f = .ok a ↔ x = .valid a := by
  cases x with
  | faulty faults => exact ⟨fun h => (nomatch h), fun h => (nomatch h)⟩
  | valid b =>
    constructor
    · rintro ⟨⟩
      rfl
    · rintro ⟨⟩
      rfl

theorem Checked.under_eq_valid {name : String} {x : Checked α} {a : α} :
    x.under name = .valid a ↔ x = .valid a := by
  cases x <;> simp [Checked.under]

theorem Checked.ensure_eq_valid {test : α → Bool} {kind : Kind} {x : Checked α} {a : α} :
    x.ensure test kind = .valid a ↔ x = .valid a ∧ test a = true := by
  cases x with
  | faulty faults => simp [Checked.ensure]
  | valid b =>
    by_cases hb : test b = true
    · simp only [Checked.ensure, if_pos hb, Checked.valid.injEq]
      exact ⟨fun h => ⟨h, h ▸ hb⟩, And.left⟩
    · simp only [Checked.ensure, if_neg hb, Checked.fail, reduceCtorEq, Checked.valid.injEq,
        false_iff, not_and]
      rintro rfl
      exact hb

theorem text_eq_valid_iff {v : Value} {s : String} : text v = .valid s ↔ v = .str s := by
  cases v <;> simp [text, Checked.fail]

/-- **A field with a default** is the default, or a value that its reader lets pass. -/
theorem of_optional_eq_valid {P : α → Prop} {fields : Fields} {name : String} {default a : α}
    {read : ValueReader α} (hdefault : P default) (hread : ∀ v b, read v = .valid b → P b)
    (h : optional fields name default read = .valid a) : P a := by
  rw [optional] at h
  split at h
  · rename_i v hv
    exact hread v a (Checked.under_eq_valid.1 h)
  · cases h
    exact hdefault

/-! ## Texts that may be left out

An absent field and one that is null come to the same.  `SaysText` says so with no reader in sight.
-/

/-- What a field that may be left out says: nothing, or a text. -/
inductive SaysText : Option Value → Option String → Prop where
  | absent : SaysText none none
  | null : SaysText (some .null) none
  | text (s : String) : SaysText (some (.str s)) (some s)

/-- **A field whose text may be left out** is valid if it is absent, null or a text. -/
theorem optional_text_eq_valid {fields : Fields} {name : String} {s : Option String} :
    optional fields name none (nullable text) = .valid s ↔ SaysText (fields.get? name) s := by
  rw [optional]
  cases fields.get? name with
  | none =>
    constructor
    · rintro ⟨⟩
      exact .absent
    · rintro ⟨⟩
      rfl
  | some v =>
    rw [Checked.under_eq_valid]
    constructor
    · intro h
      cases v with
      | null =>
        cases h
        exact .null
      | str t =>
        cases h
        exact .text t
      | _ => cases h
    · rintro (_ | _ | _) <;> rfl

end Record
end CodeReview
