import CodeReview.Proofs.Reply.Result
import CodeReview.Reply.Architecture

/-!
# Replies that cannot be read

Almost every text can be read as a reply.  Prose without an object is read as nothing, and so is an
object that no repair makes JSON of; an issue that is none is skipped, and a field that is missing
has a default.  It is quicker to say what can *not* be read, and that is what this file does.

* `MeetsLimit` — JSON that meets a limit of the reader: too many containers inside one another, or
  an integer of too many digits.  A limit is no fault of the text, so the repair is not tried when
  the reader meets one.  But it may be met by the repaired text alone, as the repair lets the
  reader go on where it stopped before; that is the second constructor.
* `HasHugeScore` — where a score is asked for, one that is an integer beyond binary64.  It is an
  integer that was read, so no limit was met; but a score is asked whether it is a NaN, and that is
  asked of a real, which there is none for it.

Both are conditions on the text, by way of the reader.  The statements say that these are all
(`result_readAnalysis_eq_error`, `result_readArchitecture_eq_error`): a reading ends in an error if
and only if the reply is one of them.  Whoever shows that a run is not stopped by a reply has only
these two to exclude.
-/

set_option autoImplicit false

namespace CodeReview.Reply

open CodeReview.Json (Value Fields)

/-! ## Faults of a chain

A chain of steps that may fail does so at its first step or, if that went well, at what follows. -/

theorem bind_eq_error {ε α β : Type} {x : Except ε α} {k : α → Except ε β} {e : ε} :
    x.bind k = .error e ↔ x = .error e ∨ ∃ a, x = .ok a ∧ k a = .error e := by
  cases x <;> simp [Except.bind]

theorem map_eq_error {ε α β : Type} {x : Except ε α} {g : α → β} {e : ε} :
    x.map g = .error e ↔ x = .error e := by
  cases x <;> simp [Except.map]

/-! ## Replies

The reader stops at the span as it stands, at the repaired span, or at nothing, and the cases of
the proofs are these.  What is made of the fields afterwards cannot fail for findings: there is no
second condition in `result_readAnalysis_eq_error`. -/

variable [Text.Spare]

/-- The object in a reply meets a limit of the reader, at once or when it is repaired because it is
no JSON. -/
inductive MeetsLimit (reply : String) (l : Json.Limit) : Prop where
  | atOnce (span : List Char) (hspan : Span.extract? reply.toList = some span)
      (hread : Json.read (String.ofList span) = .error (.limit l))
  | repaired (span : List Char) (fault : Json.Fault)
      (hspan : Span.extract? reply.toList = some span)
      (hread : Json.read (String.ofList span) = .error (.fault fault))
      (hrepaired : Json.read (String.ofList (Span.balance span)) = .error (.limit l))

/-- The object in a reply states a quality that is too large a number. -/
def HasHugeScore (reply : String) : Prop :=
  ∃ fields n, (load reply).result = .ok (some fields) ∧
    fields.get? "overallQuality" = some (.int n) ∧ Double.overflowedBy n = true

/-- **The object in a reply** is read unless it meets a limit. -/
theorem result_load_eq_error {reply : String} {f : Fault} :
    (load reply).result = .error f ↔ ∃ l, f = .limit l ∧ MeetsLimit reply l := by
  rw [result_load]
  constructor
  · intro h
    cases hspan : Span.extract? reply.toList with
    | none =>
      rw [hspan] at h
      cases h
    | some span =>
      rw [hspan] at h
      simp only [result_readOrRepair] at h
      rcases hread : Json.read (String.ofList span) with (fault | l) | v
      · rw [hread] at h
        rcases hrep : Json.read (String.ofList (Span.balance span)) with (fault' | l) | v
        · simp only [hrep, Except.map, reduceCtorEq] at h
        · simp only [hrep, Except.map, Except.error.injEq] at h
          exact ⟨l, h.symm, .repaired span fault hspan hread hrep⟩
        · simp only [hrep, Except.map, reduceCtorEq] at h
      · simp only [hread, Except.map, Except.error.injEq] at h
        exact ⟨l, h.symm, .atOnce span hspan hread⟩
      · simp only [hread, Except.map, reduceCtorEq] at h
  · rintro ⟨l, rfl, hlimit⟩
    rcases hlimit with ⟨span, hspan, hread⟩ | ⟨span, fault, hspan, hread, hrepaired⟩
    · simp only [hspan, result_readOrRepair, hread, Except.map]
    · simp only [hspan, result_readOrRepair, hread, hrepaired, Except.map]

/-- **Findings** are read from every reply whose object is read. -/
theorem result_readAnalysis_eq_error {reply path : String} {f : Fault} :
    (readAnalysis reply path).result = .error f ↔ ∃ l, f = .limit l ∧ MeetsLimit reply l := by
  rw [← result_load_eq_error, result_readAnalysis, map_eq_error]

omit [Text.Spare] in
theorem qualityOf_eq_error {v : Option Value} {f : Fault} :
    qualityOf v = .error f ↔
      f = .numberTooLarge ∧ ∃ n, v = some (.int n) ∧ Double.overflowedBy n = true := by
  constructor
  · intro h
    cases v with
    | none => cases h
    | some v =>
      cases v with
      | int n =>
        by_cases hover : Double.overflowedBy n = true
        · simp only [qualityOf, percent, if_pos hover] at h
          cases h
          exact ⟨rfl, n, rfl, hover⟩
        · simp only [qualityOf, percent, if_neg hover] at h
          cases h
      | _ => cases h
  · rintro ⟨rfl, n, rfl, hover⟩
    simp only [qualityOf, percent, if_pos hover]
    rfl

/-- **A review of the architecture** is read from a reply unless its object meets a limit or its
score is too large. -/
theorem result_readArchitecture_eq_error {reply : String} {f : Fault} :
    (readArchitecture reply).result = .error f ↔
      (∃ l, f = .limit l ∧ MeetsLimit reply l) ∨ f = .numberTooLarge ∧ HasHugeScore reply := by
  rw [← result_load_eq_error, readArchitecture, result_bind, bind_eq_error]
  refine or_congr_right ?_
  constructor
  · rintro ⟨fields, hload, h⟩
    cases fields with
    | none => cases h
    | some fields =>
      rw [result_bind, bind_eq_error] at h
      rcases h with h | ⟨quality, -, h⟩
      · obtain ⟨hf, n, hn, hover⟩ := qualityOf_eq_error.1 h
        exact ⟨hf, fields, n, hload, hn, hover⟩
      · cases h
  · rintro ⟨hf, fields, n, hload, hn, hover⟩
    refine ⟨some fields, hload, ?_⟩
    rw [result_bind, bind_eq_error]
    exact .inl (qualityOf_eq_error.2 ⟨hf, n, hn, hover⟩)

end CodeReview.Reply
