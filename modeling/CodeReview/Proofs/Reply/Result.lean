import CodeReview.Reply.Patch

/-!
# What reading a reply results in

Reading a reply gives a result and notices, and the notices are for the log.  Most of what is said
about a review does not mention them.  So this file has the result alone: `result_bind` says that
the result of one reading after another does not depend on the notices, and with it a reply is read
in two steps.

1. The fields of the object in it (`result_load`).  This may fail, if the reader meets a limit.
2. What is made of the fields.  For findings this cannot fail (`result_readAnalysis`); for a
   confidence or a score it can, if that is too large.

The second step is a function of the fields, so whatever two replies share in their fields they
share in what is read from them.
-/

set_option autoImplicit false

namespace CodeReview.Reply

open CodeReview.Json CodeReview.Text

/-! ## What there is instead of a result

A result that is known as an option, for when it was computed as one. -/

theorem eq_ok_of_toOption {ε α : Type} {x : Except ε α} {a : α} (h : x.toOption = some a) :
    x = .ok a := by
  cases x with
  | error e => cases h
  | ok b =>
    cases h
    rfl

theorem exists_eq_error_of_isNone {ε α : Type} {x : Except ε α} (h : x.toOption.isNone = true) :
    ∃ e, x = .error e := by
  cases x with
  | error e => exact ⟨e, rfl⟩
  | ok a => cases h

/-! ## The fields

The span is read, or else the repaired span; a limit ends it at either of the two. -/

/-- The result of one reading after another does not depend on the notices. -/
theorem result_bind {α β : Type} (x : Reading α) (f : α → Reading β) :
    (x >>= f).result = x.result.bind fun a => (f a).result := by
  cases h : x.result with
  | error e => rw [Reading.bind_of_error f h]; rfl
  | ok a => rw [Reading.bind_of_ok f h]; rfl

variable [Spare]

/-- What `readOrRepair` reads: the text as it is, or else the repaired text. -/
theorem result_readOrRepair (repair : Repair) (span : List Char) :
    (readOrRepair repair span).result =
      match Json.read (String.ofList span) with
      | .ok v => .ok (some v)
      | .error (.limit l) => .error (.limit l)
      | .error (.fault _) =>
        match Json.read (String.ofList (repair span)) with
        | .ok v => .ok (some v)
        | .error (.limit l) => .error (.limit l)
        | .error (.fault _) => .ok none := by
  rw [readOrRepair]
  cases Json.read (String.ofList span) with
  | ok v => rfl
  | error o =>
    cases o with
    | limit l => rfl
    | fault f =>
      simp only [result_bind, Reading.result_notice, Except.bind, readRepaired]
      cases Json.read (String.ofList (repair span)) with
      | ok v => rfl
      | error o => cases o <;> rfl

/-- The fields of a value that is an object. -/
def fieldsOf? : Option Value → Option Fields
  | some (.obj fields) => some fields
  | _ => none

theorem exists_read_of_isSome {text : String}
    (h : (fieldsOf? (Json.read text).toOption).isSome = true) :
    ∃ fields, Json.read text = .ok (.obj fields) := by
  cases hread : Json.read text with
  | error o =>
    rw [hread] at h
    cases h
  | ok v =>
    rw [hread] at h
    cases v with
    | obj fields => exact ⟨fields, rfl⟩
    | _ => cases h

theorem result_load (text : String) :
    (load text).result =
      match Span.extract? text.toList with
      | none => .ok none
      | some span => (readOrRepair Span.balance span).result.map fieldsOf? := by
  rw [load, loadWith]
  cases Span.extract? text.toList with
  | none => rfl
  | some span =>
    simp only [result_bind]
    cases (readOrRepair Span.balance span).result with
    | error e => rfl
    | ok v =>
      cases v with
      | none => rfl
      | some v => cases v <;> rfl

/-! ## Findings

An entry that makes no finding is left out.  The file of a finding is the one that was asked about,
whatever the reply says. -/

/-- The findings under `issues`. -/
def findingsUnder (path : String) : Option Value → List Finding
  | some (.arr items) => items.filterMap fun v => (Issue.findingOf? path v).toOption
  | _ => []

omit [Spare] in
theorem result_issuesOf (path : String) (v : Option Value) :
    (issuesOf path v).result = .ok (findingsUnder path v) := by
  unfold issuesOf
  split
  · exact Issue.result_findings path 0 _
  · rfl
  · rfl
  · rename_i v harr hnull
    cases v with
    | arr items => exact absurd rfl (harr items)
    | _ => rfl

omit [Spare] in
theorem file_of_findingOf? {path : String} {v : Value} {f : Finding}
    (h : Issue.findingOf? path v = .ok f) : f.file = path := by
  cases v with
  | obj fields =>
    rw [Issue.findingOf?] at h
    split at h
    · cases h
    · rw [Issue.toFinding?] at h
      split at h
      · cases h
      · split at h
        · cases h
        · cases h
          rfl
  | _ => cases h

omit [Spare] in
/-- Findings are made in the file that was asked about. -/
theorem file_of_mem_findingsUnder {path : String} {v : Option Value} {f : Finding}
    (h : f ∈ findingsUnder path v) : f.file = path := by
  unfold findingsUnder at h
  split at h
  · obtain ⟨v, -, hv⟩ := List.mem_filterMap.1 h
    cases hf : Issue.findingOf? path v with
    | error skip => simp [hf, Except.toOption] at hv
    | ok g =>
      obtain rfl : g = f := by simpa [hf, Except.toOption] using hv
      exact file_of_findingOf? hf
  · cases h

/-- **The analysis that a reply holds,** if its fields can be read. -/
theorem result_readAnalysis (text path : String) :
    (readAnalysis text path).result = (load text).result.map fun fields =>
      fields.elim (.empty true) fun fields =>
        analysisOf fields (findingsUnder path (fields.get? "issues")) := by
  rw [readAnalysis, result_bind]
  cases (load text).result with
  | error e => rfl
  | ok fields =>
    cases fields with
    | none => rfl
    | some fields =>
      simp only [Except.bind, result_bind, result_issuesOf]
      rfl

theorem result_readAnalysis_of_load {text : String} {fields : Option Fields} (path : String)
    (h : (load text).result = .ok fields) :
    (readAnalysis text path).result = .ok (fields.elim (.empty true) fun fields =>
      analysisOf fields (findingsUnder path (fields.get? "issues"))) := by
  rw [result_readAnalysis, h]
  rfl

theorem file_of_mem_readAnalysis {text path : String} {a : Analysis} {f : Finding}
    (ha : (readAnalysis text path).result = .ok a) (hf : f ∈ a.findings) : f.file = path := by
  cases hload : (load text).result with
  | error e =>
    rw [result_readAnalysis, hload] at ha
    cases ha
  | ok fields =>
    rw [result_readAnalysis_of_load path hload] at ha
    obtain rfl := Except.ok.inj ha
    cases fields with
    | none => cases hf
    | some fields => exact file_of_mem_findingsUnder hf

/-! ## Proposals

A reply without an object proposes the text as it was, with no confidence. -/

theorem result_readProposal_of_load {text : String} {fields : Option Fields} (before : String)
    (h : (load text).result = .ok fields) :
    (readProposal text before).result =
      fields.elim (.ok ⟨before, before, "Failed to generate fix", 0⟩) fun fields =>
        (percent ((fields.get? "confidence").getD .null)).map (proposalOf before fields) := by
  rw [readProposal, result_bind, h]
  cases fields with
  | none => rfl
  | some fields =>
    simp only [Except.bind, result_bind, Reading.ofExcept, Option.elim_some]
    cases percent ((fields.get? "confidence").getD .null) <;> rfl

end CodeReview.Reply
