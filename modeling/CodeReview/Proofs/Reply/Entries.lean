import CodeReview.Proofs.Record.Valid
import CodeReview.Proofs.Reply.Result
import Mathlib.Data.List.Basic

/-!
# The entries of a list of issues

Each entry of the issues in a reply makes one finding, or it is skipped with one notice.  Which of
the two is decided by what the entry itself says (`Reply.States`): a severity that is known, a
message, and nothing but texts where texts belong.  Whatever stands for its line, its column or its
flag costs no entry its finding, as there is something to be taken for each of these in every case.
A finding says what its entry says, and no more (`Reply.IsFindingOf`).

An issue is read in two steps.  Its record is read field by field (`Issue.ofFields`), which fails
if a text is no text; and then it is made a finding (`Issue.toFinding?`), which fails if the
severity is not known or there is no message.  `States` is about the fields themselves and knows
nothing of the two steps, so a fault in the order of the tests would show here.

* `ofFields_eq_valid`, `toFinding?_eq_ok` — the two steps, each as an equivalence;
* `findingOf?_eq_ok` — the two together, in terms of `States` and `IsFindingOf`;
* `accounted` — an entry makes a finding or a notice, never both and never neither (`Accounted`);
* `readAnalysis_entries` — so it is for a whole list, with the entries in their order.
What stands for a line may be an integer, a real, or the text of an integer, and where there is
none of these, or a line before the first, it is the first; what stands for a flag is a truth value
or one of two words.  These are functions of the field (`intOf?`, `isTrue`) and are left as they
are: `IsFindingOf` says by which of them each field of a finding is made.
-/

set_option autoImplicit false

namespace CodeReview.Reply

open CodeReview.Json (Value Fields)
open CodeReview.Record (Checked SaysText optional_text_eq_valid)

variable {path : String} {fields : Fields} {severity : Severity} {message : String} {v : Value}

/-! ## What an entry says

`Accounted` is the specification of one entry.  It is a relation with one constructor for each of
the two outcomes, and both conditions are about the entry alone. -/

/-- The fields of an entry state a defect of this severity in these words. -/
structure States (fields : Fields) (severity : Severity) (message : String) : Prop where
  known : ∃ word, fields.get? "severity" = some (.str word) ∧ plainWord word = severity.word
  told : fields.get? "message" = some (.str message)
  worded : message ≠ ""
  category : ∃ category, SaysText (fields.get? "category") category
  suggestedFix : ∃ suggestedFix, SaysText (fields.get? "suggestedFix") suggestedFix

/-- The finding in the file at this path says what the fields of an entry say. -/
structure IsFindingOf (path : String) (fields : Fields) (severity : Severity) (message : String)
    (f : Finding) : Prop where
  file : f.file = path
  kind : f.kind = severity.kind
  severity : f.severity = severity
  message : f.message = message
  category : f.category = textOr "General" (fields.get? "category")
  /-- the integer that stands for the line if that counts from one, the first line otherwise -/
  line : (f.line : Int) = max 1 ((intOf? (fields.get? "line")).getD 1)
  /-- the integer that stands for the column if that counts from one, none otherwise -/
  column : f.column = (intOf? (fields.get? "column")).filter (1 ≤ ·)
  snippet : f.snippet = none
  suggestedFix : SaysText (fields.get? "suggestedFix") f.suggestedFix
  autoFixable : f.autoFixable = isTrue ["true", "yes"] (fields.get? "autoFixable")

/-- What becomes of an entry: it states a defect and makes the finding of it, without a notice, or
it states none and makes the notice that it is skipped. -/
inductive Accounted (path : String) (index : Nat) : Value → List Finding → List Notice → Prop where
  | found {fields : Fields} {severity : Severity} {message : String} {f : Finding}
      (stated : States fields severity message)
      (said : IsFindingOf path fields severity message f) :
      Accounted path index (.obj fields) [f] []
  | skipped {entry : Value}
      (stated : ∀ (fields : Fields) (severity : Severity) (message : String),
        entry = .obj fields → ¬States fields severity message)
      (reason : Skip) : Accounted path index entry [] [.issueSkipped index path reason]

/-- Whoever states a defect can be told it. -/
theorem States.exists_isFindingOf (h : States fields severity message) (path : String) :
    ∃ f, IsFindingOf path fields severity message f := by
  obtain ⟨suggestedFix, hfix⟩ := h.suggestedFix
  refine ⟨{ kind := severity.kind
            severity := severity
            category := textOr "General" (fields.get? "category")
            message := message
            file := path
            line := (max 1 ((intOf? (fields.get? "line")).getD 1)).toNat
            column := (intOf? (fields.get? "column")).filter (1 ≤ ·)
            snippet := none
            suggestedFix := suggestedFix
            autoFixable := isTrue ["true", "yes"] (fields.get? "autoFixable") },
    ⟨rfl, rfl, rfl, rfl, rfl, ?_, rfl, rfl, hfix, rfl⟩⟩
  exact Int.toNat_of_nonneg (by omega)

/-! ## Issues

The record of an issue has a text or nothing for each of its texts, where an absent field and one
that is null come to the same (`SaysText`). -/

namespace Issue

/-- **An issue is read** if its texts are texts, whatever else is in the fields. -/
theorem ofFields_eq_valid {issue : Issue} :
    ofFields fields = .valid issue ↔
      SaysText (fields.get? "severity") issue.severity ∧
      SaysText (fields.get? "category") issue.category ∧
      SaysText (fields.get? "message") issue.message ∧
      SaysText (fields.get? "suggestedFix") issue.suggestedFix ∧
      issue.line = intOf? (fields.get? "line") ∧
      issue.column = intOf? (fields.get? "column") ∧
      issue.autoFixable = isTrue ["true", "yes"] (fields.get? "autoFixable") := by
  constructor
  · intro h
    obtain ⟨_, _, h₄, hflag, rfl⟩ := Checked.seq_eq_valid.1 h
    obtain ⟨_, _, h₃, hfix, rfl⟩ := Checked.seq_eq_valid.1 h₄
    obtain ⟨_, _, h₂, hmessage, rfl⟩ := Checked.seq_eq_valid.1 h₃
    obtain ⟨_, _, h₁, hcategory, rfl⟩ := Checked.seq_eq_valid.1 h₂
    obtain ⟨_, _, h₀, hseverity, rfl⟩ := Checked.seq_eq_valid.1 h₁
    cases h₀
    cases hflag
    exact ⟨optional_text_eq_valid.1 hseverity, optional_text_eq_valid.1 hcategory,
      optional_text_eq_valid.1 hmessage, optional_text_eq_valid.1 hfix, rfl, rfl, rfl⟩
  · obtain ⟨line, column, severity, category, message, suggestedFix, autoFixable⟩ := issue
    rintro ⟨hseverity, hcategory, hmessage, hfix, rfl, rfl, rfl⟩
    refine Checked.seq_eq_valid.2 ⟨_, _, ?_, rfl, rfl⟩
    refine Checked.seq_eq_valid.2 ⟨_, _, ?_, optional_text_eq_valid.2 hfix, rfl⟩
    refine Checked.seq_eq_valid.2 ⟨_, _, ?_, optional_text_eq_valid.2 hmessage, rfl⟩
    refine Checked.seq_eq_valid.2 ⟨_, _, ?_, optional_text_eq_valid.2 hcategory, rfl⟩
    exact Checked.seq_eq_valid.2 ⟨_, _, rfl, optional_text_eq_valid.2 hseverity, rfl⟩

/-- An issue that makes a finding has a severity that is known, and a message. -/
theorem toFinding?_eq_ok {issue : Issue} {f : Finding} :
    issue.toFinding? path = .ok f ↔
      ∃ severity message, issue.severity? = some severity ∧ issue.message = some message ∧
        message ≠ "" ∧ f =
          { kind := severity.kind
            severity := severity
            category := (issue.category.filter (· ≠ "")).getD "General"
            message := message
            file := path
            line := issue.lineOrFirst
            column := issue.column.filter (1 ≤ ·)
            snippet := none
            suggestedFix := issue.suggestedFix
            autoFixable := issue.autoFixable } := by
  constructor
  · intro h
    rw [toFinding?] at h
    split at h
    · cases h
    · rename_i severity hseverity
      split at h
      · cases h
      · rename_i message hmessage
        cases h
        obtain ⟨hsome, hworded⟩ := Option.filter_eq_some_iff.1 hmessage
        exact ⟨severity, message, hseverity, hsome, of_decide_eq_true hworded, rfl⟩
  · rintro ⟨severity, message, hseverity, hsome, hworded, rfl⟩
    have hmessage : issue.message.filter (· ≠ "") = some message :=
      Option.filter_eq_some_iff.2 ⟨hsome, decide_eq_true hworded⟩
    simp only [toFinding?, hseverity, hmessage]

/-- The severity that a field states. -/
theorem severity?_eq_some {issue : Issue}
    (hsaid : SaysText (fields.get? "severity") issue.severity) :
    issue.severity? = some severity ↔
      ∃ word, fields.get? "severity" = some (.str word) ∧ plainWord word = severity.word := by
  have hempty : ∀ severity : Severity, plainWord "" ≠ severity.word := by
    intro severity
    cases severity <;> decide +kernel
  rw [severity?, Severity.ofWord?_eq_some_iff]
  generalize fields.get? "severity" = v at hsaid
  generalize issue.severity = s at hsaid
  cases hsaid with
  | absent => simp [hempty]
  | null => simp [hempty]
  | text word => simp

theorem lineOrFirst_eq (issue : Issue) :
    (issue.lineOrFirst : Int) = max 1 (issue.line.getD 1) := by
  rw [lineOrFirst]
  cases issue.line with
  | none => rfl
  | some n =>
    simp only [Option.getD_some]
    split <;> omega

theorem category_eq {issue : Issue} (h : SaysText (fields.get? "category") issue.category) :
    (issue.category.filter (· ≠ "")).getD "General"
      = textOr "General" (fields.get? "category") := by
  generalize fields.get? "category" = v at h
  generalize issue.category = s at h
  cases h with
  | absent => rfl
  | null => rfl
  | text s =>
    by_cases hs : s = ""
    · subst hs
      rfl
    · simp only [textOr, text?, Option.bind_some, if_neg hs, Option.getD_some]
      rw [Option.filter_some, if_pos (decide_eq_true hs), Option.getD_some]

/-- **An entry makes a finding** exactly if it states a defect, and the finding says what it
says. -/
theorem findingOf?_eq_ok {f : Finding} :
    findingOf? path v = .ok f ↔
      ∃ (fields : Fields) (severity : Severity) (message : String),
        v = .obj fields ∧ States fields severity message ∧
          IsFindingOf path fields severity message f := by
  constructor
  · intro h
    cases v with
    | obj fields =>
      rw [findingOf?] at h
      split at h
      · cases h
      · rename_i issue hvalid
        obtain ⟨hseverity, hcategory, hmessage, hfix, hline, hcolumn, hflag⟩ :=
          ofFields_eq_valid.1 hvalid
        obtain ⟨severity, message, hknown, hsome, hworded, rfl⟩ := toFinding?_eq_ok.1 h
        have hfield : Fields.get? fields "message" = some (.str message) := by
          rw [hsome] at hmessage
          generalize Fields.get? fields "message" = v at hmessage ⊢
          cases hmessage
          rfl
        exact ⟨fields, severity, message, rfl,
          ⟨(severity?_eq_some hseverity).1 hknown, hfield, hworded, ⟨_, hcategory⟩, ⟨_, hfix⟩⟩,
          ⟨rfl, rfl, rfl, rfl, category_eq hcategory, hline ▸ lineOrFirst_eq issue,
            by rw [hcolumn], rfl, hfix, hflag⟩⟩
    | _ => cases h
  · rintro ⟨fields, severity, message, rfl, hstates, hsaid⟩
    obtain ⟨word, hword, hknown⟩ := hstates.known
    obtain ⟨category, hcategory⟩ := hstates.category
    let issue : Issue := ⟨intOf? (fields.get? "line"), intOf? (fields.get? "column"), some word,
      category, some message, f.suggestedFix, isTrue ["true", "yes"] (fields.get? "autoFixable")⟩
    have hseverity : SaysText (fields.get? "severity") issue.severity := hword ▸ .text word
    have hmessage : SaysText (fields.get? "message") issue.message :=
      hstates.told ▸ .text message
    have hvalid : ofFields fields = .valid issue :=
      ofFields_eq_valid.2 ⟨hseverity, hcategory, hmessage, hsaid.suggestedFix, rfl, rfl, rfl⟩
    have hline : f.line = issue.lineOrFirst := by
      have hfirst : (issue.lineOrFirst : Int) = max 1 ((intOf? (fields.get? "line")).getD 1) :=
        lineOrFirst_eq issue
      exact Int.ofNat.inj (hsaid.line.trans hfirst.symm)
    have hgeneral : f.category = (issue.category.filter (· ≠ "")).getD "General" :=
      hsaid.category.trans (category_eq hcategory).symm
    have hfound : issue.toFinding? path = .ok f := by
      refine toFinding?_eq_ok.2 ⟨severity, message,
        (severity?_eq_some hseverity).2 hstates.known, rfl, hstates.worded, ?_⟩
      rw [← hgeneral, ← hline]
      cases f
      simp only [Finding.mk.injEq]
      exact ⟨hsaid.kind, hsaid.severity, trivial, hsaid.message, hsaid.file, trivial,
        hsaid.column, hsaid.snippet, rfl, hsaid.autoFixable⟩
    rw [findingOf?, hvalid]
    exact hfound

/-! ## Lists of issues

The list is gone through with the index of the first entry free, as the notice of an entry tells
its place in the whole list. -/

/-- The finding of an entry, if it makes one. -/
def found (path : String) (v : Value) : List Finding := (findingOf? path v).toOption.toList

/-- The notice of an entry, if it makes no finding. -/
def noticed (path : String) (index : Nat) (v : Value) : List Notice :=
  match findingOf? path v with
  | .ok _ => []
  | .error reason => [.issueSkipped index path reason]

/-- **Every entry is accounted for.** -/
theorem accounted (path : String) (index : Nat) (v : Value) :
    Accounted path index v (found path v) (noticed path index v) := by
  rw [found, noticed]
  cases h : findingOf? path v with
  | ok f =>
    obtain ⟨fields, severity, message, rfl, hstates, hsaid⟩ := findingOf?_eq_ok.1 h
    exact .found hstates hsaid
  | error reason =>
    refine .skipped (fun fields severity message hentry hstates => ?_) reason
    obtain ⟨f, hf⟩ := hstates.exists_isFindingOf path
    have hfound := findingOf?_eq_ok.2 ⟨fields, severity, message, hentry, hstates, hf⟩
    cases h.symm.trans hfound

/-- What is noticed of a list of issues is what is noticed of its entries, in their order. -/
theorem notices_findings (path : String) (index : Nat) (vs : List Value) :
    (findings path index vs).notices
      = (vs.mapIdx fun i v => noticed path (index + i) v).flatten := by
  induction vs generalizing index with
  | nil => rfl
  | cons v vs ih =>
    have hnext : (vs.mapIdx fun i v => noticed path (index + (i + 1)) v)
        = vs.mapIdx fun i v => noticed path (index + 1 + i) v := by
      simp only [Nat.add_assoc, Nat.add_comm 1]
    rw [List.mapIdx_cons, List.flatten_cons, hnext, ← ih, Nat.add_zero, findings, noticed]
    cases findingOf? path v with
    | ok f =>
      dsimp only
      rw [Reading.bind_of_ok _ (result_findings path (index + 1) vs)]
      simp
    | error reason =>
      dsimp only
      rw [Reading.bind_of_ok _ (Reading.result_notice _)]
      simp

end Issue

/-! ## Replies

The notices of the reply itself, of the repair for instance, come before those of its entries. -/

/-- **Issues are coerced one by one.**  Let the issues in a reply be a list.  Then each entry, in
its turn, makes one finding and no notice, or no finding and one notice, and which of them is
decided by what it states. -/
theorem readAnalysis_entries [Text.Spare] {text : String} {entries : List Value}
    (hload : (load text).result = .ok (some fields))
    (hissues : fields.get? "issues" = some (.arr entries)) (path : String) :
    ∃ (analysis : Analysis) (found : List (List Finding)) (noticed : List (List Notice)),
      (readAnalysis text path).result = .ok analysis ∧
      analysis.findings = found.flatten ∧
      (readAnalysis text path).notices = (load text).notices ++ noticed.flatten ∧
      found.length = entries.length ∧ noticed.length = entries.length ∧
      ∀ i entry fs notices, entries[i]? = some entry → found[i]? = some fs →
        noticed[i]? = some notices → Accounted path i entry fs notices := by
  refine ⟨_, entries.map (Issue.found path), entries.mapIdx (Issue.noticed path),
    result_readAnalysis_of_load path hload, ?_, ?_, List.length_map _, List.length_mapIdx, ?_⟩
  · simp only [Option.elim_some, analysisOf, hissues, findingsUnder]
    rw [List.filterMap_eq_flatMap_toList, List.flatMap_def]
    rfl
  · have hfindings := result_issuesOf path (some (.arr entries))
    rw [readAnalysis, Reading.bind_of_ok _ hload]
    dsimp only
    rw [hissues, Reading.bind_of_ok _ hfindings, issuesOf, Issue.notices_findings]
    simp
  · intro i entry fs notices hentry hfs hnotices
    rw [List.getElem?_map, hentry] at hfs
    rw [List.getElem?_mapIdx, hentry] at hnotices
    cases hfs
    cases hnotices
    exact Issue.accounted path i entry

/-- The first entry states a defect, at a line that cannot be one; the second has a number for its
category, and the third is a text. -/
theorem readAnalysis_entries_three :
    letI : Text.Spare := ⟨0⟩
    let reply := "\x7b\"issues\": [\x7b\"severity\": \" High\", \"message\": \"m\", \"line\": []"
      ++ "\x7d, \x7b\"severity\": \"low\", \"message\": \"m\", \"category\": 5\x7d, \"m\"]\x7d"
    let entries : List Value := [
      .obj [("severity", .str " High"), ("message", .str "m"), ("line", .arr [])],
      .obj [("severity", .str "low"), ("message", .str "m"), ("category", .int 5)], .str "m"]
    (load reply).result = .ok (some [("issues", .arr entries)]) ∧
    Fields.get? [("issues", .arr entries)] "issues" = some (.arr entries) ∧
    ∃ (analysis : Analysis) (found : List (List Finding)) (noticed : List (List Notice)),
      (readAnalysis reply "a.js").result = .ok analysis ∧
      analysis.findings = found.flatten ∧
      (readAnalysis reply "a.js").notices = (load reply).notices ++ noticed.flatten ∧
      found.length = entries.length ∧ noticed.length = entries.length ∧
      ∀ i entry fs notices, entries[i]? = some entry → found[i]? = some fs →
        noticed[i]? = some notices → Accounted "a.js" i entry fs notices := by
  let : Text.Spare := ⟨0⟩
  intro reply entries
  have hload : (load reply).result.toOption = some (some [("issues", .arr entries)]) := by
    decide +kernel
  have hfields := eq_ok_of_toOption hload
  exact ⟨hfields, rfl, readAnalysis_entries hfields rfl "a.js"⟩

end CodeReview.Reply
