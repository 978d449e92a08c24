import CodeReview.Proofs.Reply.Written
import CodeReview.Report.Encoded

/-!
# Reports read back

A report that was written as JSON is there for other programs to read.  So it is read here, by the
reader for replies: it is loaded as the object of its fields, whatever its texts hold, with no
repair and no notice (`load_json`).  Braces in a message are no trouble, nor are quotes, line feeds
and control characters, as all of that is known of the writer (`Json.Value.Bounded.writes_chars`).

To be read back as *some* value is not enough, if two reports had the same.  No two have
(`Report.toValue_injective`).  This is proved type by type, as the value of a record is an object
with a value for each of its fields, and these tell their fields apart.

The only limit is that of the reader on the digits of an integer, so a report whose integers are
short is within the limits (`Report.bounded_toValue`).
-/

set_option autoImplicit false

namespace CodeReview

open CodeReview.Json (Value IsShort)

/-! ## The integers of a record

Lines, columns, counts and scores.  A finding has a line and perhaps a column, and so on upwards. -/

/-- The integers of a finding. -/
def Finding.integers (f : Finding) : List Int := f.line :: f.column.toList

/-- The integers of a review of the architecture. -/
def Architecture.integers (a : Architecture) : List Int := a.quality.toList

/-- The integers of some counts. -/
def Summary.integers (s : Summary) : List Int :=
  [s.total, s.critical, s.high, s.medium, s.low, s.autoFixable].map Int.ofNat

/-- The integers of some remarks. -/
def Insights.integers (i : Insights) : List Int := i.architecture.elim [] Architecture.integers

/-- The integers of a report. -/
def Report.integers (r : Report) : List Int :=
  r.filesAnalyzed :: r.summary.integers ++ r.findings.flatMap Finding.integers
    ++ r.insights.elim [] Insights.integers

/-! ## Values within the limits

The depth of each value is stated relative to a depth that is free, since the same value stands at
several places of a report. -/

variable {depth : Nat}

theorem bounded_ofText? (s : Option String) : (Value.ofText? s).Bounded depth := by
  cases s <;> simp [Value.ofText?]

theorem bounded_ofTexts (ss : List String) : (Value.ofTexts ss).Bounded (depth + 1) := by
  simp [Value.ofTexts]

theorem bounded_ofInt? {n : Option Int} (h : ∀ k ∈ n.toList, IsShort k) :
    (n.elim .null Value.int).Bounded depth := by
  cases n with
  | none => exact .null depth
  | some k => exact .int depth (h k List.mem_cons_self)

theorem Finding.bounded_toValue {f : Finding} (h : ∀ n ∈ f.integers, IsShort n) :
    f.toValue.Bounded (depth + 1) := by
  obtain ⟨hline, hcolumn⟩ := List.forall_mem_cons.1 h
  simpa [toValue, bounded_ofText?, Value.ofNat, hline] using bounded_ofInt? hcolumn

theorem Architecture.bounded_toValue {a : Architecture} (h : ∀ n ∈ a.integers, IsShort n) :
    a.toValue.Bounded (depth + 2) := by
  simpa [toValue, bounded_ofTexts] using bounded_ofInt? h

theorem Insights.bounded_toValue {i : Insights} (h : ∀ n ∈ i.integers, IsShort n) :
    i.toValue.Bounded (depth + 4) := by
  have hfile (f : FileInsight) : (fileValue f).Bounded (depth + 2) := by
    simp [fileValue, bounded_ofTexts]
  have harchitecture : (i.architecture.elim .null Architecture.toValue).Bounded (depth + 3) := by
    rw [integers] at h
    cases ha : i.architecture with
    | none => exact .null _
    | some a =>
      rw [ha] at h
      exact Architecture.bounded_toValue h
  simpa [toValue, hfile] using harchitecture

theorem Summary.bounded_toValue {s : Summary} (h : ∀ n ∈ s.integers, IsShort n) :
    s.toValue.Bounded (depth + 1) := by
  simpa [toValue, Value.ofNat, integers] using h

/-- **A report is within the limits** if its integers are short. -/
theorem Report.bounded_toValue {r : Report} (h : ∀ n ∈ r.integers, IsShort n) :
    r.toValue.Bounded 5 := by
  simp only [integers, List.cons_append, List.forall_mem_cons, List.forall_mem_append,
    List.forall_mem_flatMap] at h
  obtain ⟨hfiles, ⟨hsummary, hfindings⟩, hinsights⟩ := h
  have hvalue : (r.insights.elim .null Insights.toValue).Bounded 4 := by
    cases hi : r.insights with
    | none => exact .null _
    | some i =>
      rw [hi] at hinsights
      exact Insights.bounded_toValue hinsights
  have hfinding : ∀ f ∈ r.findings, f.toValue.Bounded 3 :=
    fun f hf => Finding.bounded_toValue (hfindings f hf)
  simpa [toValue, Summary.bounded_toValue hsummary, hfiles, hvalue] using hfinding

/-! ## Values tell records apart

What may be absent is null in JSON, which no text, integer or record is.  Equal objects have equal
fields at the same names, so each proof compares the fields one by one. -/

theorem Kind.word_injective : Function.Injective word := by
  intro k l
  cases k <;> cases l <;> decide

theorem Severity.word_injective : Function.Injective word := by
  intro s t
  cases s <;> cases t <;> decide

/-- What is absent is told from what is there. -/
theorem elim_null_injective {α : Type} {value : α → Value} (hinj : Function.Injective value)
    (hnull : ∀ a, value a ≠ .null) : Function.Injective fun o : Option α => o.elim .null value := by
  intro o o' h
  cases o with
  | none => cases o' with
    | none => rfl
    | some b => exact absurd h.symm (hnull b)
  | some a => cases o' with
    | none => exact absurd h (hnull a)
    | some b => exact congrArg some (hinj h)

theorem ofText?_injective : Function.Injective Value.ofText? :=
  elim_null_injective (fun _ _ h => Value.str.inj h) fun _ => Value.noConfusion

theorem ofInt?_injective : Function.Injective fun n : Option Int => n.elim .null Value.int :=
  elim_null_injective (fun _ _ h => Value.int.inj h) fun _ => Value.noConfusion

theorem ofTexts_injective : Function.Injective Value.ofTexts := fun _ _ h =>
  (List.map_injective_iff.2 fun _ _ h => Value.str.inj h) (Value.arr.inj h)

theorem Finding.toValue_injective : Function.Injective toValue := by
  intro f g h
  simp only [toValue, Value.obj.injEq, List.cons.injEq, Prod.mk.injEq, true_and, and_true,
    Value.str.injEq, Value.bool.injEq, Value.ofNat, Value.int.injEq, Int.natCast_inj] at h
  obtain ⟨hkind, hseverity, hcategory, hmessage, hfile, hline, hcolumn, hsnippet, hfix, hauto⟩ := h
  cases f
  cases g
  simp_all [Kind.word_injective.eq_iff, Severity.word_injective.eq_iff, ofText?_injective.eq_iff,
    ofInt?_injective.eq_iff]

theorem Architecture.toValue_injective : Function.Injective toValue := by
  intro a b h
  simp only [toValue, Value.obj.injEq, List.cons.injEq, Prod.mk.injEq, true_and, and_true] at h
  cases a
  cases b
  simp_all [ofTexts_injective.eq_iff, ofInt?_injective.eq_iff]

theorem Insights.toValue_injective : Function.Injective toValue := by
  have hfile : Function.Injective fileValue := by
    intro f g h
    simp only [fileValue, Value.obj.injEq, List.cons.injEq, Prod.mk.injEq, true_and, and_true,
      Value.str.injEq] at h
    cases f
    cases g
    simp_all [ofTexts_injective.eq_iff]
  have harchitecture :=
    elim_null_injective Architecture.toValue_injective fun _ => Value.noConfusion
  intro i j h
  simp only [toValue, Value.obj.injEq, List.cons.injEq, Prod.mk.injEq, true_and, and_true,
    Value.arr.injEq] at h
  cases i
  cases j
  simp_all [harchitecture.eq_iff, hfile.list_map.eq_iff]

theorem Summary.toValue_injective : Function.Injective toValue := by
  intro s t h
  cases s
  cases t
  simpa [toValue, Value.ofNat, Int.natCast_inj] using h

/-- **No two reports have one value.** -/
theorem Report.toValue_injective : Function.Injective toValue := by
  have hinsights := elim_null_injective Insights.toValue_injective fun _ => Value.noConfusion
  intro r s h
  simp only [toValue, Value.obj.injEq, List.cons.injEq, Prod.mk.injEq, true_and, and_true,
    Value.arr.injEq, Value.int.injEq, Value.str.injEq] at h
  cases r
  cases s
  simp_all [Summary.toValue_injective.eq_iff, Finding.toValue_injective.list_map.eq_iff,
    hinsights.eq_iff]

/-! ## Reading back

The object in the text is the whole text, so there is no prose to look through. -/

namespace Report

/-- **A report is read back** from its JSON text: nothing is noticed, and what is loaded is the
object of its fields in their order, with null for what is absent.  That is the object of no other
report. -/
theorem load_json [Text.Spare] (findings : List Finding) (filesAnalyzed : Int) (timestamp : String)
    (insights : Option Insights)
    (h : ∀ n ∈ (build findings filesAnalyzed timestamp insights).integers, IsShort n) :
    let counts := [("total_issues", .int findings.length),
      ("critical", .int (findings.countP (·.severity == .critical))),
      ("high", .int (findings.countP (·.severity == .high))),
      ("medium", .int (findings.countP (·.severity == .medium))),
      ("low", .int (findings.countP (·.severity == .low))),
      ("auto_fixable", .int (findings.countP (·.autoFixable)))]
    let fields := [("summary", .obj counts), ("findings", .arr (findings.map Finding.toValue)),
      ("files_analyzed", .int filesAnalyzed), ("timestamp", .str timestamp),
      ("ai_insights", insights.elim .null Insights.toValue)]
    Reply.load (build findings filesAnalyzed timestamp insights).json = ⟨[], .ok (some fields)⟩ ∧
      ∀ r : Report, r.toValue = .obj fields ↔
        r = build findings filesAnalyzed timestamp insights := by
  intro counts fields
  have hvalue : (build findings filesAnalyzed timestamp insights).toValue = .obj fields := rfl
  have hbounded := bounded_toValue h
  have hdepth : 5 ≤ Json.maxDepth := Json.le_maxDepth (by decide)
  have hload := Reply.loadWith_chars Reply.Span.balance List.not_mem_nil List.not_mem_nil
    (hvalue ▸ hbounded) hdepth .indented 0
  rw [List.nil_append, List.append_nil] at hload
  exact ⟨hload, fun r => by rw [← hvalue, toValue_injective.eq_iff]⟩

/-- Messages hold braces, a quote, a line feed and a control character. -/
theorem load_json_with_braces :
    letI : Text.Spare := ⟨0⟩
    let finding : Finding := ⟨.error, .high, "\x7d", "say \"\x7b[\"\n\x01", "a\\b.js", 7, some (-3),
      none, some "\x7f", true⟩
    let insights : Insights := ⟨some ⟨some 80, [], ["\x7d\x7d", "]"], []⟩, [⟨"c.js", ["\x7b"]⟩]⟩
    let r := build [finding, finding] 2 "T" (some insights)
    (∀ n ∈ r.integers, IsShort n) ∧
      ∃ fields, fields.map Prod.fst =
          ["summary", "findings", "files_analyzed", "timestamp", "ai_insights"] ∧
        Reply.load r.json = ⟨[], .ok (some fields)⟩ ∧
          ∀ s : Report, s.toValue = .obj fields ↔ s = r := by
  let : Text.Spare := ⟨0⟩
  intro finding insights r
  have hshort : ∀ n ∈ r.integers, IsShort n := by decide
  exact ⟨hshort, _, rfl, load_json [finding, finding] 2 "T" (some insights) hshort⟩

end Report
end CodeReview
