import CodeReview.Proofs.Json.Object
import CodeReview.Proofs.Reply.Result
import CodeReview.Proofs.Reply.Span

/-!
# Replies that are cut off

A reply that is cut off anywhere is read as a part of itself or as nothing.  The object in it is
closed by a guess, and the guess may be wrong; but then the strict reader refuses it.  What the
reader lets pass is the object cut off behind a field or inside the last one (`result_load_take`).
This is where the long way through `Json/Cut.lean` pays: nothing has to be known about the repair
but that it appends closing characters.

From there on nothing is made up.  For each kind of thing that is read from a field there is a
lemma about a field that is cut off (`FieldCut`), which may be missing, whole, or a container that
ended early:

* lists of issues, suggestions and insights lose their ends (`findingsUnder_cut`, `texts_cut`);
* a text is there in full or not at all, the summary of a file (`summaryOf_cut`) as well as the new
  text of one (`bind_text?_cut`);
* a confidence is there, or there is none and it counts as 0 (`percent_cut`).

A name that is written twice is excluded.  The later of the two counts, so a reply that loses it
shows the earlier one, which the whole reply does not.
-/

set_option autoImplicit false

namespace CodeReview.Reply

open CodeReview.Json CodeReview.Text

variable [Spare]

/-! ## The fields of a reply

The cut may be inside the prose, inside the object or behind it.  Inside the object, what is left
is cut once more, behind its last brace; if there is none, there is no span and nothing is loaded.
-/

/-- The span of a reply that is cut off, read or repaired. -/
theorem result_readOrRepair_cut {p q rest : List Char} {written : Fields} (hp : EndsInBrace p)
    (h : readWritten (readValue (maxDepth - 1)) (p ++ (q ++ rest)) = .ok (written, rest)) :
    (readOrRepair Span.balance ('\x7b' :: p)).result = .ok none ∨
      ∃ cut, CutOff IsCutField cut written ∧
        (readOrRepair Span.balance ('\x7b' :: p)).result
          = .ok (some (.obj (Fields.ofWritten cut))) := by
  obtain ⟨z, hbalance, hz⟩ := Span.balance_eq (hp.cons '\x7b')
  have hnil : IsClosing [] := ⟨0, 0, rfl⟩
  rw [result_readOrRepair, hbalance, List.cons_append]
  rcases read_closed hp h hnil with ⟨f, hfault⟩ | ⟨cut, hok, hcut⟩
  · rw [List.append_nil] at hfault
    rw [hfault]
    rcases read_closed hp h hz with ⟨f', hfault'⟩ | ⟨cut, hok, hcut⟩
    · exact .inl (by rw [hfault'])
    · exact .inr ⟨cut, hcut, by rw [hok]⟩
  · rw [List.append_nil] at hok
    exact .inr ⟨cut, hcut, by rw [hok]⟩

/-- The fields of a whole reply are those of the object in it. -/
theorem result_load_eq_some {prose text : String} {fields : Fields}
    (hprose : '\x7b' ∉ prose.toList) (htext : Json.read text = .ok (.obj fields)) :
    (load (prose ++ text)).result = .ok (some fields) := by
  obtain ⟨blanks, body, written, rest, hsplit, hblanks, hrest, hw, rfl, -⟩ :=
    exists_object_of_read htext
  have hstart : '\x7b' ∉ prose.toList ++ blanks := by simp [hprose, hblanks]
  have hreply : (prose ++ text).toList
      = (prose.toList ++ blanks) ++ ('\x7b' :: body ++ ['\x7d']) ++ rest := by
    rw [String.toList_append, hsplit]
    simp
  rw [result_load, hreply,
    Span.extract?_eq_some hstart rfl (EndsInBrace.append_brace ('\x7b' :: body)) hrest]
  simp only [result_readOrRepair, read_object hw]
  rfl

/-- **The fields of a reply that is cut off** are those of the whole reply up to some place, or
there are none. -/
theorem result_load_take {prose text : String} {fields : Fields} (hprose : '\x7b' ∉ prose.toList)
    (htext : Json.read text = .ok (.obj fields)) :
    ∃ written, writtenNames text = written.map Prod.fst ∧
      (load (prose ++ text)).result = .ok (some (Fields.ofWritten written)) ∧
      ∀ n, (load (String.ofList ((prose ++ text).toList.take n))).result = .ok none ∨
        ∃ cut, CutOff IsCutField cut written ∧
          (load (String.ofList ((prose ++ text).toList.take n))).result
            = .ok (some (Fields.ofWritten cut)) := by
  obtain ⟨blanks, body, written, rest, hsplit, hblanks, hrest, hw, rfl, hnames⟩ :=
    exists_object_of_read htext
  have hstart : '\x7b' ∉ prose.toList ++ blanks := by simp [hprose, hblanks]
  have hreply : (prose ++ text).toList
      = (prose.toList ++ blanks) ++ ('\x7b' :: body ++ ['\x7d']) ++ rest := by
    rw [String.toList_append, hsplit]
    simp
  refine ⟨written, hnames, result_load_eq_some hprose htext, fun n => ?_⟩
  have hprefix := hreply ▸ List.take_prefix n (prose ++ text).toList
  rw [result_load, String.toList_ofList]
  obtain hnone | ⟨span, hsome, ⟨q, hq⟩, hspan⟩ :=
    Span.extract?_of_prefix hstart rfl hrest hprefix
  · exact .inl (by rw [hreply, hnone])
  rw [hreply, hsome]
  obtain ⟨p, rfl, hp, hpq⟩ := hspan.exists_cons hq (by decide)
  have hcut : readWritten (readValue (maxDepth - 1)) (p ++ (q ++ rest))
      = .ok (written, rest) := by
    rw [← List.append_assoc, hpq, ← hw]
    simp
  rcases result_readOrRepair_cut hp hcut with hnone | ⟨cut, hcut, hok⟩
  · exact .inl (by simp only [hnone]; rfl)
  · exact .inr ⟨cut, hcut, by simp only [hok]; rfl⟩

/-! ## One field

The fields of the cut object are those of the whole one up to some place, and the last may be cut.
As no name stands twice, looking a name up finds the same field in both or nothing in the cut one.
-/

/-- What is found in place of a field of an object that is cut off: nothing, the field, or the
field cut off. -/
inductive FieldCut : Option Value → Option Value → Prop where
  | missing (whole : Option Value) : FieldCut none whole
  | kept (v : Option Value) : FieldCut v v
  | inside {cut whole : Value} (h : Cut cut whole) : FieldCut (some cut) (some whole)

omit [Spare] in
theorem fieldCut_get? {cut whole : Fields} (h : CutOff IsCutField cut whole) (name : String) :
    FieldCut (Fields.get? cut name) (Fields.get? whole name) := by
  cases h with
  | behind _ lost =>
    rw [Fields.get?, Fields.get?, List.lookup_append]
    cases cut.lookup name with
    | none => exact .missing _
    | some v => exact .kept _
  | @inside kept lost cut whole h =>
    obtain ⟨n, cut⟩ := cut
    obtain ⟨n', whole⟩ := whole
    obtain ⟨rfl, h⟩ : n = n' ∧ Cut cut whole := h
    rw [Fields.get?, Fields.get?, List.lookup_append, List.lookup_append]
    cases kept.lookup name with
    | some v => exact .kept _
    | none =>
      rw [Option.none_or, Option.none_or, List.lookup_cons, List.lookup_cons, List.lookup_nil]
      cases name == n with
      | true => exact .inside h
      | false => exact .missing _

omit [Spare] in
theorem map_fst_prefix_of_cutOff {cut whole : Fields} (h : CutOff IsCutField cut whole) :
    cut.map Prod.fst <+: whole.map Prod.fst := by
  cases h with
  | behind _ lost => exact (List.prefix_append cut lost).map Prod.fst
  | @inside kept lost cut whole h =>
    rw [List.map_append, List.map_append, List.map_cons, List.map_cons, List.map_nil, h.1]
    exact (List.prefix_append_right_inj _).2 ⟨lost.map Prod.fst, rfl⟩

section Field

variable {cut whole : Option Value}

omit [Spare] in
/-- What is picked out of a list of things other than lists loses its end. -/
theorem filterMap_prefix_of_cut {α : Type} {f : Value → Option α}
    (hf : ∀ items, f (.arr items) = none) {cut whole : List Value}
    (h : Cut (.arr cut) (.arr whole)) :
    cut.filterMap f <+: whole.filterMap f := by
  cases h with
  | items _ lost =>
    rw [List.filterMap_append]
    exact List.prefix_append _ _
  | item kept lost h =>
    rw [List.filterMap_append, List.filterMap_append, List.filterMap_cons_none (hf _),
      List.filterMap_nil, List.append_nil]
    exact List.prefix_append _ _

omit [Spare] in
theorem summaryOf_cut (h : FieldCut cut whole) :
    summaryOf cut = "" ∨ summaryOf cut = summaryOf whole := by
  cases h with
  | missing => exact .inl rfl
  | kept => exact .inr rfl
  | inside h => cases h <;> exact .inl rfl

omit [Spare] in
theorem texts_cut (h : FieldCut cut whole) : texts cut <+: texts whole := by
  cases h with
  | missing => exact List.nil_prefix
  | kept => exact List.prefix_rfl
  | @inside cut whole h =>
    have harr : ∀ items, text? (.arr items) = none := fun _ => rfl
    cases cut with
    | arr cut =>
      obtain ⟨whole, rfl⟩ : ∃ items, whole = .arr items := by cases h <;> exact ⟨_, rfl⟩
      exact filterMap_prefix_of_cut harr h
    | _ => exact List.nil_prefix

omit [Spare] in
theorem bind_text?_cut (h : FieldCut cut whole) :
    cut.bind text? = none ∨ cut.bind text? = whole.bind text? := by
  cases h with
  | missing => exact .inl rfl
  | kept => exact .inr rfl
  | inside h => cases h <;> exact .inl rfl

omit [Spare] in
theorem percent_cut {n : Nat} (h : FieldCut cut whole) (hn : percent (whole.getD .null) = .ok n) :
    ∃ m, percent (cut.getD .null) = .ok m ∧ (m = 0 ∨ m = n) := by
  cases h with
  | missing => exact ⟨0, rfl, .inl rfl⟩
  | kept => exact ⟨n, hn, .inr rfl⟩
  | inside h => cases h <;> exact ⟨0, rfl, .inl rfl⟩

omit [Spare] in
theorem findingsUnder_cut (path : String) (h : FieldCut cut whole) :
    findingsUnder path cut <+: findingsUnder path whole := by
  cases h with
  | missing => exact List.nil_prefix
  | kept => exact List.prefix_rfl
  | @inside cut whole h =>
    have harr : ∀ items, (Issue.findingOf? path (.arr items)).toOption = none := fun _ => rfl
    cases cut with
    | arr cut =>
      obtain ⟨whole, rfl⟩ : ∃ items, whole = .arr items := by cases h <;> exact ⟨_, rfl⟩
      exact filterMap_prefix_of_cut harr h
    | _ => exact List.nil_prefix

end Field

/-! ## What a cut reply says

Both statements are about every place to cut at, and about every reply that is prose with an object
behind it. -/

section Reply

variable {prose text : String} {fields : Fields}

/-- **A reply that is cut off makes no finding up.**  Prose without an opening brace and an object
with no name written twice make up a reply.  Wherever it is cut, what is left is read, the lists
read from it are those of the whole reply without their ends, and so is the summary, which is there
in full or not at all. -/
theorem readAnalysis_take (hprose : '\x7b' ∉ prose.toList)
    (htext : Json.read text = .ok (.obj fields)) (hnames : (writtenNames text).Nodup)
    (path : String) {full : Analysis}
    (hfull : (readAnalysis (prose ++ text) path).result = .ok full) (n : Nat) :
    ∃ cut, (readAnalysis (String.ofList ((prose ++ text).toList.take n)) path).result = .ok cut ∧
      cut.findings <+: full.findings ∧ cut.suggestions <+: full.suggestions ∧
      cut.insights <+: full.insights ∧ (cut.summary = "" ∨ cut.summary = full.summary) := by
  obtain ⟨written, hwritten, hwhole, htake⟩ := result_load_take hprose htext
  rw [result_readAnalysis_of_load path hwhole] at hfull
  obtain rfl := Except.ok.inj hfull
  rcases htake n with hnone | ⟨cut, hcut, hok⟩
  · refine ⟨_, result_readAnalysis_of_load path hnone, ?_⟩
    simp [Analysis.empty]
  · rw [hwritten] at hnames
    have hcutNames := hnames.sublist (map_fst_prefix_of_cutOff hcut).sublist
    rw [Fields.ofWritten_of_nodup hcutNames] at hok
    rw [Fields.ofWritten_of_nodup hnames]
    have hfield := fieldCut_get? hcut
    refine ⟨_, result_readAnalysis_of_load path hok, ?_, ?_, ?_, ?_⟩
    · exact findingsUnder_cut path (hfield "issues")
    · exact texts_cut (hfield "suggestions")
    · exact texts_cut (hfield "architecturalInsights")
    · exact summaryOf_cut (hfield "summary")

omit [Spare] in
/-- The first issue has a bracket and a brace in its message, the second one is cut off. -/
theorem readAnalysis_take_inside_issue :
    letI : Spare := ⟨0⟩
    ∃ cut, (readAnalysis (String.ofList (("Sure: " ++
        "\x7b\"issues\": [\x7b\"severity\": \"low\", \"message\": \"a [b \x7b\"\x7d, \x7b\x7d]\x7d"
        ).toList.take 63)) "a.js").result = .ok cut ∧
      cut.findings <+: [⟨.warning, .low, "General", "a [b \x7b", "a.js", 1, none, none, none,
        false⟩] ∧
      cut.suggestions <+: [] ∧ cut.insights <+: [] ∧ (cut.summary = "" ∨ cut.summary = "") := by
  let : Spare := ⟨0⟩
  have hread : (fieldsOf? (Json.read
      "\x7b\"issues\": [\x7b\"severity\": \"low\", \"message\": \"a [b \x7b\"\x7d, \x7b\x7d]\x7d"
      ).toOption).isSome = true := by decide +kernel
  have hfull : (readAnalysis ("Sure: " ++
      "\x7b\"issues\": [\x7b\"severity\": \"low\", \"message\": \"a [b \x7b\"\x7d, \x7b\x7d]\x7d")
      "a.js").result.toOption = some ⟨[⟨.warning, .low, "General", "a [b \x7b", "a.js", 1, none, none,
        none, false⟩], "", [], [], true⟩ := by decide +kernel
  obtain ⟨fields, htext⟩ := exists_read_of_isSome hread
  exact readAnalysis_take (by decide) htext (by decide +kernel) "a.js" (eq_ok_of_toOption hfull) 63

/-- **A fix that is cut off is no fix.**  Prose without an opening brace and an object with no name
written twice make up a reply.  Wherever it is cut, what is left proposes the new text of the whole
reply or the text as it was, and it is as sure of it as the whole reply is or not at all. -/
theorem readProposal_take (hprose : '\x7b' ∉ prose.toList)
    (htext : Json.read text = .ok (.obj fields)) (hnames : (writtenNames text).Nodup)
    (before : String) {full : Proposal}
    (hfull : (readProposal (prose ++ text) before).result = .ok full) (n : Nat) :
    ∃ cut, (readProposal (String.ofList ((prose ++ text).toList.take n)) before).result = .ok cut ∧
      (cut.patched = before ∨ cut.patched = full.patched) ∧
      (cut.confidence = 0 ∨ cut.confidence = full.confidence) := by
  obtain ⟨written, hwritten, hwhole, htake⟩ := result_load_take hprose htext
  rw [result_readProposal_of_load before hwhole] at hfull
  rcases htake n with hnone | ⟨cut, hcut, hok⟩
  · exact ⟨_, result_readProposal_of_load before hnone, .inl rfl, .inl rfl⟩
  · rw [hwritten] at hnames
    have hcutNames := hnames.sublist (map_fst_prefix_of_cutOff hcut).sublist
    rw [Fields.ofWritten_of_nodup hcutNames] at hok
    rw [Fields.ofWritten_of_nodup hnames] at hfull
    have hfield := fieldCut_get? hcut
    rw [Option.elim_some] at hfull
    cases hn : percent ((Fields.get? written "confidence").getD .null) with
    | error e =>
      rw [hn] at hfull
      cases hfull
    | ok m =>
      rw [hn] at hfull
      obtain rfl := Except.ok.inj hfull
      obtain ⟨k, hk, hkm⟩ := percent_cut (hfield "confidence") hn
      have hcutProposal := result_readProposal_of_load before hok
      rw [Option.elim_some, hk] at hcutProposal
      refine ⟨_, hcutProposal, ?_, hkm⟩
      rcases bind_text?_cut (hfield "fixedCode") with hnone | hsame
      · exact .inl (by simp only [proposalOf, textOr, hnone, Option.getD_none])
      · exact .inr (by simp only [proposalOf, textOr, hsame])

omit [Spare] in
/-- The new text is cut off behind a brace in it. -/
theorem readProposal_take_inside_text :
    letI : Spare := ⟨0⟩
    ∃ cut, (readProposal (String.ofList (("Here: " ++
        "\x7b\"confidence\": 90, \"fixedCode\": \"f() \x7b g[0] \x7d h()\"\x7d"
        ).toList.take 54)) "f()").result = .ok cut ∧
      (cut.patched = "f()" ∨ cut.patched = "f() \x7b g[0] \x7d h()") ∧
      (cut.confidence = 0 ∨ cut.confidence = 90) := by
  let : Spare := ⟨0⟩
  have hread : (fieldsOf? (Json.read
      "\x7b\"confidence\": 90, \"fixedCode\": \"f() \x7b g[0] \x7d h()\"\x7d").toOption).isSome
        = true := by decide +kernel
  have hfull : (readProposal ("Here: " ++
      "\x7b\"confidence\": 90, \"fixedCode\": \"f() \x7b g[0] \x7d h()\"\x7d") "f()").result.toOption
        = some ⟨"f()", "f() \x7b g[0] \x7d h()", "No explanation provided", 90⟩ := by decide +kernel
  obtain ⟨fields, htext⟩ := exists_read_of_isSome hread
  exact readProposal_take (by decide) htext (by decide +kernel) "f()" (eq_ok_of_toOption hfull) 54

end Reply

end CodeReview.Reply
