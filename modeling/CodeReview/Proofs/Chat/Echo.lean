import CodeReview.Proofs.Chat.Recognised
import CodeReview.Proofs.Reply.Written
import CodeReview.Proofs.Session.Fixing

/-!
# Rehearsed fixes

Asked for a fix, the stand-in means to give the code back as it was, so that a rehearsal changes
nothing.  It finds the code in the request between the heading above it and the first place behind
that looks like its end, and code may hold such a place itself.  What is given back is then the
code up to there (`echoed`); if nothing stands before it, the reply has no new text, so the text
stays as it was.  `kept` is what a request leaves in either case.

A rehearsal asks for a fix once for each finding, each time about the text that the request before
left.  One would expect the text to become shorter and shorter.  It does so once at most, because a
kept text has no `codeEnd` in it or starts with it (`kept_kept`); so fixing any number of findings
is fixing one, and the result can be told from the first occurrence of `codeEnd` alone
(`applyFixes_standIn`).

There is a point in `codeIn_fix` that is easily missed.  A text without `codeEnd` in it might still
end in the beginning of one, and the request, which puts a `codeEnd` behind it, would then have one
earlier than that.  It has not, as the last character of `codeEnd` is in it only there
(`isFirstCut_codeEnd`).
-/

set_option autoImplicit false

namespace CodeReview.Chat.StandIn

open CodeReview.Fixing
open CodeReview.Text

/-! ## The code in a request

A request has its own `codeEnd` behind the code, so the code ends there unless it has one itself.
What stands before the code is fixed, and has not the first character of the heading above the
code; the finding comes behind the code, so it does not matter what it says. -/

/-- What is taken for the code where a text is shown: all that stands before `codeEnd`. -/
def echoed (text : String) : String :=
  String.ofList ((splitAtFirst? codeEnd text.toList).elim text.toList Prod.fst)

/-- The text between its two borders, as a request shows it. -/
theorem exists_toList_fix (text : String) (f : Finding) :
    ∃ before behind, (Prompt.fix text f none).toList
        = before ++ codeStart ++ (text.toList ++ codeEnd ++ behind) ∧ '原' ∉ before ∧
      "\"fixedCode\"".toList <:+: behind := by
  refine ⟨"你是资深开发工程师，需要修复下面代码中的一个问题。\n\n".toList,
    ("\n" ++ Prompt.findingLines f ++ "请给出：\n" ++ "1. 修复后的**完整**代码（不是只给改动的行）\n"
      ++ "2. 改动说明\n" ++ "3. 你对这个修复正确且安全的置信度（0-100）\n\n"
      ++ "输出 JSON（不要输出其它内容）：\n" ++ Prompt.fixShape ++ "\n").toList, ?_, by decide, ?_⟩
  · have hcontext : Prompt.contextLine none = "" := rfl
    unfold Prompt.fix Prompt.fenced codeStart codeEnd
    simp only [hcontext, toList_closingFence, String.toList_append, List.append_assoc,
      String.toList_empty, List.nil_append]
  · have hshape : "\"fixedCode\"".toList <:+: Prompt.fixShape.toList :=
      occursIn_iff_isInfix.1 (by decide +kernel)
    rw [String.toList_append, String.toList_append]
    exact hshape.trans ⟨_, _, rfl⟩

theorem ofPrompt_fix (text : String) (f : Finding) :
    Prompt.Purpose.ofPrompt (Prompt.fix text f none) = .fix := by
  obtain ⟨before, behind, hprompt, -, hmark⟩ := exists_toList_fix text f
  have hoccurs : occursIn "\"fixedCode\"".toList (Prompt.fix text f none).toList = true := by
    rw [occursIn_iff_isInfix, hprompt, ← List.append_assoc]
    exact hmark.trans (List.suffix_append _ _).isInfix
  simp only [Prompt.Purpose.ofPrompt, Prompt.Purpose.marks, List.find?_cons, hoccurs,
    Option.map_some, Option.getD_some]

theorem isFirstCut_codeEnd {before : List Char} (h : ¬codeEnd <:+: before) (rest : List Char) :
    IsFirstCut codeEnd (before ++ codeEnd ++ rest) before rest := by
  have hpart : codeEnd = codeEnd.dropLast ++ ['：'] := by decide
  have hlast : '：' ∉ codeEnd.dropLast := by decide
  exact isFirstCut_of_last hlast hpart h rest

/-- **The code in a request is what is echoed,** whatever the finding says. -/
theorem codeIn_fix (text : String) (f : Finding) :
    codeIn (Prompt.fix text f none).toList = (echoed text).toList := by
  obtain ⟨before, behind, hprompt, hbefore, -⟩ := exists_toList_fix text f
  have hstart : splitAtFirst? codeStart (Prompt.fix text f none).toList
      = some (before, text.toList ++ codeEnd ++ behind) := by
    rw [hprompt, splitAtFirst?_eq_some_iff]
    exact isFirstCut_of_head hbefore _
  rw [codeIn, hstart, echoed, String.toList_ofList]
  cases hcut : splitAtFirst? codeEnd text.toList with
  | none =>
    have hend := isFirstCut_codeEnd (splitAtFirst?_eq_none_iff.1 hcut) behind
    simp only [splitAtFirst?_eq_some_iff.2 hend, Option.elim_none]
  | some cut =>
    obtain ⟨code, rest⟩ := cut
    have hend := (splitAtFirst?_eq_some_iff.1 hcut).append (codeEnd ++ behind)
    rw [← List.append_assoc] at hend
    simp only [splitAtFirst?_eq_some_iff.2 hend, Option.elim_some]

/-! ## What a request leaves

The three cases are that `codeEnd` does not occur, that the text starts with it, and that it occurs
later.  In the first two the text is kept whole. -/

/-- The text behind a request for a fix: what is echoed, unless that is nothing. -/
def kept (text : String) : String := if echoed text = "" then text else echoed text

variable {text : String} {before rest : List Char}

theorem echoed_of_absent (h : ¬codeEnd <:+: text.toList) : echoed text = text := by
  rw [echoed, splitAtFirst?_eq_none_iff.2 h, Option.elim_none, String.ofList_toList]

theorem echoed_of_isFirstCut (h : IsFirstCut codeEnd text.toList before rest) :
    echoed text = String.ofList before := by
  rw [echoed, splitAtFirst?_eq_some_iff.2 h, Option.elim_some]

theorem kept_of_absent (h : ¬codeEnd <:+: text.toList) : kept text = text := by
  rw [kept, echoed_of_absent h, ite_self]

theorem kept_of_begins (h : codeEnd <+: text.toList) : kept text = text := by
  obtain ⟨rest, hrest⟩ := h
  have hcut : IsFirstCut codeEnd text.toList [] rest := ⟨hrest.symm, fun _ _ _ => Nat.zero_le _⟩
  rw [kept, echoed_of_isFirstCut hcut]
  exact if_pos rfl

theorem kept_of_isFirstCut (h : IsFirstCut codeEnd text.toList before rest) (hne : before ≠ []) :
    kept text = String.ofList before := by
  have hecho : String.ofList before ≠ "" := fun h => hne (String.ofList_eq_empty_iff.1 h)
  rw [kept, echoed_of_isFirstCut h, if_neg hecho]

/-- **A second request changes nothing.** -/
theorem kept_kept (text : String) : kept (kept text) = kept text := by
  by_cases h : codeEnd <:+: text.toList
  · cases hcut : splitAtFirst? codeEnd text.toList with
    | none => exact absurd h (splitAtFirst?_eq_none_iff.1 hcut)
    | some cut =>
      obtain ⟨before, rest⟩ := cut
      have hfirst := splitAtFirst?_eq_some_iff.1 hcut
      by_cases hbefore : before = []
      · have hbegins : codeEnd <+: text.toList := ⟨rest, by rw [hfirst.cut, hbefore]; rfl⟩
        rw [kept_of_begins hbegins, kept_of_begins hbegins]
      · rw [kept_of_isFirstCut hfirst hbefore]
        refine kept_of_absent ?_
        rw [String.toList_ofList]
        exact hfirst.absent_before (by decide)
  · rw [kept_of_absent h, kept_of_absent h]

/-! ## The reply

The reply is a written object, so it is loaded whatever the code in it is, and the confidence of
its offer is 90. -/

/-- What the stand-in offers for a text. -/
def offer (text : String) : Offer := ⟨(some (echoed text)).filter (· ≠ ""), "[MOCK] 未做改动", 90⟩

theorem patched_offer (text : String) : ((offer text).toProposal text).patched = kept text := by
  show ((some (echoed text)).filter (· ≠ "")).getD text = _
  rw [kept, Option.filter_some]
  split <;> simp_all

variable {σ : Type} {threshold : Int} {path : String}

variable [Spare]

/-- **The reply to a request for a fix** can be read and offers what is echoed. -/
theorem offerIn_fixReply (text : String) (f : Finding) :
    Reply.offerIn (fixReply (Prompt.fix text f none)) = .ok (offer text) := by
  let fields : Json.Fields := [("fixedCode", .str (echoed text)),
    ("explanation", .str "[MOCK] 未做改动"), ("confidence", .int 90)]
  have hbounded : (Json.Value.obj fields).Bounded 1 := by
    have hshort : Json.IsShort 90 := by decide
    simpa [fields] using hshort
  have hdepth : 1 ≤ Json.maxDepth := Json.le_maxDepth (by decide)
  have hload : Reply.load (fixReply (Prompt.fix text f none)) = ⟨[], .ok (some fields)⟩ := by
    rw [fixReply, codeIn_fix, String.ofList_toList]
    have h := Reply.loadWith_chars Reply.Span.balance List.not_mem_nil List.not_mem_nil hbounded
      hdepth .inline 0
    rwa [List.nil_append, List.append_nil] at h
  have hpercent : Reply.percent (.int 90) = .ok 90 := by decide +kernel
  have hconfidence : (fields.get? "confidence").getD .null = .int 90 := rfl
  have hcode : (fields.get? "fixedCode").bind Reply.text? = (offer text).code := by
    show (if echoed text = "" then none else some (echoed text)) = _
    rw [offer, Option.filter_some]
    split <;> simp_all
  have hoffer : Offer.ofFields fields 90 = offer text := by
    rw [Offer.ofFields, hcode]
    rfl
  rw [Reply.offerIn, hload]
  simp only [Except.bind, Option.elim_some, hconfidence, hpercent, Except.map, hoffer]

/-- **What is kept is accepted** where less confidence is enough. -/
theorem next_fix (h : threshold < 90) (b : FixBatch) (f : Finding) (s : σ) :
    next threshold path b f
        ⟨Prompt.fix b.text f none, (service.reply (Prompt.fix b.text f none) s).result⟩
      = b.accept path f ((offer b.text).toProposal b.text) := by
  have hanswer : answer (Prompt.fix b.text f none) = .ok (fixReply (Prompt.fix b.text f none)) := by
    rw [answer, ofPrompt_fix]
  have hoffer := offerIn_fixReply b.text f
  rw [result_reply, hanswer]
  generalize fixReply (Prompt.fix b.text f none) = reply at hoffer ⊢
  have haccepted : acceptedOffer threshold ⟨Prompt.fix b.text f none, .ok reply⟩
      = some (offer b.text) := by
    have hsure : threshold < ((offer b.text).confidence : Int) := h
    simp only [acceptedOffer, Except.toOption, Option.bind_some, hoffer, Option.filter_some, hsure,
      decide_true, if_true]
  rw [next, haccepted]

/-! ## All findings of a file

From the second finding on the text stays as it is, so the induction is about a text that is kept.
-/

/-- **One finding** is fixed, and the text is what is kept of it. -/
theorem exists_converses_step (h : threshold < 90) (path : String) (b : FixBatch) (f : Finding)
    (s : σ) :
    ∃ dialogue b', (step service threshold path b f).Converses service s dialogue b' s ∧
      b'.text = kept b.text ∧ b'.fixed = b.fixed + 1 ∧ b'.failed = b.failed := by
  have hstep := Fixing.converses_step service threshold path b f s
  rw [next_fix h] at hstep
  exact ⟨_, _, hstep, patched_offer b.text, rfl, rfl⟩

/-- Every finding is fixed, and a text that is kept stays as it is. -/
theorem exists_converses_steps_of_kept (h : threshold < 90) (path : String) {b : FixBatch}
    (hkept : kept b.text = b.text) (findings : List Finding) (s : σ) :
    ∃ dialogue b', (steps service threshold path b findings).Converses service s dialogue b' s ∧
      b'.text = b.text ∧ b'.fixed = b.fixed + findings.length ∧ b'.failed = b.failed := by
  induction findings generalizing b with
  | nil => exact ⟨[], b, Run.converses_pure b, rfl, rfl, rfl⟩
  | cons f findings ih =>
    obtain ⟨first, b₁, hfirst, htext, hfixed, hfailed⟩ := exists_converses_step h path b f s
    rw [hkept] at htext
    obtain ⟨dialogue, b', hrest, htext', hfixed', hfailed'⟩ := ih (b := b₁) (by rw [htext, hkept])
    refine ⟨_, b', hfirst.bind hrest, htext'.trans htext, ?_, hfailed'.trans hfailed⟩
    rw [hfixed', hfixed, List.length_cons]
    omega

/-- **A rehearsal of fixes** succeeds with every finding.  The text stays as it is if `codeEnd` does
not occur in it or is its start; otherwise all from the first occurrence on is lost, however many
findings there are. -/
theorem applyFixes_standIn {findings : List Finding} (h : findings ≠ []) (text path : String)
    (s : σ) :
    ∃ b, (applyFixes service standardThreshold text path findings s).result = .ok b ∧
      b.fixed = findings.length ∧ b.failed = 0 ∧
      (¬codeEnd <:+: text.toList ∨ codeEnd <+: text.toList → b.text = text) ∧
      ∀ before rest, before ≠ [] → IsFirstCut codeEnd text.toList before rest →
        b.text = String.ofList before := by
  obtain ⟨f, findings, rfl⟩ := List.exists_cons_of_ne_nil h
  have hthreshold : standardThreshold < 90 := by decide
  obtain ⟨first, b₁, hfirst, htext, hfixed, hfailed⟩ :=
    exists_converses_step hthreshold path (.start text) f s
  have hkept : kept b₁.text = b₁.text := by rw [htext, kept_kept]
  obtain ⟨dialogue, b, hrest, htext', hfixed', hfailed'⟩ :=
    exists_converses_steps_of_kept hthreshold path hkept findings s
  have hb : b.text = kept text := htext'.trans htext
  refine ⟨b, (hfirst.bind hrest).result, ?_, hfailed'.trans hfailed, ?_, ?_⟩
  · rw [hfixed', hfixed, List.length_cons]
    exact (Nat.add_right_comm 0 1 _).trans (congrArg (· + 1) (Nat.zero_add _))
  · rintro (hnot | hstart)
    · rw [hb, kept_of_absent hnot]
    · rw [hb, kept_of_begins hstart]
  · intro before rest hne hcut
    rw [hb, kept_of_isFirstCut hcut hne]

omit [Spare] in
/-- The text ends in a heading that it shares with the request. -/
theorem applyFixes_standIn_twice :
    letI : Spare := ⟨0⟩
    let f : Finding := ⟨.warning, .low, "c", "待修复问题：", "a.py", 1, none, none, none, true⟩
    [f, f] ≠ [] ∧ ∃ b : FixBatch,
      (applyFixes service standardThreshold "x = 1\n```\n\n待修复问题：y" "a.py" [f, f] ()).result
          = .ok b ∧
        b.fixed = 2 ∧ b.failed = 0 ∧ b.text = "x = 1" := by
  let : Spare := ⟨0⟩
  intro f
  have hne : [f, f] ≠ [] := List.cons_ne_nil _ _
  obtain ⟨b, hresult, hfixed, hfailed, -, hcut⟩ :=
    applyFixes_standIn hne "x = 1\n```\n\n待修复问题：y" "a.py" ()
  have hfirst : IsFirstCut codeEnd "x = 1\n```\n\n待修复问题：y".toList "x = 1".toList ['y'] :=
    splitAtFirst?_eq_some_iff.1 (by decide)
  have htext := hcut _ _ (by decide) hfirst
  rw [String.ofList_toList] at htext
  exact ⟨hne, b, hresult, hfixed, hfailed, htext⟩

end CodeReview.Chat.StandIn
