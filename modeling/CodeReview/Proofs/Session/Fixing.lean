import CodeReview.Proofs.Reply.Offer
import CodeReview.Proofs.Session.Dialogue
import CodeReview.Session.Fixing

/-!
# The dialogue about the fixes of a file

Fixing the findings of a file is one exchange a finding.  An exchange is accepted if a reply came
back and makes an offer that is sure enough (`acceptedOffer`); whatever else comes back, a failure
or a reply that cannot be read, counts against the finding and ends nothing.  So there is always a
result, whatever the service does, and always an exchange for each finding.

The batch is a record that grows.  What it comes to is better said by the dialogue: the text after
some exchanges is the new text of the last accepted offer that has one (`textAfter`), the number of
fixes is the number of accepted offers, and the records are made of them.  `Follows` has this for
what some exchanges made of a batch, wherever the batch was before.

The text is what connects one exchange with the next, as the next prompt shows it.
`applyFixes_trace` says so for each of them, and that the text at the end is the one behind the
last.
-/

set_option autoImplicit false

namespace CodeReview.Fixing

open CodeReview.Run

variable [Text.Spare] {σ : Type} {service : Service σ} {threshold : Int} {path text : String}

/-! ## What is accepted

An offer without a new text may be accepted too; it leaves the text as it is. -/

/-- The offer of an exchange, if it is one that is accepted. -/
def acceptedOffer (threshold : Int) (e : Exchange) : Option Offer :=
  (e.answer.toOption.bind fun reply => (Reply.offerIn reply).toOption).filter fun o =>
    threshold < o.confidence

/-- The offers that are accepted in a dialogue. -/
def acceptedOffers (threshold : Int) (dialogue : List Exchange) : List Offer :=
  dialogue.filterMap (acceptedOffer threshold)

/-- The text that a dialogue leaves: the last new text of an accepted offer, or the text before. -/
def textAfter (threshold : Int) (text : String) (dialogue : List Exchange) : String :=
  ((acceptedOffers threshold dialogue).filterMap Offer.code).getLast?.getD text

/-- The record of an accepted offer. -/
def detailOf (path : String) (f : Finding) (o : Offer) : FixDetail :=
  ⟨path, f.line, f.message, o.confidence, o.explanation⟩

/-- The records of the accepted offers of a dialogue about some findings. -/
def details (threshold : Int) (path : String) (findings : List Finding)
    (dialogue : List Exchange) : List FixDetail :=
  (findings.zip dialogue).filterMap fun p => (acceptedOffer threshold p.2).map (detailOf path p.1)

@[simp] theorem acceptedOffers_cons (e : Exchange) (dialogue : List Exchange) :
    acceptedOffers threshold (e :: dialogue)
      = (acceptedOffer threshold e).toList ++ acceptedOffers threshold dialogue := by
  rw [acceptedOffers, List.filterMap_cons]
  cases acceptedOffer threshold e <;> rfl

theorem details_cons (f : Finding) (findings : List Finding) (e : Exchange)
    (dialogue : List Exchange) :
    details threshold path (f :: findings) (e :: dialogue)
      = ((acceptedOffer threshold e).map (detailOf path f)).toList
        ++ details threshold path findings dialogue := by
  rw [details, List.zip_cons_cons, List.filterMap_cons]
  cases acceptedOffer threshold e <;> rfl

/-- As many records as accepted offers, if every exchange is about a finding. -/
theorem length_details {findings : List Finding} {dialogue : List Exchange}
    (h : dialogue.length = findings.length) :
    (details threshold path findings dialogue).length
      = (acceptedOffers threshold dialogue).length := by
  induction findings generalizing dialogue with
  | nil =>
    obtain rfl := List.length_eq_zero_iff.1 h
    rfl
  | cons f findings ih =>
    cases dialogue with
    | nil => cases h
    | cons e dialogue =>
      rw [details_cons, acceptedOffers_cons, List.length_append, List.length_append,
        ih (Nat.succ.inj h)]
      cases acceptedOffer threshold e <;> rfl

@[simp] theorem textAfter_nil : textAfter threshold text [] = text := rfl

/-- The text after an exchange is the text before the others. -/
theorem textAfter_cons (e : Exchange) (dialogue : List Exchange) :
    textAfter threshold text (e :: dialogue)
      = textAfter threshold (textAfter threshold text [e]) dialogue := by
  simp only [textAfter, acceptedOffers_cons, List.filterMap_append, List.getLast?_append,
    Option.getD_or]
  rfl

theorem textAfter_singleton (e : Exchange) :
    textAfter threshold text [e] = ((acceptedOffer threshold e).bind Offer.code).getD text := by
  rw [textAfter, acceptedOffers_cons]
  cases acceptedOffer threshold e with
  | none => rfl
  | some o =>
    show ([o].filterMap Offer.code).getLast?.getD text = o.code.getD text
    rw [List.filterMap_cons]
    cases o.code <;> rfl

/-- The text that a dialogue leaves is the text before or the new text of a reply. -/
theorem textAfter_cases (threshold : Int) (text : String) (dialogue : List Exchange) :
    textAfter threshold text dialogue = text ∨
      ∃ e ∈ dialogue, ∃ reply o, e.answer = .ok reply ∧ Reply.offerIn reply = .ok o ∧
        o.code = some (textAfter threshold text dialogue) := by
  rw [textAfter]
  cases hlast : ((acceptedOffers threshold dialogue).filterMap Offer.code).getLast? with
  | none => exact .inl rfl
  | some code =>
    obtain ⟨o, ho, hcode⟩ := List.mem_filterMap.1 (List.mem_of_getLast? hlast)
    obtain ⟨e, he, haccepted⟩ := List.mem_filterMap.1 ho
    obtain ⟨hoffer, -⟩ := Option.filter_eq_some_iff.1 haccepted
    obtain ⟨reply, hreply, hread⟩ := Option.bind_eq_some_iff.1 hoffer
    exact .inr ⟨e, he, reply, o, Reply.eq_ok_of_toOption hreply, Reply.eq_ok_of_toOption hread,
      hcode⟩

/-! ## One finding

`next` is the step of the batch as a function of the exchange.  All that the run adds to it is the
request itself. -/

/-- What an exchange about a finding makes of a batch. -/
def next (threshold : Int) (path : String) (b : FixBatch) (f : Finding) (e : Exchange) : FixBatch :=
  match acceptedOffer threshold e with
  | some o => b.accept path f (o.toProposal b.text)
  | none => b.reject

/-- A request for a fix is one exchange, and what it proposes is read from the answer. -/
theorem converses_attempt_propose (service : Service σ) (text : String) (f : Finding) (s : σ) :
    (propose service text f none).attempt.Converses service s
      [⟨Prompt.fix text f none, (service.reply (Prompt.fix text f none) s).result⟩]
      ((service.reply (Prompt.fix text f none) s).result.bind fun reply =>
        (Reply.readProposal reply text).result)
      (service.reply (Prompt.fix text f none) s).state := by
  rw [propose, attempt_bind]
  refine (converses_attempt_ask service _ s).bind_silent ?_
  cases (service.reply (Prompt.fix text f none) s).result with
  | error e => exact converses_pure _
  | ok reply => exact converses_attempt_ofReading _

/-- **One finding** is one exchange about the text as it is. -/
theorem converses_step (service : Service σ) (threshold : Int) (path : String) (b : FixBatch)
    (f : Finding) (s : σ) :
    (step service threshold path b f).Converses service s
      [⟨Prompt.fix b.text f none, (service.reply (Prompt.fix b.text f none) s).result⟩]
      (next threshold path b f
        ⟨Prompt.fix b.text f none, (service.reply (Prompt.fix b.text f none) s).result⟩)
      (service.reply (Prompt.fix b.text f none) s).state := by
  refine Converses.log_bind ((converses_attempt_propose service b.text f s).bind_silent ?_)
  rw [next, acceptedOffer]
  cases (service.reply (Prompt.fix b.text f none) s).result with
  | error e => exact (converses_pure b.reject).log_bind
  | ok reply =>
    simp only [Except.bind, Except.toOption, Option.bind_some, Reply.result_readProposal]
    cases Reply.offerIn reply with
    | error e => exact (converses_pure b.reject).log_bind
    | ok o =>
      simp only [Except.map]
      have hconfidence : (o.toProposal b.text).confidence = o.confidence := rfl
      rw [hconfidence]
      by_cases hsure : (o.confidence : Int) ≤ threshold
      · have hfilter : (some o).filter (fun o => decide (threshold < o.confidence)) = none := by
          rw [Option.filter_some, if_neg (by simpa using hsure)]
        rw [if_pos hsure, hfilter]
        exact (converses_pure b.reject).log_bind
      · have hfilter : (some o).filter (fun o => decide (threshold < o.confidence)) = some o := by
          rw [Option.filter_some, if_pos (by simpa using hsure)]
        rw [if_neg hsure, hfilter]
        exact (converses_pure _).log_bind

/-! ## All findings

`Shows` is about prompts and `Follows` about the batch; both are carried by one induction over the
findings, with the text and the batch free. -/

/-- What the exchanges about some findings make of a batch. -/
structure Follows (threshold : Int) (path : String) (findings : List Finding)
    (dialogue : List Exchange) (b b' : FixBatch) : Prop where
  text : b'.text = textAfter threshold b.text dialogue
  fixed : b'.fixed = b.fixed + (acceptedOffers threshold dialogue).length
  total : b'.fixed + b'.failed = b.fixed + b.failed + findings.length
  details : b'.details = b.details ++ details threshold path findings dialogue

theorem follows_nil (b : FixBatch) : Follows threshold path [] [] b b :=
  ⟨rfl, rfl, rfl, (List.append_nil _).symm⟩

theorem Follows.cons {b b' : FixBatch} {f : Finding} {e : Exchange} {findings : List Finding}
    {dialogue : List Exchange}
    (h : Follows threshold path findings dialogue (next threshold path b f e) b') :
    Follows threshold path (f :: findings) (e :: dialogue) b b' := by
  obtain ⟨htext, hfixed, htotal, hdetails⟩ := h
  rw [next] at htext hfixed htotal hdetails
  cases hoffer : acceptedOffer threshold e with
  | none =>
    simp only [hoffer, FixBatch.reject] at htext hfixed htotal hdetails
    refine ⟨?_, ?_, ?_, ?_⟩
    · rw [htext, textAfter_cons, textAfter_singleton, hoffer]
      rfl
    · rw [hfixed, acceptedOffers_cons, hoffer]
      rfl
    · rw [htotal, List.length_cons]
      omega
    · rw [hdetails, details_cons, hoffer]
      rfl
  | some o =>
    simp only [hoffer, FixBatch.accept, Offer.toProposal] at htext hfixed htotal hdetails
    refine ⟨?_, ?_, ?_, ?_⟩
    · rw [htext, textAfter_cons, textAfter_singleton, hoffer]
      rfl
    · rw [hfixed, acceptedOffers_cons, hoffer, List.length_append]
      exact Nat.add_assoc _ _ _
    · rw [htotal, List.length_cons]
      omega
    · rw [hdetails, details_cons, hoffer, List.append_assoc]
      rfl

/-- The prompts of a dialogue show the findings one by one, each over the text that the exchanges
before it left. -/
def Shows (threshold : Int) (text : String) (findings : List Finding)
    (dialogue : List Exchange) : Prop :=
  ∀ before e behind, dialogue = before ++ e :: behind →
    ∃ f, findings[before.length]? = some f ∧
      e.prompt = Prompt.fix (textAfter threshold text before) f none

theorem Shows.cons {f : Finding} {e : Exchange} {findings : List Finding}
    {dialogue : List Exchange} (he : e.prompt = Prompt.fix text f none)
    (h : Shows threshold (textAfter threshold text [e]) findings dialogue) :
    Shows threshold text (f :: findings) (e :: dialogue) := by
  intro before e' behind hsplit
  cases before with
  | nil =>
    obtain ⟨rfl, -⟩ := List.cons.inj hsplit
    exact ⟨f, rfl, he⟩
  | cons e'' before =>
    rw [List.cons_append, List.cons.injEq] at hsplit
    obtain ⟨rfl, hsplit⟩ := hsplit
    obtain ⟨g, hg, hprompt⟩ := h before e' behind hsplit
    exact ⟨g, hg, by rw [hprompt, textAfter_cons e before]⟩

theorem text_next (b : FixBatch) (f : Finding) (e : Exchange) :
    (next threshold path b f e).text = textAfter threshold b.text [e] := by
  rw [next, textAfter_singleton]
  cases acceptedOffer threshold e <;> rfl

/-- **The findings of a file** are one exchange each, from wherever the batch is. -/
theorem exists_converses_steps (service : Service σ) (threshold : Int) (path : String)
    (b : FixBatch) (findings : List Finding) (s : σ) :
    ∃ dialogue b' s', (steps service threshold path b findings).Converses service s dialogue b' s' ∧
      dialogue.length = findings.length ∧ Shows threshold b.text findings dialogue ∧
      Follows threshold path findings dialogue b b' := by
  induction findings generalizing b s with
  | nil =>
    refine ⟨[], b, s, converses_pure b, rfl, fun before e behind h => ?_, follows_nil b⟩
    exact absurd h.symm (List.append_ne_nil_of_right_ne_nil _ (List.cons_ne_nil _ _))
  | cons f findings ih =>
    have hstep := converses_step service threshold path b f s
    obtain ⟨dialogue, b', s', hrest, hlength, hshows, hfollows⟩ := ih
      (next threshold path b f
        ⟨Prompt.fix b.text f none, (service.reply (Prompt.fix b.text f none) s).result⟩)
      (service.reply (Prompt.fix b.text f none) s).state
    rw [text_next] at hshows
    exact ⟨_, b', s', hstep.bind hrest, congrArg Nat.succ hlength, hshows.cons rfl, hfollows.cons⟩

/-- **What becomes of a text.**  Whatever the service does, fixing findings of a text has a result.
Each finding is one exchange, in order, and its prompt shows the text that the exchanges before it
left.  Every finding is counted once; the fixed ones are those whose exchange is accepted, and each
of them has a record.  The text in the end is the last new text that an accepted reply had, or the
text at the start, so a text does not become empty. -/
theorem applyFixes_trace (service : Service σ) (threshold : Int) (text path : String)
    (findings : List Finding) (s : σ) :
    ∃ dialogue b s',
      (applyFixes service threshold text path findings).Converses service s dialogue b s' ∧
        dialogue.length = findings.length ∧
        (∀ before e behind, dialogue = before ++ e :: behind →
          ∃ f, findings[before.length]? = some f ∧
            e.prompt = Prompt.fix (textAfter threshold text before) f none) ∧
        b.fixed + b.failed = findings.length ∧ b.details.length = b.fixed ∧
        b.fixed = (acceptedOffers threshold dialogue).length ∧
        b.details = details threshold path findings dialogue ∧
        b.text = textAfter threshold text dialogue ∧ (text ≠ "" → b.text ≠ "") := by
  obtain ⟨dialogue, b, s', hconverses, hlength, hshows, hfollows⟩ :=
    exists_converses_steps service threshold path (.start text) findings s
  have hfixed : b.fixed = (acceptedOffers threshold dialogue).length := by
    rw [hfollows.fixed]
    exact Nat.zero_add _
  have htotal : b.fixed + b.failed = findings.length := by
    rw [hfollows.total]
    exact Nat.zero_add _
  have hdetails : b.details = details threshold path findings dialogue := hfollows.details
  have htext : b.text = textAfter threshold text dialogue := hfollows.text
  refine ⟨dialogue, b, s', hconverses, hlength, hshows, htotal, ?_, hfixed, hdetails, htext,
    fun hne => ?_⟩
  · rw [hdetails, length_details hlength, hfixed]
  · rw [htext]
    rcases textAfter_cases threshold text dialogue with hsame | ⟨e, -, reply, o, -, hread, hcode⟩
    · rw [hsame]
      exact hne
    · exact Reply.code_ne_empty hread hcode

end CodeReview.Fixing
