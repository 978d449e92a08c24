import CodeReview.Proofs.Session.Fixing

/-!
# Replies without a new text

A reply to a request for a fix may hold no new text: no object is read from it, or the `fixedCode`
of the object is missing, is no string or is the empty one (`LacksPatch`).  There is nothing to
apply then, and the text stays as it is.

Whether the finding counts as fixed is another matter, decided by the confidence alone.  If the
object states enough of it (`Assures`), the reply is accepted and recorded although it has nothing
to offer, and otherwise it is rejected.  `applyFixes_lacksPatch` is exact about this, at every
position of the list of findings and whatever was fixed before; `applyFixes_counts_unpatched` is a
reply by which a fix is counted and the text is what it was.

To speak of one position the list is taken apart there (`steps_append`), and what comes before and
behind is any dialogue at all.
-/

set_option autoImplicit false

namespace CodeReview

variable [Text.Spare] {threshold : Int} {reply : String}

namespace Reply

/-- The reply holds no new text. -/
def LacksPatch (reply : String) : Prop :=
  ∀ fields code, (load reply).result = .ok (some fields) →
    fields.get? "fixedCode" = some (.str code) → code = ""

/-- The object in the reply states a confidence above the threshold. -/
def Assures (threshold : Int) (reply : String) : Prop :=
  ∃ fields n, (load reply).result = .ok (some fields) ∧
    percent ((fields.get? "confidence").getD .null) = .ok n ∧ threshold < n

variable {o : Offer}

theorem LacksPatch.code_eq_none (h : LacksPatch reply) (ho : offerIn reply = .ok o) :
    o.code = none := by
  refine Option.eq_none_iff_forall_ne_some.2 fun code hcode => ?_
  obtain ⟨fields, hload, hfixed, hne⟩ := (code_eq_some_iff ho).1 hcode
  exact hne (h fields code hload hfixed)

/-- **An offer is as sure as its reply says,** and not sure at all if there is no object. -/
theorem assures_iff (hthreshold : 0 ≤ threshold) :
    Assures threshold reply ↔ ∃ o, offerIn reply = .ok o ∧ threshold < o.confidence := by
  rw [Assures, offerIn]
  cases (load reply).result with
  | error e => simp [Except.bind]
  | ok fields =>
    cases fields with
    | none =>
      have hzero : (Offer.none.confidence : Int) = 0 := rfl
      simp [Except.bind, hzero, hthreshold]
    | some fields =>
      simp only [Except.ok.injEq, Option.some.injEq, exists_and_left, exists_eq_left', Except.bind,
        Option.elim_some]
      cases percent ((fields.get? "confidence").getD .null) with
      | error e => simp [Except.map]
      | ok n => simp [Except.map, Offer.ofFields]

end Reply

namespace Fixing

open CodeReview.Reply

variable {σ : Type} {path : String} {b : FixBatch} {f : Finding} {e : Exchange}

theorem acceptedOffer_eq_some_iff {o : Offer} (he : e.answer = .ok reply) :
    acceptedOffer threshold e = some o ↔ offerIn reply = .ok o ∧ threshold < o.confidence := by
  rw [acceptedOffer, he, Option.filter_eq_some_iff, decide_eq_true_eq]
  refine and_congr_left fun _ => ?_
  show (offerIn reply).toOption = some o ↔ _
  cases offerIn reply <;> simp [Except.toOption]

/-- **One reply without a new text.** -/
theorem next_of_lacksPatch (hthreshold : 0 ≤ threshold) (he : e.answer = .ok reply)
    (h : LacksPatch reply) :
    (¬ Assures threshold reply → next threshold path b f e = b.reject) ∧
      (Assures threshold reply → ∃ p, p.patched = b.text ∧ threshold < p.confidence ∧
        next threshold path b f e = b.accept path f p) := by
  rw [next, assures_iff hthreshold]
  cases hoffer : acceptedOffer threshold e with
  | none =>
    refine ⟨fun _ => rfl, ?_⟩
    rintro ⟨o, ho, hsure⟩
    rw [(acceptedOffer_eq_some_iff he).2 ⟨ho, hsure⟩] at hoffer
    cases hoffer
  | some o =>
    obtain ⟨ho, hsure⟩ := (acceptedOffer_eq_some_iff he).1 hoffer
    refine ⟨fun hnot => absurd ⟨o, ho, hsure⟩ hnot, fun _ => ⟨o.toProposal b.text, ?_, hsure, rfl⟩⟩
    show o.code.getD b.text = b.text
    rw [h.code_eq_none ho]
    rfl

/-- The findings of a file can be taken in two parts. -/
theorem steps_append (service : Service σ) (threshold : Int) (path : String) (b : FixBatch)
    (findings more : List Finding) :
    steps service threshold path b (findings ++ more)
      = steps service threshold path b findings >>= fun b =>
        steps service threshold path b more := by
  induction findings generalizing b with
  | nil => rfl
  | cons f findings ih =>
    rw [List.cons_append, steps, steps, Run.bind_assoc]
    exact congrArg _ (funext fun b => ih b)

/-- The findings before one, that one, and those behind it. -/
theorem converses_steps_around {service : Service σ} {before behind : List Finding}
    {d d' d'' : List Exchange} {b₀ b b' b'' : FixBatch} {s₀ s s' s'' : σ}
    (hbefore : (steps service threshold path b₀ before).Converses service s₀ d b s)
    (hone : (step service threshold path b f).Converses service s d' b' s')
    (hbehind : (steps service threshold path b' behind).Converses service s' d'' b'' s'') :
    (steps service threshold path b₀ (before ++ f :: behind)).Converses service s₀
      (d ++ (d' ++ d'')) b'' s'' := by
  rw [steps_append]
  exact hbefore.bind (hone.bind hbehind)

/-- Nothing that was counted or recorded is taken back. -/
theorem Follows.grows {findings : List Finding} {dialogue : List Exchange} {b b' : FixBatch}
    (h : Follows threshold path findings dialogue b b')
    (hlength : dialogue.length = findings.length) :
    b.fixed ≤ b'.fixed ∧ b.failed ≤ b'.failed ∧ b.details <+: b'.details := by
  have haccepted : (acceptedOffers threshold dialogue).length ≤ findings.length :=
    hlength ▸ List.length_filterMap_le _ _
  obtain ⟨-, hfixed, htotal, hdetails⟩ := h
  refine ⟨by omega, by omega, ?_⟩
  rw [hdetails]
  exact List.prefix_append _ _

/-- **What a reply without a new text does.**  Whatever the service did before, the batch goes on
with the text as it was.  The finding counts as failed and leaves no record, unless the reply states
a confidence above the threshold: then it counts as fixed and is recorded. -/
theorem applyFixes_lacksPatch (service : Service σ) (text path : String)
    (before behind : List Finding) (f : Finding) (s : σ) :
    let run findings := applyFixes service standardThreshold text path findings s
    ∃ b b' b'', (run before).result = .ok b ∧ (run (before ++ [f])).result = .ok b' ∧
      (run (before ++ f :: behind)).result = .ok b'' ∧
      (b'.fixed ≤ b''.fixed ∧ b'.failed ≤ b''.failed ∧ b'.details <+: b''.details) ∧
      ∀ reply, (service.reply (Prompt.fix b.text f none) (run before).state).result = .ok reply →
        LacksPatch reply →
        b'.text = b.text ∧ (¬ Assures standardThreshold reply → b' = b.reject) ∧
          (Assures standardThreshold reply → ∃ p, p.patched = b.text ∧
            standardThreshold < p.confidence ∧ b' = b.accept path f p) := by
  intro run
  obtain ⟨dialogue, b, s₁, hbefore, -⟩ :=
    exists_converses_steps service standardThreshold path (.start text) before s
  have hone := converses_step service standardThreshold path b f s₁
  generalize hb' : next standardThreshold path b f _ = b' at hone
  obtain ⟨dialogue', b'', s₂, hbehind, hlength, -, hfollows⟩ := exists_converses_steps service
    standardThreshold path b' behind (service.reply (Prompt.fix b.text f none) s₁).state
  have hend : (steps service standardThreshold path b' []).Converses service
      (service.reply (Prompt.fix b.text f none) s₁).state [] b' _ := Run.converses_pure b'
  have hwith := converses_steps_around hbefore hone hend
  have hall := converses_steps_around hbefore hone hbehind
  refine ⟨b, b', b'', hbefore.result, hwith.result, hall.result, hfollows.grows hlength,
    fun reply hreply hpatch => ?_⟩
  have hstate : (run before).state = s₁ := hbefore.state
  rw [hstate] at hreply
  have hthreshold : 0 ≤ standardThreshold := by decide
  obtain ⟨hrejected, haccepted⟩ : _ ∧ _ := hb' ▸ next_of_lacksPatch hthreshold hreply hpatch
  refine ⟨?_, hrejected, haccepted⟩
  by_cases hsure : Assures standardThreshold reply
  · obtain ⟨p, hp, -, rfl⟩ := haccepted hsure
    exact hp
  · rw [hrejected hsure]
    rfl

omit [Text.Spare] in
/-- **A fix that fixes nothing.**  The reply has an empty new text and a confidence of 95: the
finding counts as fixed, with a record, although the text is what it was. -/
theorem applyFixes_counts_unpatched :
    letI : Text.Spare := ⟨0⟩
    let reply := "\x7b\"fixedCode\": \"\", \"explanation\": \"removed\", \"confidence\": 95\x7d"
    let service : Service Unit := ⟨fun _ _ => ⟨.ok reply, (), []⟩, true⟩
    let f : Finding := ⟨.error, .high, "c", "m", "a.js", 1, none, none, none, false⟩
    LacksPatch reply ∧
      (applyFixes service standardThreshold "f()\n" "a.js" [f] ()).result
        = .ok ⟨"f()\n", 1, 0, [⟨"a.js", 1, "m", 95, "removed"⟩]⟩ := by
  let : Text.Spare := ⟨0⟩
  intro reply service f
  have hload : (load reply).result = .ok (some [("fixedCode", .str ""),
      ("explanation", .str "removed"), ("confidence", .int 95)]) :=
    eq_ok_of_toOption (by decide +kernel)
  refine ⟨fun fields code hfields hcode => ?_, eq_ok_of_toOption (by decide +kernel)⟩
  cases hload.symm.trans hfields
  cases hcode
  rfl

end Fixing
end CodeReview
