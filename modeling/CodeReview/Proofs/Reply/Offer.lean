import CodeReview.Proofs.Reply.Result

/-!
# What a reply offers

A request for a fix sends a text and gets a proposal for it.  The proposal has that text in it
twice: as it was, and in place of a new text where the reply has none.  So two proposals from one
reply differ with the text they are for, and it is not clear what the *reply* says.

What the reply itself contributes is its `Offer`: a new text if there is one, a reason, and a
confidence.  A proposal is an offer put to a text (`result_readProposal`), and everything that does
not depend on the text is said of offers.  Above all, an offer has a new text exactly if the object
in the reply has a string under `fixedCode` that is not the empty one (`code_eq_some_iff`).  In a
proposal this cannot be told from a new text that happens to be the old one.
-/

set_option autoImplicit false

namespace CodeReview

open CodeReview.Json (Fields)

/-- What a reply to a request for a fix holds, whichever text the request was about. -/
structure Offer where
  code : Option String
  explanation : String
  confidence : Nat
  deriving Repr, DecidableEq, Inhabited

namespace Offer

/-- What a reply without an object holds. -/
def none : Offer := ⟨.none, "Failed to generate fix", 0⟩

/-- The offer that the fields of a reply make. -/
def ofFields (fields : Fields) (confidence : Nat) : Offer where
  code := (fields.get? "fixedCode").bind Reply.text?
  explanation := Reply.textOr "No explanation provided" (fields.get? "explanation")
  confidence := confidence

/-- The offer as a proposal for a text. -/
def toProposal (o : Offer) (before : String) : Proposal :=
  ⟨before, o.code.getD before, o.explanation, o.confidence⟩

end Offer

namespace Reply

theorem text?_eq_some_iff {v : Json.Value} {s : String} : text? v = some s ↔ v = .str s ∧ s ≠ "" := by
  cases v with
  | str t =>
    rw [text?, Json.Value.str.injEq]
    split
    · rename_i ht
      rw [ht]
      simp only [reduceCtorEq, false_iff, not_and]
      exact fun h hne => hne h.symm
    · rename_i ht
      rw [Option.some_inj]
      constructor
      · rintro rfl
        exact ⟨rfl, ht⟩
      · exact And.left
  | _ => simp [text?]

variable [Text.Spare]

/-- The offer in a reply. -/
def offerIn (reply : String) : Except Fault Offer :=
  (load reply).result.bind fun fields =>
    fields.elim (.ok .none) fun fields =>
      (percent ((fields.get? "confidence").getD .null)).map (.ofFields fields)

/-- **A proposal is an offer put to a text.** -/
theorem result_readProposal (reply before : String) :
    (readProposal reply before).result = (offerIn reply).map fun o => o.toProposal before := by
  rw [offerIn]
  cases hload : (load reply).result with
  | error e =>
    rw [readProposal, result_bind, hload]
    rfl
  | ok fields =>
    rw [result_readProposal_of_load before hload]
    cases fields with
    | none => rfl
    | some fields =>
      simp only [Option.elim_some, Except.bind]
      cases percent ((fields.get? "confidence").getD .null) <;> rfl

/-- **The new text of an offer** is the field `fixedCode` of the object in the reply, where that is
a string other than the empty one. -/
theorem code_eq_some_iff {reply code : String} {o : Offer} (h : offerIn reply = .ok o) :
    o.code = some code ↔ ∃ fields, (load reply).result = .ok (some fields) ∧
      fields.get? "fixedCode" = some (.str code) ∧ code ≠ "" := by
  rw [offerIn] at h
  cases hload : (load reply).result with
  | error e =>
    rw [hload] at h
    cases h
  | ok fields =>
    rw [hload] at h
    cases fields with
    | none =>
      cases h
      simp [Offer.none]
    | some fields =>
      cases hpercent : percent ((fields.get? "confidence").getD .null) with
      | error e =>
        simp only [Except.bind, Option.elim_some, hpercent, Except.map] at h
        cases h
      | ok n =>
        simp only [Except.bind, Option.elim_some, hpercent, Except.map, Except.ok.injEq] at h
        subst h
        simp only [Offer.ofFields, Option.bind_eq_some_iff, text?_eq_some_iff, Except.ok.injEq,
          Option.some.injEq, exists_eq_left']
        exact ⟨fun ⟨_, hv, rfl, hne⟩ => ⟨hv, hne⟩, fun ⟨hv, hne⟩ => ⟨_, hv, rfl, hne⟩⟩

/-- The new text of an offer is not empty. -/
theorem code_ne_empty {reply code : String} {o : Offer} (h : offerIn reply = .ok o)
    (hcode : o.code = some code) : code ≠ "" := by
  obtain ⟨fields, -, -, hne⟩ := (code_eq_some_iff h).1 hcode
  exact hne

end Reply
end CodeReview
