import CodeReview.Proofs.Session.Stopping
import CodeReview.Session.Overview
import CodeReview.Session.Paging

/-!
# What is asked of a service

Three operations ask a service: for the findings of a file, for a review of the architecture, and
for fixes.  Each is stopped by events alone (`Run.StoppedByEvents`).  They are chains of requests
and readings, so there is a lemma for each link, and the links are joined by
`Run.StoppedByEvents.bind`; the first operation repeats its link for as long as there are pages, by
recursion on how many may still be asked for.

With fixes the explanation of texts that cannot be written comes in.  Nothing is written here yet,
but what will be written is the text that fixing ends with.  That text is either the one it began
with or the text that one of the replies proposed, the last one that was sure enough
(`Fixing.text_steps`).
-/

set_option autoImplicit false

namespace CodeReview

open CodeReview.Run

variable [Text.Spare] {σ : Type} {service : Service σ}

/-! ## Findings

A page is one request.  The reply that stops the run is one that cannot be read as findings. -/

namespace Paging

variable {paging : Paging} {subject : Subject}

theorem stoppedByEvents_pages (left : Nat) (p : Progress) :
    StoppedByEvents (paging.pages service subject left p) := by
  induction left generalizing p with
  | zero => exact stoppedByEvents_pure p
  | succ left ih =>
    refine stoppedByEvents_attempt_ask_bind (fun e => (stoppedByEvents_pure p).log_bind) ?_
    intro reply
    refine stoppedByEvents_answered_bind (fun f => ?_) fun page => ?_
    · rw [Event.stops_findings_iff, Reply.result_readAnalysis_eq_error]
    · dsimp only
      split
      · exact stoppedByEvents_pure _
      · exact (ih _).log_bind

/-- **Asking about a file,** page by page. -/
theorem stoppedByEvents_analyze : StoppedByEvents (paging.analyze service subject) := by
  refine (stoppedByEvents_pages paging.maxChunks .start).bind fun p => ?_
  dsimp only
  split
  · exact (stoppedByEvents_pure p.result).log_bind
  · exact stoppedByEvents_pure p.result

end Paging

/-! ## The architecture

Here a reply may also stop the run by a score that is too large. -/

/-- **Asking about several files together.** -/
theorem stoppedByEvents_reviewArchitecture (files : List (String × String))
    (projectType : Option String) :
    StoppedByEvents (reviewArchitecture service files projectType) := by
  refine stoppedByEvents_attempt_ask_bind (fun e => (stoppedByEvents_pure _).log_bind) ?_
  intro reply
  refine stoppedByEvents_answered fun f => ?_
  rw [Event.stops_architecture_iff, Reply.result_readArchitecture_eq_error]

/-! ## Fixes

A proposal that cannot be read is a failed fix and not a fault, so no event of a fix stops the run.
-/

namespace Fixing

variable {threshold : Int} {path text : String} {b b' : FixBatch} {s : σ}

/-- Nothing that happens while a fix is asked for stops a run. -/
theorem harmless_propose (text : String) (f : Finding) (context : Option String) (s : σ) :
    Harmless (propose service text f context s).events := by
  refine harmless_bind (harmless_ask fun reply f => Event.not_stops_fix) fun reply => ?_
  exact harmless_ofReading _ _

/-- **One finding** is fixed or counted as failed. -/
theorem stoppedByEvents_step (b : FixBatch) (f : Finding) :
    StoppedByEvents (step service threshold path b f) := by
  refine StoppedByEvents.log_bind (StoppedByEvents.bind ?_ fun proposed => ?_)
  · exact stoppedByEvents_of_harmless fun s => ⟨harmless_propose b.text f none s, _, rfl⟩
  · cases proposed with
    | error e => exact (stoppedByEvents_pure _).log_bind
    | ok p =>
      dsimp only
      split
      · exact (stoppedByEvents_pure _).log_bind
      · exact (stoppedByEvents_pure _).log_bind

theorem stoppedByEvents_steps (b : FixBatch) (findings : List Finding) :
    StoppedByEvents (steps service threshold path b findings) := by
  induction findings generalizing b with
  | nil => exact stoppedByEvents_pure b
  | cons f findings ih => exact (stoppedByEvents_step b f).bind ih

theorem proposes_propose {f : Finding} {context : Option String} {p : Proposal}
    (h : (propose service text f context s).result = .ok p)
    (hsure : standardThreshold < p.confidence) :
    Proposes (propose service text f context s).events p.patched := by
  obtain ⟨reply, hreply, hread⟩ := exists_of_bind_ok h
  exact ⟨text, f, context, reply, p, events_subset_bind_left (answered_mem_ask hreply), hread, rfl,
    hsure⟩

/-- One finding leaves the text alone, or puts the text of a reply in its place. -/
theorem text_step {f : Finding}
    (h : (step service standardThreshold path b f s).result = .ok b') :
    b'.text = b.text ∨ Proposes (step service standardThreshold path b f s).events b'.text := by
  obtain ⟨⟨⟩, -, h⟩ := exists_of_bind_ok h
  obtain ⟨proposed, hproposed, h⟩ := exists_of_bind_ok h
  cases proposed with
  | error e =>
    obtain ⟨-, -, ⟨⟩⟩ := exists_of_bind_ok h
    exact .inl rfl
  | ok p =>
    dsimp only at h
    split at h
    · obtain ⟨-, -, ⟨⟩⟩ := exists_of_bind_ok h
      exact .inl rfl
    · rename_i hsure
      obtain ⟨-, -, ⟨⟩⟩ := exists_of_bind_ok h
      have hproposes := proposes_propose (Except.ok.inj hproposed) (Int.not_le.1 hsure)
      refine .inr (hproposes.mono ?_)
      exact fun e he => events_subset_bind_right rfl (events_subset_bind_left he)

/-- **The text after all findings** is the text before them or that of a reply. -/
theorem text_steps {findings : List Finding}
    (h : (steps service standardThreshold path b findings s).result = .ok b') :
    b'.text = b.text ∨
      Proposes (steps service standardThreshold path b findings s).events b'.text := by
  induction findings generalizing b s with
  | nil =>
    cases h
    exact .inl rfl
  | cons f findings ih =>
    rw [steps] at h ⊢
    obtain ⟨c, hc, h⟩ := exists_of_bind_ok h
    rcases ih h with htext | hproposes
    · rw [htext]
      exact (text_step hc).imp_right fun hproposes => hproposes.mono events_subset_bind_left
    · refine .inr (hproposes.mono ?_)
      exact events_subset_bind_right
        (k := fun c => steps service standardThreshold path c findings) hc

end Fixing
end CodeReview
