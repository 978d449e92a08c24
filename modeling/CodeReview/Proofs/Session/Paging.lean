import CodeReview.Proofs.Session.Chunks
import CodeReview.Proofs.Session.Yields
import CodeReview.Reply.Architecture

/-!
# What a service that answers alike says about a file

A service that answers a prompt always alike, and whose answers can be read, is asked the same
about a file whenever it is asked, and says the same (`Paging.exists_alike_analyze`): the prompt
for a page is made of the file and the pages before it, and those were the same by induction.

It does not matter then when the file is reviewed, what was asked before, or what else is in the
state.  An analysis depends on nothing but the disk (`Paging.exists_yields_analyze`), and not even
on that; it is put this way because the runs around it do.

`IsReadable` is asked of replies and not of requests: the reply to a request for findings is also
one that a review of the architecture could be made of.  That is more than is needed and is easy to
check for a reply that is given.
-/

set_option autoImplicit false

namespace CodeReview

open CodeReview.Run

/-- A reply can be read as findings and as a review of the architecture. -/
def IsReadable [Text.Spare] (reply : String) : Prop :=
  (∀ path, ∃ a, (Reply.readAnalysis reply path).result = .ok a) ∧
    ∃ a, (Reply.readArchitecture reply).result = .ok a

/-- It can be seen by reading it. -/
theorem isReadable_of_isSome [Text.Spare] {reply : String}
    (hload : (Reply.load reply).result.toOption.isSome = true)
    (hreview : (Reply.readArchitecture reply).result.toOption.isSome = true) :
    IsReadable reply := by
  obtain ⟨fields, hfields⟩ := Option.isSome_iff_exists.1 hload
  obtain ⟨a, ha⟩ := Option.isSome_iff_exists.1 hreview
  have hok : (Reply.load reply).result = .ok fields := Reply.eq_ok_of_toOption hfields
  exact ⟨fun path => ⟨_, Reply.result_readAnalysis_of_load path hok⟩, a,
    Reply.eq_ok_of_toOption ha⟩

/-- **A service with one reply** that can be read answers always alike, and readably. -/
theorem readable_always [Text.Spare] {σ : Type} (disk : σ → Disk) (reply : String)
    (hload : (Reply.load reply).result.toOption.isSome = true)
    (hreview : (Reply.readArchitecture reply).result.toOption.isSome = true) :
    (∀ service ∈ some (Service.always reply), service.AnswersBy disk fun _ => .ok reply) ∧
      ∀ (_ : String) (text : String), Except.ok (ε := Fault) reply = .ok text →
        IsReadable text := by
  constructor
  · rintro service ⟨⟩
    exact Service.answersBy_always disk reply
  · rintro prompt text ⟨⟩
    exact isReadable_of_isSome hload hreview

/-- All answers to requests for findings can be read. -/
def AnswersFindings [Text.Spare] (answer : String → Except Fault String) : Prop :=
  ∀ (page : Prompt.Page) (reply : String), answer page.prompt = .ok reply →
    ∃ a, (Reply.readAnalysis reply page.path).result = .ok a

/-- One answer that holds fields or nothing can be read whatever is asked. -/
theorem answersFindings_of_isSome [Text.Spare] {reply : String}
    (h : (Reply.load reply).result.toOption.isSome = true) :
    AnswersFindings fun _ => .ok reply := by
  rintro page reply' ⟨⟩
  obtain ⟨fields, hfields⟩ := Option.isSome_iff_exists.1 h
  exact ⟨_, Reply.result_readAnalysis_of_load page.path (Reply.eq_ok_of_toOption hfields)⟩

namespace Paging

variable [Text.Spare] {σ : Type} {disk : σ → Disk} {service : Service σ}
  {answer : String → Except Fault String}

/-- The pages from some progress on. -/
theorem exists_alike_pages (hservice : service.AnswersBy disk answer)
    (hanswer : AnswersFindings answer) (paging : Paging) (subject : Subject) (left : Nat)
    (p : Progress) :
    ∃ dialogue p', Turns paging subject left p dialogue p' ∧
      ∀ s, ∃ s', (paging.pages service subject left p).Converses service s dialogue p' s' := by
  induction left generalizing p with
  | zero => exact ⟨[], p, .bound p, fun s => ⟨s, converses_pure p⟩⟩
  | succ left ih =>
    have hreply (s : σ) := hservice.result (paging.page subject p).prompt s
    cases hfirst : answer (paging.page subject p).prompt with
    | error f =>
      exact ⟨_, p, .failed f, fun s => ⟨_, converses_pages_failed ((hreply s).trans hfirst)⟩⟩
    | ok reply =>
      obtain ⟨page, hread⟩ := hanswer (paging.page subject p) reply hfirst
      cases hdone : page.complete with
      | true =>
        exact ⟨_, _, .last hread hdone,
          fun s => ⟨_, converses_pages_last ((hreply s).trans hfirst) hread hdone⟩⟩
      | false =>
        obtain ⟨rest, p', hturns, hrest⟩ := ih (p.add page)
        refine ⟨_, p', .more hread hdone hturns, fun s => ?_⟩
        obtain ⟨s', hs'⟩ := hrest (service.reply (paging.page subject p).prompt s).state
        exact ⟨s', converses_pages_more ((hreply s).trans hfirst) hread hdone hs'⟩

/-- **A file is talked about alike** whenever it is. -/
theorem exists_alike_analyze (hservice : service.AnswersBy disk answer)
    (hanswer : AnswersFindings answer) (paging : Paging) (subject : Subject) :
    ∃ dialogue p, Turns paging subject paging.maxChunks .start dialogue p ∧
      ∀ s, ∃ s', (paging.analyze service subject).Converses service s dialogue p.result s' := by
  obtain ⟨dialogue, p, hturns, hpages⟩ := exists_alike_pages hservice hanswer paging subject
    paging.maxChunks .start
  exact ⟨dialogue, p, hturns, fun s => (hpages s).imp fun _ h => converses_analyze h⟩

/-- The findings that were delivered are about the file. -/
theorem Turns.file_of_mem {paging : Paging} {subject : Subject} {left : Nat}
    {dialogue : List Exchange} {p : Progress} (h : Turns paging subject left .start dialogue p)
    {f : Finding} (hf : f ∈ p.analysis.findings) : f.file = subject.path := by
  rw [h.eq_addAll, Progress.findings_addAll] at hf
  obtain ⟨page, hpage, hf⟩ := List.mem_flatMap.1 hf
  obtain ⟨e, -, hbrought⟩ := List.mem_filterMap.1 hpage
  obtain ⟨reply, -, hread⟩ := Option.bind_eq_some_iff.1 hbrought
  exact Reply.file_of_mem_readAnalysis (Reply.eq_ok_of_toOption hread) hf

/-- **All that is said about a file** is the same whenever it is asked for, and it is about the
file. -/
theorem exists_yields_analyze (hservice : service.AnswersBy disk answer)
    (hanswer : ∀ prompt reply, answer prompt = .ok reply → IsReadable reply) (paging : Paging)
    (subject : Subject) :
    ∃ a, (∀ d, Yields disk d (paging.analyze service subject) a) ∧
      ∀ f ∈ a.findings, f.file = subject.path := by
  have hfindings : AnswersFindings answer := fun page reply hreply =>
    (hanswer _ reply hreply).1 page.path
  obtain ⟨dialogue, p, hturns, halike⟩ := exists_alike_analyze hservice hfindings paging subject
  refine ⟨p.result, fun d s hs => ?_, fun f hf => hturns.file_of_mem hf⟩
  obtain ⟨s', h⟩ := halike s
  refine ⟨h.result, ?_⟩
  rw [h.state, h.answers.preserves hservice.disk, hs]

end Paging
end CodeReview
