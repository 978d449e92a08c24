import CodeReview.Proofs.Reply.Result
import CodeReview.Proofs.Session.Dialogue
import CodeReview.Session.Paging

/-!
# The dialogue about a file

Asking for the findings of a file goes on for as long as a reply comes back, says that there is
more, and the bound allows one request more.  Everything about such a dialogue is a matter of
*turns*: what a prompt states depends on the turns before it, and whether there is another turn
depends on this one.  So there is a relation with one constructor for each way a turn can end
(`Paging.Turns`), and what is known about the whole dialogue follows from it by induction.

The program keeps its progress in a record and does not keep the pages.  That the two come to the
same is `Turns.eq_addAll`: the progress behind some turns is the pages that they brought, added one
after another.  Then the lists of the result are concatenations, and the summary is the last that
says something.

* `Paging.exists_converses_pages` — asking is in turns, from wherever it has got to;
* `Turns.of_split` — each turn of a dialogue: the number of its prompt, what the prompt says was
  delivered, and when another turn follows;
* `analyze_trace` — the course of an analysis as a whole.

It is assumed that every reply can be read (`Legible`).  Otherwise the analysis ends in a fault,
and what can be said then is in `Stopping.lean`.
Whether a run is legible is a matter of its events, so it can be decided for a run that is given
(`legible_of_all`); and it is passed on to the parts of a run, whose events are among its own
(`Legible.mono`).
-/

set_option autoImplicit false

namespace CodeReview

open CodeReview.Run

variable [Text.Spare] {σ : Type}

/-- Every reply to a request for findings can be read. -/
def Legible (events : List Event) : Prop :=
  ∀ (page : Prompt.Page) (reply : String), .answered page.prompt reply ∈ events →
    ∃ a, (Reply.readAnalysis reply page.path).result = .ok a

theorem Legible.mono {events events' : List Event} (h : Legible events') (hsub : events ⊆ events') :
    Legible events := fun page reply hmem => h page reply (hsub hmem)

/-- A run is legible if every reply in it holds fields or nothing. -/
theorem legible_of_all {events : List Event}
    (h : events.all (fun
      | .answered _ reply => (Reply.load reply).result.toOption.isSome
      | _ => true) = true) : Legible events := by
  intro page reply hmem
  obtain ⟨fields, hload⟩ := Option.isSome_iff_exists.1 (List.all_eq_true.1 h _ hmem)
  exact ⟨_, Reply.result_readAnalysis_of_load page.path (Reply.eq_ok_of_toOption hload)⟩

/-! ## Pages put together

A page is added to the progress field by field.  `append_addAll` is one lemma for all fields that
are lists. -/

namespace Progress

variable (p : Progress) (pages : List Analysis)

/-- Some pages more. -/
def addAll : Progress := pages.foldl add p

omit [Text.Spare] in
theorem addAll_cons (page : Analysis) : p.addAll (page :: pages) = (p.add page).addAll pages := rfl

omit [Text.Spare] in
theorem chunks_addAll : (p.addAll pages).chunks = p.chunks + pages.length := by
  induction pages generalizing p with
  | nil => rfl
  | cons page pages ih =>
    have hadd : (p.add page).chunks = p.chunks + 1 := rfl
    rw [addAll_cons, ih, hadd, List.length_cons]
    omega

omit [Text.Spare] in
/-- A list that grows page by page. -/
theorem append_addAll {α : Type} (whole : Progress → List α) (part : Analysis → List α)
    (h : ∀ p page, whole (p.add page) = whole p ++ part page) :
    whole (p.addAll pages) = whole p ++ pages.flatMap part := by
  induction pages generalizing p with
  | nil => exact (List.append_nil _).symm
  | cons page pages ih => rw [addAll_cons, ih, h, List.flatMap_cons, List.append_assoc]

omit [Text.Spare] in
theorem findings_addAll : (p.addAll pages).analysis.findings
    = p.analysis.findings ++ pages.flatMap Analysis.findings :=
  append_addAll p pages (fun p => p.analysis.findings) _ fun _ _ => rfl

/-- The summaries that say something. -/
def summaries : List String := (pages.map Analysis.summary).filter (· ≠ "")

omit [Text.Spare] in
theorem summary_addAll : (p.addAll pages).analysis.summary
    = (summaries pages).getLast?.getD p.analysis.summary := by
  induction pages generalizing p with
  | nil => rfl
  | cons page pages ih =>
    rw [addAll_cons, ih, summaries, summaries, List.map_cons, List.filter_cons, add]
    by_cases hempty : page.summary = ""
    · simp [hempty]
    · simp [hempty, List.getLast?_cons]

omit [Text.Spare] in
/-- A result has the last summary that says something, or else the default. -/
theorem summary_result_addAll : (start.addAll pages).result.summary
    = (summaries pages).getLast?.getD defaultSummary := by
  rw [result, summary_addAll]
  cases hlast : (summaries pages).getLast? with
  | none => rfl
  | some last =>
    have hne : last ≠ "" := by
      simpa using (List.mem_filter.1 (List.mem_of_getLast? hlast)).2
    exact if_neg hne

end Progress

/-! ## Turn by turn

The dialogue of a run is put together by `Run.Converses.bind`.  For each constructor of `Turns`
there is a lemma that says that the run does so, and then the induction on the bound. -/

namespace Paging

variable {paging : Paging} {service : Service σ} {subject : Subject}

/-- The page that an exchange brought. -/
def pageIn (path : String) (e : Exchange) : Option Analysis :=
  e.answer.toOption.bind fun reply => (Reply.readAnalysis reply path).result.toOption

/-- The pages that a dialogue brought. -/
def pagesIn (path : String) (dialogue : List Exchange) : List Analysis :=
  dialogue.filterMap (pageIn path)

/-- How a dialogue about a file goes, if at most `left` requests are allowed and there is some
progress already. -/
inductive Turns (paging : Paging) (subject : Subject) :
    (left : Nat) → Progress → List Exchange → Progress → Prop where
  /-- no more requests are allowed -/
  | bound (p : Progress) : Turns paging subject 0 p [] p
  /-- the request fails -/
  | failed {left : Nat} {p : Progress} (f : Fault) :
      Turns paging subject (left + 1) p [⟨(paging.page subject p).prompt, .error f⟩] p
  /-- the reply says that it is the last one -/
  | last {left : Nat} {p : Progress} {reply : String} {page : Analysis}
      (hread : (Reply.readAnalysis reply subject.path).result = .ok page)
      (hdone : page.complete = true) :
      Turns paging subject (left + 1) p [⟨(paging.page subject p).prompt, .ok reply⟩] (p.add page)
  /-- the reply says that there is more -/
  | more {left : Nat} {p p' : Progress} {reply : String} {page : Analysis} {rest : List Exchange}
      (hread : (Reply.readAnalysis reply subject.path).result = .ok page)
      (hmore : page.complete = false) (h : Turns paging subject left (p.add page) rest p') :
      Turns paging subject (left + 1) p (⟨(paging.page subject p).prompt, .ok reply⟩ :: rest) p'

section Turn

variable {left : Nat} {p p' : Progress} {s s' : σ} {reply : String} {page : Analysis}
  {rest : List Exchange}

/-- A request that fails is the last one. -/
theorem converses_pages_failed {f : Fault}
    (hanswer : (service.reply (paging.page subject p).prompt s).result = .error f) :
    (paging.pages service subject (left + 1) p).Converses service s
      [⟨(paging.page subject p).prompt, .error f⟩] p
      (service.reply (paging.page subject p).prompt s).state := by
  have hask := converses_attempt_ask service (paging.page subject p).prompt s
  rw [hanswer] at hask
  exact hask.bind (converses_pure p).log_bind

/-- A page that says so is the last one. -/
theorem converses_pages_last
    (hanswer : (service.reply (paging.page subject p).prompt s).result = .ok reply)
    (hread : (Reply.readAnalysis reply subject.path).result = .ok page)
    (hdone : page.complete = true) :
    (paging.pages service subject (left + 1) p).Converses service s
      [⟨(paging.page subject p).prompt, .ok reply⟩] (p.add page)
      (service.reply (paging.page subject p).prompt s).state := by
  have hask := converses_attempt_ask service (paging.page subject p).prompt s
  rw [hanswer] at hask
  refine hask.bind ((converses_ofReading hread).bind_silent ?_)
  rw [if_pos (show (p.add page).analysis.complete = true from hdone)]
  exact converses_pure _

/-- A page that says that there is more is followed by the others. -/
theorem converses_pages_more
    (hanswer : (service.reply (paging.page subject p).prompt s).result = .ok reply)
    (hread : (Reply.readAnalysis reply subject.path).result = .ok page)
    (hmore : page.complete = false)
    (hrest : (paging.pages service subject left (p.add page)).Converses service
      (service.reply (paging.page subject p).prompt s).state rest p' s') :
    (paging.pages service subject (left + 1) p).Converses service s
      (⟨(paging.page subject p).prompt, .ok reply⟩ :: rest) p' s' := by
  have hask := converses_attempt_ask service (paging.page subject p).prompt s
  rw [hanswer] at hask
  refine hask.bind ((converses_ofReading hread).bind ?_)
  rw [if_neg (show ¬ (p.add page).analysis.complete = true from ne_true_of_eq_false hmore)]
  exact hrest.log_bind

/-- The first reply is among the events. -/
theorem answered_mem_pages
    (hanswer : (service.reply (paging.page subject p).prompt s).result = .ok reply) :
    .answered (paging.page subject p).prompt reply
      ∈ (paging.pages service subject (left + 1) p s).events := by
  have hask := converses_attempt_ask service (paging.page subject p).prompt s
  rw [hanswer] at hask
  exact events_subset_bind_left (hask.answered _ (List.mem_singleton_self _) reply rfl)

/-- So is all that happens behind a page that says that there is more. -/
theorem events_subset_pages_more
    (hanswer : (service.reply (paging.page subject p).prompt s).result = .ok reply)
    (hread : (Reply.readAnalysis reply subject.path).result = .ok page)
    (hmore : page.complete = false) :
    (paging.pages service subject left (p.add page)
        (service.reply (paging.page subject p).prompt s).state).events
      ⊆ (paging.pages service subject (left + 1) p s).events := by
  have hask := converses_attempt_ask service (paging.page subject p).prompt s
  rw [hanswer] at hask
  rw [pages]
  refine List.Subset.trans ?_ (events_subset_bind_right hask.result)
  refine List.Subset.trans ?_ (events_subset_bind_right hread)
  rw [if_neg (show ¬ (p.add page).analysis.complete = true from ne_true_of_eq_false hmore)]
  exact events_subset_log_bind _ _ _

end Turn

/-- **The pages of a file** are asked for turn by turn. -/
theorem exists_converses_pages (left : Nat) (p : Progress) {s : σ}
    (h : Legible (paging.pages service subject left p s).events) :
    ∃ dialogue p' s',
      (paging.pages service subject left p).Converses service s dialogue p' s' ∧
        Turns paging subject left p dialogue p' := by
  induction left generalizing p s with
  | zero => exact ⟨[], p, s, converses_pure p, .bound p⟩
  | succ left ih =>
    cases hanswer : (service.reply (paging.page subject p).prompt s).result with
    | error f => exact ⟨_, p, _, converses_pages_failed hanswer, .failed f⟩
    | ok reply =>
      obtain ⟨page, hread⟩ := h (paging.page subject p) reply (answered_mem_pages hanswer)
      cases hdone : page.complete with
      | true => exact ⟨_, _, _, converses_pages_last hanswer hread hdone, .last hread hdone⟩
      | false =>
        obtain ⟨rest, p', s', hrest, hturns⟩ := ih (p.add page)
          (h.mono (events_subset_pages_more hanswer hread hdone))
        exact ⟨_, p', s', converses_pages_more hanswer hread hdone hrest,
          .more hread hdone hturns⟩

/-- An analysis is its pages. -/
theorem converses_analyze {s s' : σ} {dialogue : List Exchange} {p : Progress}
    (hpages : (paging.pages service subject paging.maxChunks .start).Converses service s dialogue p
      s') : (paging.analyze service subject).Converses service s dialogue p.result s' := by
  refine hpages.bind_silent ?_
  split
  · exact (converses_pure p.result).log_bind
  · exact converses_pure p.result

/-- **All that is said about a file** is asked for in such turns. -/
theorem exists_converses_analyze {s : σ} (h : Legible (paging.analyze service subject s).events) :
    ∃ dialogue p s', (paging.analyze service subject).Converses service s dialogue p.result s' ∧
      Turns paging subject paging.maxChunks .start dialogue p := by
  obtain ⟨dialogue, p, s', hpages, hturns⟩ := exists_converses_pages paging.maxChunks .start
    (h.mono events_subset_bind_left)
  exact ⟨dialogue, p, s', converses_analyze hpages, hturns⟩

/-! ## What is known of every turn

`drop` is the lemma that the others rest on.  Behind some turns of a dialogue there are turns of
the same kind, with a smaller bound and the progress so far; so what is said of the first turn
holds of every one. -/

namespace Turns

variable {left : Nat} {p p' : Progress} {e : Exchange} {dialogue before behind rest : List Exchange}

theorem length_le (h : Turns paging subject left p dialogue p') : dialogue.length ≤ left := by
  induction h with
  | bound p => exact Nat.le_refl 0
  | failed f => exact Nat.succ_le_succ (Nat.zero_le _)
  | last hread hdone => exact Nat.succ_le_succ (Nat.zero_le _)
  | more hread hmore h ih => exact Nat.succ_le_succ ih

theorem length_pos (h : Turns paging subject left p dialogue p') (hleft : 0 < left) :
    0 < dialogue.length := by
  cases h with
  | bound p => exact absurd hleft (Nat.lt_irrefl 0)
  | _ => exact Nat.succ_pos _

theorem pagesIn_cons {prompt reply : String} {page : Analysis}
    (hread : (Reply.readAnalysis reply subject.path).result = .ok page) :
    pagesIn subject.path (⟨prompt, .ok reply⟩ :: rest) = page :: pagesIn subject.path rest := by
  refine List.filterMap_cons_some ?_
  show (Reply.readAnalysis reply subject.path).result.toOption = some page
  rw [hread]
  rfl

/-- What was delivered is the pages, one after another. -/
theorem eq_addAll (h : Turns paging subject left p dialogue p') :
    p' = p.addAll (pagesIn subject.path dialogue) := by
  induction h with
  | bound p => rfl
  | failed f => rfl
  | last hread hdone => rw [pagesIn_cons hread]; rfl
  | more hread hmore h ih => rw [pagesIn_cons hread, Progress.addAll_cons, ← ih]

/-- What comes behind some turns is turns as well, and each of the turns before it brought a
page. -/
theorem drop (h : Turns paging subject left p (before ++ rest) p') (hrest : rest ≠ []) :
    (pagesIn subject.path before).length = before.length ∧
      Turns paging subject (left - before.length) (p.addAll (pagesIn subject.path before)) rest
        p' := by
  induction before generalizing left p with
  | nil => exact ⟨rfl, h⟩
  | cons e before ih =>
    rw [List.cons_append] at h
    cases hsplit : before ++ rest with
    | nil => exact absurd (List.append_eq_nil_iff.1 hsplit).2 hrest
    | cons e' behind =>
      rw [hsplit] at h
      cases h with
      | @more left p p' reply page rest hread hmore h =>
        rw [← hsplit] at h
        obtain ⟨hlength, hturns⟩ := ih h
        rw [pagesIn_cons hread, List.length_cons, List.length_cons, hlength,
          Nat.add_sub_add_right]
        exact ⟨rfl, hturns⟩

/-- The first turn, and whether there is another one. -/
theorem head (h : Turns paging subject left p (e :: behind) p') :
    e.prompt = (paging.page subject p).prompt ∧
      (behind ≠ [] ↔ ∃ reply page, e.answer = .ok reply ∧
        (Reply.readAnalysis reply subject.path).result = .ok page ∧ page.complete = false ∧
        1 < left) := by
  cases h with
  | failed f => exact ⟨rfl, by simp⟩
  | last hread hdone => exact ⟨rfl, by simp [hread, hdone]⟩
  | @more left p p' reply page rest hread hmore h =>
    refine ⟨rfl, ?_⟩
    have hleft : behind ≠ [] ↔ 0 < left := by
      rw [← List.length_pos_iff]
      exact ⟨fun hpos => Nat.lt_of_lt_of_le hpos h.length_le, h.length_pos⟩
    simp [hleft, hread, hmore]

/-- Every turn of a dialogue about a file: what it asks, and whether there is another one. -/
theorem of_split (h : Turns paging subject left .start dialogue p')
    (hsplit : dialogue = before ++ e :: behind) :
    e.prompt = Prompt.Page.prompt
        { content := subject.text
          path := subject.path
          chunk := before.length
          delivered := ((pagesIn subject.path before).flatMap Analysis.findings).length
          pageSize := paging.pageSize
          projectType := subject.projectType
          framework := subject.framework } ∧
      (behind ≠ [] ↔ ∃ reply page, e.answer = .ok reply ∧
        (Reply.readAnalysis reply subject.path).result = .ok page ∧ page.complete = false ∧
        before.length + 1 < left) := by
  rw [hsplit] at h
  obtain ⟨hlength, hrest⟩ := h.drop (List.cons_ne_nil e behind)
  obtain ⟨hprompt, hnext⟩ := hrest.head
  constructor
  · rw [hprompt, page, Progress.chunks_addAll, Progress.findings_addAll, hlength]
    simp [Progress.start, Analysis.empty]
  · rw [hnext]
    simp only [Nat.lt_sub_iff_add_lt, Nat.add_comm 1]

end Turns

/-- **The course of an analysis.**  If every reply can be read, asking for the findings of a file has
a result.  It takes one request at least and as many as the bound allows at most.  A request has the
number of its place, and says how many findings were read from the replies before it.  Another one
follows exactly if it is answered, the answer says that there is more, and the bound allows it.  The
result is the pages in the order in which they came, with the last summary that says something, and
counts as complete. -/
theorem analyze_trace (paging : Paging) (service : Service σ) (subject : Subject) (s : σ)
    (h : Legible (paging.analyze service subject s).events) :
    ∃ dialogue a s', (paging.analyze service subject).Converses service s dialogue a s' ∧
      0 < dialogue.length ∧ dialogue.length ≤ paging.maxChunks ∧
      (∀ before e behind, dialogue = before ++ e :: behind →
        Prompt.Page.prompt?
          { content := subject.text
            path := subject.path
            chunk := before.length
            delivered := ((pagesIn subject.path before).flatMap Analysis.findings).length
            pageSize := paging.pageSize
            projectType := subject.projectType
            framework := subject.framework } = .ok e.prompt ∧
        (behind ≠ [] ↔ ∃ reply page, e.answer = .ok reply ∧
          (Reply.readAnalysis reply subject.path).result = .ok page ∧ page.complete = false ∧
          before.length + 1 < paging.maxChunks)) ∧
      a.findings = (pagesIn subject.path dialogue).flatMap Analysis.findings ∧
      a.suggestions = (pagesIn subject.path dialogue).flatMap Analysis.suggestions ∧
      a.insights = (pagesIn subject.path dialogue).flatMap Analysis.insights ∧
      a.summary = (Progress.summaries (pagesIn subject.path dialogue)).getLast?.getD
        Progress.defaultSummary ∧
      a.complete = true := by
  obtain ⟨dialogue, p, s', hconverses, hturns⟩ := exists_converses_analyze h
  refine ⟨dialogue, p.result, s', hconverses, hturns.length_pos paging.maxChunks_pos,
    hturns.length_le, fun before e behind hsplit => ?_, ?_, ?_, ?_, ?_, rfl⟩
  · obtain ⟨hprompt, hnext⟩ := hturns.of_split hsplit
    refine ⟨?_, hnext⟩
    rw [Prompt.Page.prompt?_eq_ok (Int.natCast_nonneg _) (Int.natCast_pos.2 paging.pageSize_pos),
      hprompt]
  · rw [hturns.eq_addAll]
    exact Progress.findings_addAll _ _
  · rw [hturns.eq_addAll]
    exact Progress.append_addAll _ _ (fun p => p.analysis.suggestions) _ fun _ _ => rfl
  · rw [hturns.eq_addAll]
    exact Progress.append_addAll _ _ (fun p => p.analysis.insights) _ fun _ _ => rfl
  · rw [hturns.eq_addAll]
    exact Progress.summary_result_addAll _

omit [Text.Spare] in
/-- A service whose first answer says that there is more, and whose second one says nothing. -/
theorem analyze_trace_two_pages :
    letI : Text.Spare := ⟨0⟩
    let first := "\x7b\"issues\": [\x7b\"severity\": \"high\", \"message\": \"m\"\x7d], "
      ++ "\"hasMore\": true\x7d"
    let service : Service Nat :=
      ⟨fun _ n => ⟨.ok (if n = 0 then first else "nothing"), n + 1, []⟩, true⟩
    let subject : Subject := ⟨"f()\n", "a.js", none, none⟩
    Legible (standard.analyze service subject 0).events ∧
      ∃ dialogue a s', (standard.analyze service subject).Converses service 0 dialogue a s' ∧
        dialogue.length = 2 ∧
        a.findings = (pagesIn "a.js" dialogue).flatMap Analysis.findings ∧ a.complete = true := by
  let : Text.Spare := ⟨0⟩
  intro first service subject
  have hlegible : Legible (standard.analyze service subject 0).events :=
    legible_of_all (by decide +kernel)
  have hprompts : (standard.analyze service subject 0).prompts.length = 2 := by decide +kernel
  obtain ⟨dialogue, a, s', hconverses, -, -, -, hfindings, -, -, -, hcomplete⟩ :=
    analyze_trace standard service subject 0 hlegible
  rw [hconverses.prompts, if_pos rfl, List.length_map] at hprompts
  exact ⟨hlegible, dialogue, a, s', hconverses, hprompts, hfindings, hcomplete⟩

end Paging
end CodeReview
