import CodeReview.Proofs.Session.Chunks

/-!
# What a run logs

Most statements about a run pass over its log.  For a rehearsal the log is the point, since what
the user sees of a reply that was repaired is a warning in it.  So here is what a run logs, put
together like its events (`Run.log_bind_ok`).

In a dialogue about a file each reply adds what the service logs and one warning for each notice
(`replyLines`), and a page that says that there is more adds a line about the progress.
`analyze_two_pages` has an analysis of two pages in full: its dialogue, its result and its log.
-/

set_option autoImplicit false

namespace CodeReview

/-- The line that was logged. -/
def Event.line? : Event → Option LogLine
  | .logged line => some line
  | _ => none

variable {σ α β : Type}

theorem Outcome.log_eq (o : Outcome σ α) : o.log = o.events.filterMap Event.line? := by
  refine congrFun (congrArg _ (funext fun e => ?_)) _
  cases e <;> rfl

theorem filterMap_line?_logged (lines : List LogLine) :
    (lines.map Event.logged).filterMap Event.line? = lines := by
  rw [List.filterMap_map]
  exact List.filterMap_some

namespace Run

/-- **The log of one run after another.** -/
theorem log_bind_ok {x : Run σ α} {k : α → Run σ β} {s : σ} {a : α} (h : (x s).result = .ok a) :
    ((x >>= k) s).log = (x s).log ++ (k a (x s).state).log := by
  simp only [Outcome.log_eq, bind_apply_ok h, List.filterMap_append]

theorem log_attempt_ask (service : Service σ) (prompt : String) (s : σ) :
    ((ask service prompt).attempt s).log = (service.reply prompt s).log := by
  have hanswered : ((service.reply prompt s).result.toOption.toList.map fun reply =>
      Event.answered prompt reply).filterMap Event.line? = [] := by
    rw [List.filterMap_map]
    exact List.filterMap_eq_nil_iff.2 fun _ _ => rfl
  rw [Outcome.log_eq]
  show List.filterMap _ (_ ++ _ ++ _) = _
  rw [List.filterMap_append, List.filterMap_append, hanswered, filterMap_line?_logged,
    List.append_nil]
  split <;> rfl

theorem log_ofReading [Text.Spare] (r : Reply.Reading α) (s : σ) :
    (ofReading r s).log = r.notices.map fun n => ⟨.warning, n.message⟩ := by
  rw [Outcome.log_eq, events_ofReading, filterMap_line?_logged]

end Run

/-! ## Pages

The line about the progress is logged behind the page, and counts the findings with those of the
page. -/

namespace Paging

open CodeReview.Run

variable [Text.Spare] {paging : Paging} {service : Service σ} {subject : Subject} {left : Nat}
  {p : Progress} {s : σ} {reply : String} {page : Analysis}

/-- The line about the progress. -/
def progressLine (subject : Subject) (p : Progress) : LogLine :=
  let count := p.analysis.findings.length
  ⟨.info, s!"Received chunk {p.chunks} for {subject.path} ({count} finding(s) so far)"⟩

/-- What is logged about a reply: what the service logs, and a warning for each notice. -/
def replyLines (service : Service σ) (prompt reply path : String) (s : σ) : List LogLine :=
  (service.reply prompt s).log
    ++ (Reply.readAnalysis reply path).notices.map fun n => ⟨.warning, n.message⟩

/-- A reply that can be read adds its lines, and what comes of the page adds its own to them. -/
theorem log_pages_read
    (hanswer : (service.reply (paging.page subject p).prompt s).result = .ok reply)
    (hread : (Reply.readAnalysis reply subject.path).result = .ok page) :
    let more : Run σ Progress := if (p.add page).analysis.complete then pure (p.add page) else do
      Run.log .info (progressLine subject (p.add page)).text
      paging.pages service subject left (p.add page)
    (paging.pages service subject (left + 1) p s).log
      = replyLines service (paging.page subject p).prompt reply subject.path s
        ++ (more (service.reply (paging.page subject p).prompt s).state).log := by
  have hask := converses_attempt_ask service (paging.page subject p).prompt s
  rw [hanswer] at hask
  intro more
  rw [pages, log_bind_ok hask.result, log_attempt_ask, hask.state]
  simp only
  rw [log_bind_ok (x := ofReading (Reply.readAnalysis reply subject.path)) hread, log_ofReading,
    ← List.append_assoc]
  rfl

/-- **A page that says that there is more** adds a line about the progress. -/
theorem log_pages_more
    (hanswer : (service.reply (paging.page subject p).prompt s).result = .ok reply)
    (hread : (Reply.readAnalysis reply subject.path).result = .ok page)
    (hmore : page.complete = false) :
    (paging.pages service subject (left + 1) p s).log
      = replyLines service (paging.page subject p).prompt reply subject.path s
        ++ progressLine subject (p.add page) :: (paging.pages service subject left (p.add page)
          (service.reply (paging.page subject p).prompt s).state).log := by
  rw [log_pages_read hanswer hread,
    if_neg (show ¬ (p.add page).analysis.complete = true from ne_true_of_eq_false hmore),
    log_bind_ok (x := Run.log _ _) (a := ()) rfl]
  rfl

/-- **A page that says that it is the last one** adds no such line. -/
theorem log_pages_last
    (hanswer : (service.reply (paging.page subject p).prompt s).result = .ok reply)
    (hread : (Reply.readAnalysis reply subject.path).result = .ok page)
    (hdone : page.complete = true) :
    (paging.pages service subject (left + 1) p s).log
      = replyLines service (paging.page subject p).prompt reply subject.path s := by
  rw [log_pages_read hanswer hread,
    if_pos (show (p.add page).analysis.complete = true from hdone)]
  exact List.append_nil _

/-- An analysis that is not cut short logs what its pages log. -/
theorem log_analyze {p : Progress}
    (hpages : (paging.pages service subject paging.maxChunks .start s).result = .ok p)
    (hwhole : paging.isCutShort p = false) :
    (paging.analyze service subject s).log
      = (paging.pages service subject paging.maxChunks .start s).log := by
  rw [analyze, log_bind_ok hpages, hwhole]
  exact List.append_nil _

/-- **An analysis of two pages,** the first of which says that there is more: its dialogue, its
result, and what is logged. -/
theorem analyze_two_pages (paging : Paging) (service : Service σ) (subject : Subject)
    {s' : σ} {reply' : String} {page' : Analysis} (hbound : paging.maxChunks = left + 2)
    (hanswer : (service.reply (paging.page subject .start).prompt s).result = .ok reply)
    (hread : (Reply.readAnalysis reply subject.path).result = .ok page)
    (hmore : page.complete = false)
    (hstate : (service.reply (paging.page subject .start).prompt s).state = s')
    (hanswer' : (service.reply (paging.page subject (Progress.start.add page)).prompt s').result
      = .ok reply')
    (hread' : (Reply.readAnalysis reply' subject.path).result = .ok page')
    (hdone : page'.complete = true) :
    (paging.analyze service subject).Converses service s
        [⟨(paging.page subject .start).prompt, .ok reply⟩,
          ⟨(paging.page subject (Progress.start.add page)).prompt, .ok reply'⟩]
        ((Progress.start.add page).add page').result
        (service.reply (paging.page subject (Progress.start.add page)).prompt s').state ∧
      (paging.analyze service subject s).log
        = replyLines service (paging.page subject .start).prompt reply subject.path s
          ++ progressLine subject (Progress.start.add page)
            :: replyLines service (paging.page subject (Progress.start.add page)).prompt reply'
              subject.path s' := by
  subst hstate
  have hpages : (paging.pages service subject paging.maxChunks .start).Converses service s _ _ _ :=
    hbound ▸ converses_pages_more hanswer hread hmore (converses_pages_last hanswer' hread' hdone)
  have hwhole : paging.isCutShort ((Progress.start.add page).add page') = false := by
    have hcomplete : ((Progress.start.add page).add page').analysis.complete = true := hdone
    rw [isCutShort, hcomplete]
    rfl
  refine ⟨converses_analyze hpages, ?_⟩
  rw [log_analyze hpages.result hwhole, hbound, log_pages_more hanswer hread hmore,
    log_pages_last hanswer' hread' hdone]

end Paging
end CodeReview
