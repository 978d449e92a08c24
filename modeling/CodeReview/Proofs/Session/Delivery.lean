import CodeReview.Proofs.Reply.Truncation
import CodeReview.Proofs.Session.Chunks

/-!
# Handing out a list page by page

A service may have a list of issues and hand it out page by page (`Paging.HandsOut`): a page is the
issues behind those that were delivered, as many as fit, and tells whether there are more.  One
would think that the findings of an analysis are then the findings of the list.

They need not be.  What the service is told to have delivered are the findings that were read, so
an issue that makes no finding moves the pages that follow back by one, and what stands there is
delivered again.  Nothing is skipped by that: the findings of what was handed out are among the
result, in order.  And they are all of it exactly if each issue before the last page makes a
finding (`analyze_handsOut`).  `analyze_silentService_repeats` is a service and a list with which
an issue is found twice.

The invariant is `Delivered`, which holds whenever a page is asked for.  Its field `kept` says that
the findings of what counts as delivered are among those read, and `full` that nothing is delivered
twice as long as every issue makes a finding.  The count of findings serves as a position in the
list all the while, and it stays within the list (`within`), which is what makes the next page one
of the list.
## What is here

* `MakesFinding`, `findingsOf` — entries of a list and the findings that they make;
* `Brings`, `HandsOut` — a page of a list, and a service that hands one out;
* `Delivered`, `Delivered.add` — the invariant, and that a page which is not the last one keeps it;
* `HandsOut.exists_converses_pages` — the dialogue, by recursion on how many pages are still
  allowed;
* `analyze_handsOut` — what it comes to.
-/

set_option autoImplicit false

namespace CodeReview

open CodeReview.Json (Value Fields)
open CodeReview.Run

/-! ## Issues that make findings

A list of issues makes at most as many findings as it has entries, and as many exactly if each of
them makes one. -/

namespace Reply

/-- The entry of a list of issues makes a finding. -/
def MakesFinding (path : String) (v : Value) : Prop := ∃ f, Issue.findingOf? path v = .ok f

/-- The findings that the entries of a list of issues make. -/
def findingsOf (path : String) (issues : List Value) : List Finding :=
  findingsUnder path (some (.arr issues))

variable {path : String}

theorem findingsOf_append (issues issues' : List Value) :
    findingsOf path (issues ++ issues') = findingsOf path issues ++ findingsOf path issues' :=
  List.filterMap_append

theorem length_findingsOf_le (path : String) (issues : List Value) :
    (findingsOf path issues).length ≤ issues.length :=
  List.length_filterMap_le _ _

/-- As many findings as entries, if each entry makes one. -/
theorem length_findingsOf_eq_iff {issues : List Value} :
    (findingsOf path issues).length = issues.length ↔ ∀ v ∈ issues, MakesFinding path v := by
  have hsome : ∀ v, (Issue.findingOf? path v).toOption.isSome = true ↔ MakesFinding path v := by
    intro v
    rw [MakesFinding]
    cases Issue.findingOf? path v <;> simp [Except.toOption]
  rw [findingsOf, findingsUnder, List.filterMap_length_eq_length]
  simp only [hsome]

end Reply

namespace Paging

open CodeReview.Reply

variable {σ : Type} {paging : Paging} {service : Service σ} {subject : Subject}
  {issues : List Value} {d : Nat}

/-! ## Services that hand out a list

The service is asked to behave for the prompts that an analysis can send, and for no others: those
with a number of findings within the list.  It need not know that it is asked about this file. -/

/-- The request for a page, by its number and by how many findings were delivered before it. -/
def request (paging : Paging) (subject : Subject) (chunk delivered : Nat) : Prompt.Page where
  content := subject.text
  path := subject.path
  chunk := chunk
  delivered := delivered
  pageSize := paging.pageSize
  projectType := subject.projectType
  framework := subject.framework

/-- Requests about a file can be told apart by what they instruct. -/
theorem prompt_request_eq_iff {chunk chunk' d' : Nat} :
    (paging.request subject chunk d).prompt = (paging.request subject chunk' d').prompt ↔
      (paging.request subject chunk d).instruction
        = (paging.request subject chunk' d').instruction := by
  unfold Prompt.Page.prompt
  rw [String.append_left_inj, String.append_left_inj, String.append_left_inj,
    String.append_left_inj]
  exact String.append_right_inj _

/-- The answer is an object with the page of a list that is behind so many of its entries. -/
def Brings [Text.Spare] (paging : Paging) (issues : List Value) (d : Nat)
    (answer : Except Fault String) : Prop :=
  ∃ reply fields, answer = .ok reply ∧ Json.read reply = .ok (.obj fields) ∧
    Fields.get? fields "issues" = some (.arr ((issues.drop d).take paging.pageSize)) ∧
    Fields.get? fields "hasMore" = some (.bool (decide (d + paging.pageSize < issues.length)))

/-- The service hands out a list of issues: first its first page, and then the page behind what it
is told to have delivered. -/
structure HandsOut [Text.Spare] (paging : Paging) (service : Service σ) (subject : Subject)
    (issues : List Value) : Prop where
  initial : ∀ s, paging.Brings issues 0
    (service.reply (paging.request subject 0 0).prompt s).result
  continuation : ∀ chunk delivered s, 0 < chunk → chunk < paging.maxChunks →
    delivered ≤ issues.length → paging.Brings issues delivered
      (service.reply (paging.request subject chunk delivered).prompt s).result

/-- What is read from a page. -/
theorem Brings.exists_page [Text.Spare] {answer : Except Fault String}
    (h : paging.Brings issues d answer) (path : String) :
    ∃ reply page, answer = .ok reply ∧ (readAnalysis reply path).result = .ok page ∧
      page.findings = findingsOf path ((issues.drop d).take paging.pageSize) ∧
      page.complete = !decide (d + paging.pageSize < issues.length) := by
  obtain ⟨reply, fields, hanswer, hread, hissues, hmore⟩ := h
  have hprose : '\x7b' ∉ "".toList := by decide
  have hload := result_load_eq_some hprose hread
  rw [String.empty_append] at hload
  refine ⟨reply, _, hanswer, result_readAnalysis_of_load path hload, ?_, ?_⟩
  · simp only [Option.elim_some, analysisOf, hissues]
    rfl
  · simp only [Option.elim_some, analysisOf, hmore]
    rfl

/-! ## What was delivered

A page that is not the last one has as many entries as fit on it.  If each makes a finding, so many
findings are read, and the position is again at the start of a page. -/

/-- How many of so many entries are on another page than the last one, if every page is full. -/
def beforeLast (paging : Paging) (n : Nat) : Nat := paging.pageSize * ((n - 1) / paging.pageSize)

/-- What holds whenever a page of a list is asked for. -/
structure Delivered (paging : Paging) (path : String) (issues : List Value) (p : Progress) :
    Prop where
  first : p.chunks = 0 → p.analysis.findings = []
  within : 0 < p.analysis.findings.length → p.analysis.findings.length < issues.length
  kept : (findingsOf path (issues.take p.analysis.findings.length)).Sublist p.analysis.findings
  full : (∀ v ∈ issues.take (paging.beforeLast issues.length), MakesFinding path v) →
    p.analysis.findings.length = p.chunks * paging.pageSize

theorem delivered_start (paging : Paging) (path : String) (issues : List Value) :
    Delivered paging path issues .start where
  first _ := rfl
  within h := absurd h (Nat.lt_irrefl 0)
  kept := List.Sublist.refl []
  full _ := (Nat.zero_mul _).symm

namespace Delivered

variable {path : String} {p : Progress} {page : Analysis}

theorem length_le (h : Delivered paging path issues p) :
    p.analysis.findings.length ≤ issues.length := by
  have := h.within
  omega

/-- The findings of what was handed out, with the page that is asked for next. -/
theorem kept_append (h : Delivered paging path issues p) :
    (findingsOf path (issues.take (p.analysis.findings.length + paging.pageSize))).Sublist
      (p.analysis.findings
        ++ findingsOf path ((issues.drop p.analysis.findings.length).take paging.pageSize)) := by
  rw [List.take_add, findingsOf_append]
  exact h.kept.append_right _

/-- Nothing was delivered twice exactly if each issue that counts as delivered makes a finding. -/
theorem eq_findingsOf_iff (h : Delivered paging path issues p) :
    p.analysis.findings = findingsOf path (issues.take p.analysis.findings.length) ↔
      ∀ v ∈ issues.take p.analysis.findings.length, MakesFinding path v := by
  rw [← length_findingsOf_eq_iff, List.length_take_of_le h.length_le]
  exact ⟨fun heq => congrArg List.length heq.symm, fun hlength => (h.kept.eq_of_length hlength).symm⟩

/-- If all pages but the last one are full, the issues that count as delivered are on them. -/
theorem length_le_beforeLast (h : Delivered paging path issues p)
    (hfull : p.analysis.findings.length = p.chunks * paging.pageSize) :
    p.analysis.findings.length ≤ paging.beforeLast issues.length := by
  rcases Nat.eq_zero_or_pos p.analysis.findings.length with hzero | hpos
  · rw [hzero]
    exact Nat.zero_le _
  · have hlt := h.within hpos
    rw [beforeLast, hfull, Nat.mul_comm]
    refine Nat.mul_le_mul_left _ ((Nat.le_div_iff_mul_le paging.pageSize_pos).2 ?_)
    omega

/-- **A page that is not the last one** leaves things as they have to be for the next one. -/
theorem add (h : Delivered paging path issues p)
    (hpage : page.findings
      = findingsOf path ((issues.drop p.analysis.findings.length).take paging.pageSize))
    (hmore : p.analysis.findings.length + paging.pageSize < issues.length) :
    Delivered paging path issues (p.add page) := by
  have hadd : (p.add page).analysis.findings = p.analysis.findings ++ page.findings := rfl
  have hlength : ((issues.drop p.analysis.findings.length).take paging.pageSize).length
      = paging.pageSize := by
    rw [List.length_take_of_le]
    rw [List.length_drop]
    omega
  have hle : page.findings.length ≤ paging.pageSize := by
    rw [hpage]
    exact (length_findingsOf_le _ _).trans hlength.le
  refine ⟨fun hzero => absurd hzero (Nat.succ_ne_zero _), fun _ => ?_, ?_, fun hmake => ?_⟩
  · rw [hadd, List.length_append]
    omega
  · have hsub : (issues.take (p.add page).analysis.findings.length).Sublist
        (issues.take (p.analysis.findings.length + paging.pageSize)) := by
      refine (List.take_prefix_take_left ?_).sublist
      rw [hadd, List.length_append]
      omega
    rw [hadd, hpage] at *
    exact (hsub.filterMap _).trans h.kept_append
  · have hfull := h.full hmake
    have hbefore : p.analysis.findings.length + paging.pageSize
        ≤ paging.beforeLast issues.length := by
      rw [hfull, beforeLast, Nat.mul_comm, ← Nat.mul_succ]
      refine Nat.mul_le_mul_left _ ((Nat.le_div_iff_mul_le paging.pageSize_pos).2 ?_)
      rw [Nat.succ_mul]
      omega
    have hmakes : ∀ v ∈ (issues.drop p.analysis.findings.length).take paging.pageSize,
        MakesFinding path v := by
      intro v hv
      refine hmake v ((List.take_prefix_take_left hbefore).subset ?_)
      rw [List.take_add]
      exact List.mem_append_right _ hv
    rw [hadd, List.length_append, hpage, length_findingsOf_eq_iff.2 hmakes, hlength, hfull]
    exact (Nat.succ_mul _ _).symm

end Delivered

/-! ## The dialogue

The last page is told by its position, as the page before it said whether there was more. -/

variable [Text.Spare]

theorem HandsOut.brings (h : paging.HandsOut service subject issues) {p : Progress}
    (hp : Delivered paging subject.path issues p) (hchunks : p.chunks < paging.maxChunks) (s : σ) :
    paging.Brings issues p.analysis.findings.length
      (service.reply (paging.page subject p).prompt s).result := by
  have hpage : paging.page subject p
      = paging.request subject p.chunks p.analysis.findings.length := rfl
  rw [hpage]
  rcases Nat.eq_zero_or_pos p.chunks with hzero | hpos
  · rw [hp.first hzero, hzero]
    exact h.initial s
  · exact h.continuation _ _ s hpos hchunks hp.length_le

/-- **The pages of a list** are asked for until the list is at its end or the bound is reached. -/
theorem HandsOut.exists_converses_pages (h : paging.HandsOut service subject issues) {left : Nat}
    (hpos : 0 < left) {p : Progress} (hp : Delivered paging subject.path issues p)
    (hleft : p.chunks + left = paging.maxChunks) (s : σ) :
    ∃ dialogue e last p' s',
      (paging.pages service subject left p).Converses service s dialogue p' s' ∧
        dialogue.getLast? = some e ∧ e.prompt = (paging.page subject last).prompt ∧
        p.chunks + dialogue.length = last.chunks + 1 ∧
        Delivered paging subject.path issues last ∧
        p'.analysis.findings = last.analysis.findings ++ findingsOf subject.path
          ((issues.drop last.analysis.findings.length).take paging.pageSize) ∧
        (issues.length ≤ last.analysis.findings.length + paging.pageSize ∨
          last.chunks + 1 = paging.maxChunks) := by
  induction left generalizing p s with
  | zero => exact absurd hpos (Nat.lt_irrefl 0)
  | succ left ih =>
    obtain ⟨reply, page, hanswer, hread, hpage, hcomplete⟩ :=
      (h.brings hp (by omega) s).exists_page subject.path
    have hchunks : (p.add page).chunks = p.chunks + 1 := rfl
    have hfindings : (p.add page).analysis.findings = p.analysis.findings ++ findingsOf subject.path
        ((issues.drop p.analysis.findings.length).take paging.pageSize) := hpage ▸ rfl
    by_cases hmore : p.analysis.findings.length + paging.pageSize < issues.length
    · replace hcomplete : page.complete = false := by rw [hcomplete, decide_eq_true hmore]; rfl
      rcases Nat.eq_zero_or_pos left with rfl | hpos
      · -- the bound is reached
        have hrest : ∀ s', (paging.pages service subject 0 (p.add page)).Converses service s' [] _
            s' := fun s' => converses_pure (p.add page)
        exact ⟨_, _, p, _, _, converses_pages_more hanswer hread hcomplete (hrest _), rfl, rfl,
          rfl, hp, hfindings, .inr hleft⟩
      · obtain ⟨dialogue, e, last, p', s', hrest, hlast, hprompt, hlength, hfinal⟩ :=
          ih hpos (hp.add hpage hmore) (by omega) _
        refine ⟨_, e, last, p', s', converses_pages_more hanswer hread hcomplete hrest, ?_, hprompt,
          ?_, hfinal⟩
        · rw [List.getLast?_cons, hlast]
          rfl
        · rw [← hlength, hchunks, List.length_cons]
          omega
    · replace hcomplete : page.complete = true := by rw [hcomplete, decide_eq_false hmore]; rfl
      exact ⟨_, _, p, _, _, converses_pages_last hanswer hread hcomplete, rfl, rfl, rfl, hp,
        hfindings, .inl (Nat.le_of_not_lt hmore)⟩

/-- **What a list comes to that is handed out page by page.**  The last request names a number of
findings delivered before.  All findings of the issues up to there and of the page behind them are in
the result, in order; there is nothing else in it exactly if each of the issues up to there makes a
finding.  The page behind them is the end of the list, or else the bound on the number of requests is
reached.  If the bound has room for the list, and each issue that is not on the last page makes a
finding, then the result is the findings of the list. -/
theorem analyze_handsOut (h : paging.HandsOut service subject issues) (s : σ) :
    ∃ dialogue a s' e delivered,
      (paging.analyze service subject).Converses service s dialogue a s' ∧
        dialogue.getLast? = some e ∧
        e.prompt = (paging.request subject (dialogue.length - 1) delivered).prompt ∧
        (findingsOf subject.path (issues.take (delivered + paging.pageSize))).Sublist a.findings ∧
        (a.findings = findingsOf subject.path (issues.take (delivered + paging.pageSize)) ↔
          ∀ v ∈ issues.take delivered, MakesFinding subject.path v) ∧
        (issues.length ≤ delivered + paging.pageSize ∨ dialogue.length = paging.maxChunks) ∧
        (issues.length ≤ paging.pageSize * paging.maxChunks →
          (∀ v ∈ issues.take (paging.beforeLast issues.length), MakesFinding subject.path v) →
          a.findings = findingsOf subject.path issues) := by
  obtain ⟨dialogue, e, last, p, s', hpages, hlast, hprompt, hlength, hdelivered, hfindings, hend⟩ :=
    h.exists_converses_pages paging.maxChunks_pos (delivered_start paging subject.path issues)
      (Nat.zero_add _) s
  replace hlength : dialogue.length = last.chunks + 1 := (Nat.zero_add _).symm.trans hlength
  have hexact : p.result.findings
      = findingsOf subject.path (issues.take (last.analysis.findings.length + paging.pageSize)) ↔
      ∀ v ∈ issues.take last.analysis.findings.length, MakesFinding subject.path v := by
    rw [← hdelivered.eq_findingsOf_iff, List.take_add, findingsOf_append]
    exact hfindings ▸ List.append_left_inj _
  refine ⟨dialogue, p.result, s', e, last.analysis.findings.length, converses_analyze hpages, hlast,
    ?_, ?_, hexact, ?_, fun hroom hmake => ?_⟩
  · rw [hprompt, hlength]
    rfl
  · exact hfindings ▸ hdelivered.kept_append
  · rwa [hlength]
  · have hfull := hdelivered.full hmake
    have hbefore := hdelivered.length_le_beforeLast hfull
    have hall : issues.length ≤ last.analysis.findings.length + paging.pageSize := by
      rcases hend with hend | hend
      · exact hend
      · rw [hfull, ← Nat.succ_mul, Nat.succ_eq_add_one, hend, Nat.mul_comm]
        exact hroom
    rw [hexact.2 fun v hv => hmake v ((List.take_prefix_take_left hbefore).subset hv),
      List.take_of_length_le hall]

/-! ## A list that is not delivered as it is

Three issues of which the first has no message, on pages of two. -/

/-- Pages of two entries, and two of them at most. -/
def twoByTwo : Paging := ⟨2, 2, by decide, by decide⟩

/-- A file to ask about. -/
def smallSubject : Subject := ⟨"f()\n", "a.js", none, none⟩

/-- Three issues, the first of which says nothing. -/
def silentIssues : List Value :=
  [.obj [("severity", .str "high")],
    .obj [("severity", .str "high"), ("message", .str "x")],
    .obj [("severity", .str "low"), ("message", .str "y")]]

/-- The page of these issues behind so many of them. -/
def silentPage : Nat → String
  | 0 => "\x7b\"issues\": [\x7b\"severity\": \"high\"\x7d,"
      ++ " \x7b\"severity\": \"high\", \"message\": \"x\"\x7d], \"hasMore\": true\x7d"
  | 1 => "\x7b\"issues\": [\x7b\"severity\": \"high\", \"message\": \"x\"\x7d,"
      ++ " \x7b\"severity\": \"low\", \"message\": \"y\"\x7d], \"hasMore\": false\x7d"
  | 2 => "\x7b\"issues\": [\x7b\"severity\": \"low\", \"message\": \"y\"\x7d],"
      ++ " \"hasMore\": false\x7d"
  | _ => "\x7b\"issues\": [], \"hasMore\": false\x7d"

/-- The service that has these issues: it looks up what a prompt says that was delivered. -/
def silentService : Service Unit where
  reply prompt s :=
    let delivered := [1, 2, 3].find? fun d => prompt = (twoByTwo.request smallSubject 1 d).prompt
    ⟨.ok (silentPage (delivered.getD 0)), s, []⟩

omit [Text.Spare] in
/-- The service hands out its issues. -/
theorem handsOut_silentService :
    letI : Text.Spare := ⟨0⟩
    twoByTwo.HandsOut silentService smallSubject silentIssues := by
  let : Text.Spare := ⟨0⟩
  have hanswer : ∀ chunk < 2, ∀ d < 4, (chunk = 0 → d = 0) →
      (silentService.reply (twoByTwo.request smallSubject chunk d).prompt ()).result
        = .ok (silentPage d) := by
    simp only [silentService, prompt_request_eq_iff]
    decide +kernel
  have hread : ∀ d < 4, (Json.read (silentPage d)).toOption = some
      (.obj [("issues", .arr ((silentIssues.drop d).take 2)),
        ("hasMore", .bool (decide (d + 2 < silentIssues.length)))]) := by
    decide +kernel
  have hbrings : ∀ d < 4, twoByTwo.Brings silentIssues d (.ok (silentPage d)) := fun d hd =>
    ⟨_, _, rfl, eq_ok_of_toOption (hread d hd), rfl, rfl⟩
  refine ⟨fun s => ?_, fun chunk delivered s hpos hchunk hle => ?_⟩
  · rw [hanswer 0 (by decide) 0 (by decide) fun _ => rfl]
    exact hbrings 0 (by decide)
  · have hlt : delivered < 4 := Nat.lt_succ_of_le hle
    rw [hanswer chunk hchunk delivered hlt fun hzero => absurd hzero hpos.ne']
    exact hbrings delivered hlt

omit [Text.Spare] in
/-- The law about this service. -/
theorem analyze_handsOut_silentService :
    letI : Text.Spare := ⟨0⟩
    twoByTwo.HandsOut silentService smallSubject silentIssues ∧
      ∃ a delivered, (twoByTwo.analyze silentService smallSubject ()).result = .ok a ∧
        (findingsOf "a.js" (silentIssues.take (delivered + 2))).Sublist a.findings ∧
        (a.findings = findingsOf "a.js" (silentIssues.take (delivered + 2)) ↔
          ∀ v ∈ silentIssues.take delivered, MakesFinding "a.js" v) := by
  let : Text.Spare := ⟨0⟩
  refine ⟨handsOut_silentService, ?_⟩
  obtain ⟨dialogue, a, s', e, delivered, hconverses, -, -, hkept, hexact, -⟩ :=
    analyze_handsOut handsOut_silentService ()
  exact ⟨a, delivered, hconverses.result, hkept, hexact⟩

omit [Text.Spare] in
/-- **What is delivered twice.**  The service hands out its list and the bound has room for it, but
the first issue makes no finding: the second one is the end of the first page and the start of the
second one. -/
theorem analyze_silentService_repeats :
    letI : Text.Spare := ⟨0⟩
    twoByTwo.HandsOut silentService smallSubject silentIssues ∧
      silentIssues.length ≤ twoByTwo.pageSize * twoByTwo.maxChunks ∧
      ∃ a, (twoByTwo.analyze silentService smallSubject ()).result = .ok a ∧
        a.findings.map Finding.message = ["x", "x", "y"] ∧
        (findingsOf "a.js" silentIssues).map Finding.message = ["x", "y"] ∧
        a.findings ≠ findingsOf "a.js" silentIssues := by
  let : Text.Spare := ⟨0⟩
  have hs := handsOut_silentService
  have hstart := delivered_start twoByTwo "a.js" silentIssues
  have hmessages : (findingsOf "a.js" (silentIssues.take 2)).map Finding.message = ["x"] ∧
      (findingsOf "a.js" ((silentIssues.drop 1).take 2)).map Finding.message = ["x", "y"] ∧
      (findingsOf "a.js" silentIssues).map Finding.message = ["x", "y"] := by decide +kernel
  obtain ⟨reply, page, hanswer, hread, hpage, hcomplete⟩ :=
    (hs.brings hstart (by decide) ()).exists_page "a.js"
  replace hpage : page.findings = findingsOf "a.js" (silentIssues.take 2) := hpage
  have hadd : Delivered twoByTwo "a.js" silentIssues (Progress.start.add page) :=
    hstart.add hpage (by decide)
  have hdelivered : (Progress.start.add page).analysis.findings.length = 1 := by
    show page.findings.length = 1
    rw [hpage, ← List.length_map Finding.message, hmessages.1]
    rfl
  obtain ⟨reply', page', hanswer', hread', hpage', hcomplete'⟩ :=
    (hs.brings hadd Nat.one_lt_two ()).exists_page "a.js"
  rw [hdelivered] at hpage' hcomplete'
  replace hpage' : page'.findings = findingsOf "a.js" ((silentIssues.drop 1).take 2) := hpage'
  have hrun := converses_analyze (converses_pages_more hanswer hread hcomplete
    (converses_pages_last hanswer' hread' hcomplete'))
  have hfindings : ((Progress.start.add page).add page').result.findings.map Finding.message
      = ["x", "x", "y"] := by
    show (page.findings ++ page'.findings).map Finding.message = _
    rw [List.map_append, hpage, hpage', hmessages.1, hmessages.2.1]
    rfl
  refine ⟨hs, by decide, _, hrun.result, hfindings, hmessages.2.2, fun heq => ?_⟩
  rw [heq, hmessages.2.2] at hfindings
  exact absurd hfindings (by decide)

end Paging
end CodeReview
