import CodeReview.Proofs.Chat.Recognised
import CodeReview.Proofs.Reply.Entries
import CodeReview.Proofs.Reply.Written
import CodeReview.Proofs.Session.Logged

/-!
# Rehearsed analyses

Asked for the findings of a file, the stand-in delivers two pages.  It cuts off the first one
behind its finding, on purpose, so that a rehearsal meets a reply that has to be repaired.  A
rehearsal in which the repair failed would be of little use, so here is when it succeeds: if the
path in the page has as many closing brackets and braces as opening ones (`IsEven`), as balancing
counts those in strings too.  Nothing else about the path matters, and nothing at all about the
file but that it is not taken for a request of another kind.

* `balance_firstSpan` — balancing gives the page as it would have been;
* `load_firstPage` — it is loaded, with the one notice that it had to be repaired;
* `analyze_standIn` — an analysis goes through both pages and ends with the finding of either.
The brackets are counted by a lemma and not by evaluation, as the path is any (`count_firstSpan`):
a literal has the brackets of its string, and the rest of the page is fixed, so it is counted once
for the empty path (`count_firstSpan_empty`).  That gives one closing bracket and one closing
brace, in the order in which balancing puts them (`closers_firstSpan`).

Both pages tell their findings in the words of the stand-in, with the path in them.  What is read
of them is `readAnalysis_firstPage` and `readAnalysis_lastPage`; the rest is the general account of
an analysis of two pages (`Paging.analyze_two_pages`).
-/

set_option autoImplicit false

namespace CodeReview.Chat.StandIn

open CodeReview.Json (Value Fields Layout)
open CodeReview.Reply
open CodeReview.Text

/-! ## The first page

The page is written by the writer up to its end, and one bracket and one brace are missing there.
Its brackets are counted with the path left out; the brackets of the path come on top of that,
however its quotes and backslashes are escaped (`Json.count_literal`). -/

/-- The fields that the first page would have if it were not cut off. -/
def firstFields (path : String) : Fields :=
  [("hasMore", .bool true), ("issues", .arr [firstIssue path])]

/-- The first page between its braces. -/
def firstSpan (path : String) : List Char :=
  "\x7b\"hasMore\": true, \"issues\": [".toList ++ (firstIssue path).chars .inline 0

theorem chars_firstFields (path : String) :
    (Value.obj (firstFields path)).chars .inline 0 = firstSpan path ++ [']', '\x7d'] := by
  have hopening : '\x7b' :: Json.literal "hasMore" ++ ':' :: ' ' :: "true".toList ++ ',' :: ' ' ::
      Json.literal "issues" ++ [':', ' ', '['] = "\x7b\"hasMore\": true, \"issues\": [".toList := by
    decide
  have hissue : (firstIssue path).chars .inline 2 = (firstIssue path).chars .inline 0 := rfl
  unfold firstSpan
  rw [← hopening, ← hissue]
  simp [firstFields, Value.chars, Json.fieldsChars, Json.itemsChars, Layout.edge,
    Layout.behindColon, Layout.behindComma, Layout.inline]

theorem bounded_firstFields (path : String) : (Value.obj (firstFields path)).Bounded 3 := by
  have hshort : Json.IsShort 1 := by decide
  simp [firstFields, firstIssue, hshort]

/-- **The brackets in the first page** are fixed, but for those in the path. -/
theorem count_firstSpan (path : String) {c : Char} (hc : c ∈ ['\x7b', '\x7d', '[', ']']) :
    (firstSpan path).count c = (firstSpan "").count c + path.toList.count c := by
  unfold firstSpan
  simp only [firstIssue, Value.chars, Json.fieldsChars, List.cons_append,
    List.count_cons, List.count_append, Json.count_literal hc, String.toList_append,
    String.toList_empty, List.count_nil]
  omega

theorem count_firstSpan_empty : (firstSpan "").count '\x7b' = (firstSpan "").count '\x7d' + 1 ∧
    (firstSpan "").count '[' = (firstSpan "").count ']' + 1 := by
  decide +kernel

/-- The path has as many closing brackets and braces as opening ones. -/
structure IsEven (path : String) : Prop where
  braces : path.toList.count '\x7b' = path.toList.count '\x7d'
  brackets : path.toList.count '[' = path.toList.count ']'

variable {path : String}

theorem endsInBrace_firstSpan (path : String) : Json.EndsInBrace (firstSpan path) := by
  obtain ⟨inner, hinner⟩ := Json.exists_chars_obj _ .inline 0
  unfold firstSpan firstIssue
  rw [hinner, ← List.append_assoc]
  exact .append_brace _

/-- One bracket of either kind is open in the first page, whatever even path it is about. -/
theorem closers_firstSpan {opener closer : Char} (hopener : opener ∈ ['\x7b', '\x7d', '[', ']'])
    (hcloser : closer ∈ ['\x7b', '\x7d', '[', ']'])
    (hempty : (firstSpan "").count opener = (firstSpan "").count closer + 1)
    (hpath : path.toList.count opener = path.toList.count closer) :
    Span.closers opener closer (firstSpan path) = [closer] := by
  rw [Span.closers, count_firstSpan path hopener, count_firstSpan path hcloser, hempty, hpath,
    Nat.add_right_comm, Nat.add_sub_cancel_left]
  rfl

/-- **Balancing completes the first page** if it is about an even path. -/
theorem balance_firstSpan (h : IsEven path) :
    Span.balance (firstSpan path) = (Value.obj (firstFields path)).chars .inline 0 := by
  obtain ⟨hbraces, hbrackets⟩ := count_firstSpan_empty
  rw [Span.balance_of_endsInBrace (endsInBrace_firstSpan path), chars_firstFields,
    closers_firstSpan (by simp) (by simp) hbraces h.braces,
    closers_firstSpan (by simp) (by simp) hbrackets h.brackets]
  rfl

theorem firstPage_eq (path : String) : firstPage path = String.ofList
    ("Here is the first batch:\n```json\n".toList ++ firstSpan path ++ ",\n".toList) := by
  have hopening : "Here is the first batch:\n```json\n\x7b\"hasMore\": true, \"issues\": [".toList
      = "Here is the first batch:\n```json\n".toList
        ++ "\x7b\"hasMore\": true, \"issues\": [".toList := by
    repeat rw [String.toList_ofList]
    rfl
  rw [← String.ofList_toList (s := firstPage path)]
  unfold firstPage firstSpan
  simp only [String.toList_append, Value.inline, String.toList_ofList, hopening,
    List.append_assoc]

variable [Spare]

/-- **The first page is loaded** with one notice. -/
theorem load_firstPage (h : IsEven path) :
    ∃ f, load (firstPage path) = ⟨[.notJson f], .ok (some (firstFields path))⟩ := by
  have hopen : (firstSpan path).count '\x7d' < (firstSpan path).count '\x7b' := by
    rw [count_firstSpan path (by simp), count_firstSpan path (by simp), h.braces,
      count_firstSpan_empty.1]
    omega
  have hread := (bounded_firstFields path).read_chars (Json.le_maxDepth (by decide)) .inline 0
  rw [← balance_firstSpan h] at hread
  rw [firstPage_eq]
  exact load_of_balanced (by decide) (by decide +kernel) rfl (endsInBrace_firstSpan path)
    hopen hread

/-! ## The last page

The last page is a whole object, so it is loaded from its text as it is. -/

/-- The issue of the last page. -/
def lastIssue (path : String) : Value :=
  .obj
    [("line", .int 2), ("severity", .str "low"), ("category", .str "Code Quality"),
      ("message", .str ("[MOCK] " ++ path ++ ": 建议为关键逻辑添加单元测试。")),
      ("autoFixable", .bool false)]

/-- The fields of the last page. -/
def lastFields (path : String) : Fields :=
  [("issues", .arr [lastIssue path]), ("hasMore", .bool false),
    ("summary", .str "[MOCK] 整体结构清晰，错误处理需要加强。"),
    ("suggestions", .arr [.str "[MOCK] 增加测试覆盖"]),
    ("architecturalInsights", .arr [.str "[MOCK] 模块职责划分合理"])]

/-- **The last page is loaded** without a notice. -/
theorem load_lastPage (path : String) :
    load (lastPage path) = ⟨[], .ok (some (lastFields path))⟩ := by
  have hbounded : (Value.obj (lastFields path)).Bounded 3 := by
    have hshort : Json.IsShort 2 := by decide
    simp [lastFields, lastIssue, hshort]
  have hpage : lastPage path = String.ofList ("```json\n".toList
      ++ (Value.obj (lastFields path)).chars .inline 0 ++ "\n```".toList) := by
    rw [← String.ofList_toList (s := lastPage path)]
    unfold lastPage lastFields lastIssue
    simp only [String.toList_append, Value.inline, String.toList_ofList]
  rw [hpage]
  exact loadWith_chars Span.balance (by decide) (by decide) hbounded
    (Json.le_maxDepth (by decide)) .inline 0

/-! ## What is read

The issue of either page states a severity and a message, so it makes a finding, whatever the path
in the message is. -/

/-- The finding of the first page, in the file at a path. -/
def firstFinding (path : String) : Finding where
  kind := .error
  severity := .high
  category := "Error Handling"
  message := "[MOCK] " ++ trimString path ++ ": 建议补充更严格的错误处理与边界校验。"
  file := path
  line := 1
  column := none
  snippet := none
  suggestedFix := some "为外部输入增加校验，并记录异常。"
  autoFixable := false

/-- The finding of the last page, in the file at a path. -/
def lastFinding (path : String) : Finding where
  kind := .warning
  severity := .low
  category := "Code Quality"
  message := "[MOCK] " ++ trimString path ++ ": 建议为关键逻辑添加单元测试。"
  file := path
  line := 2
  column := none
  snippet := none
  suggestedFix := none
  autoFixable := false

omit [Spare] in
theorem findingOf?_firstIssue (path : String) :
    Issue.findingOf? path (firstIssue (trimString path)) = .ok (firstFinding path) := by
  refine Issue.findingOf?_eq_ok.2 ⟨_, .high, (firstFinding path).message, rfl, ?_, ?_⟩
  · exact {
      known := ⟨"high", rfl, by decide⟩
      told := rfl
      worded := by simp [firstFinding]
      category := ⟨_, .text _⟩
      suggestedFix := ⟨_, .text _⟩ }
  · exact {
      file := rfl
      kind := rfl
      severity := rfl
      message := rfl
      category := rfl
      line := rfl
      column := rfl
      snippet := rfl
      suggestedFix := .text _
      autoFixable := rfl }

omit [Spare] in
theorem findingOf?_lastIssue (path : String) :
    Issue.findingOf? path (lastIssue (trimString path)) = .ok (lastFinding path) := by
  refine Issue.findingOf?_eq_ok.2 ⟨_, .low, (lastFinding path).message, rfl, ?_, ?_⟩
  · exact ⟨⟨"low", rfl, by decide⟩, rfl, by simp [lastFinding], ⟨_, .text _⟩, ⟨_, .absent⟩⟩
  · exact ⟨rfl, rfl, rfl, rfl, rfl, rfl, rfl, rfl, .absent, rfl⟩

/-- What the first page says about the file at a path. -/
def firstAnalysis (path : String) : Analysis := ⟨[firstFinding path], "", [], [], false⟩

/-- What the last page says about it. -/
def lastAnalysis (path : String) : Analysis where
  findings := [lastFinding path]
  summary := "[MOCK] 整体结构清晰，错误处理需要加强。"
  suggestions := ["[MOCK] 增加测试覆盖"]
  insights := ["[MOCK] 模块职责划分合理"]
  complete := true

/-- **What is read of the first page:** a finding, and that there is more. -/
theorem readAnalysis_firstPage (h : IsEven (trimString path)) :
    ∃ f, readAnalysis (firstPage (trimString path)) path
      = ⟨[.notJson f], .ok (firstAnalysis path)⟩ := by
  obtain ⟨f, hload⟩ := load_firstPage h
  exact ⟨f, readAnalysis_of_single hload rfl (findingOf?_firstIssue path)⟩

/-- **What is read of the last page:** a finding and all the remarks. -/
theorem readAnalysis_lastPage (path : String) :
    readAnalysis (lastPage (trimString path)) path = ⟨[], .ok (lastAnalysis path)⟩ := by
  have hsummary : trimString "[MOCK] 整体结构清晰，错误处理需要加强。"
      = "[MOCK] 整体结构清晰，错误处理需要加强。" := by decide
  have hremarks : analysisOf (lastFields (trimString path)) [lastFinding path]
      = lastAnalysis path := by
    show Analysis.mk _ (trimString _) _ _ _ = _
    rw [hsummary]
    rfl
  rw [readAnalysis_of_single (load_lastPage _) rfl (findingOf?_lastIssue path), hremarks]

/-! ## The analysis

Two requests are sent, as the first page says that there is more and the last one that there is
not. -/

open CodeReview.Paging

omit [Spare] in
theorem isEven_trimString (h : IsEven path) : IsEven (trimString path) := by
  have hcount {c : Char} (hc : isBlank c = false) :
      (trimString path).toList.count c = path.toList.count c := by
    rw [trimString, String.toList_ofList, count_trim hc]
  constructor
  · rw [hcount (by decide), hcount (by decide), h.braces]
  · rw [hcount (by decide), hcount (by decide), h.brackets]

omit [Spare] in
theorem progressLine_one {text : String} {p : Progress} (hchunks : p.chunks = 1)
    (hfindings : p.analysis.findings.length = 1) :
    progressLine ⟨text, path, none, none⟩ p
      = ⟨.info, s!"Received chunk 1 for {path} (1 finding(s) so far)"⟩ := by
  have hfront : "Received chunk " ++ toString 1 ++ " for " = "Received chunk 1 for " := by decide
  have hback : " (" ++ (toString 1 ++ " finding(s) so far)") = " (1 finding(s) so far)" := by
    decide
  simp only [progressLine, hchunks, hfindings, toString_text, hfront, ← hback, String.append_assoc]

/-- **A rehearsal of an analysis** takes two requests, whatever the file holds.  The reply to the
first one is cut off; that is the one thing noticed, and it is repaired.  The result is the finding
of either page, in their order, and the remarks of the last page. -/
theorem analyze_standIn {σ : Type} {text : String} (hblank : isAllBlank path.toList = false)
    (hline : ∀ c ∈ path.toList, isLineBoundary c = false) (heven : IsEven path)
    (hpath : IsUnmarked path) (htext : IsUnmarked text) (s : σ) :
    let o := standard.analyze service ⟨text, path, none, none⟩ s
    o.result = .ok ⟨[firstFinding path, lastFinding path], "[MOCK] 整体结构清晰，错误处理需要加强。",
        ["[MOCK] 增加测试覆盖"], ["[MOCK] 模块职责划分合理"], true⟩ ∧
      o.prompts = [Prompt.Page.prompt ⟨text, path, 0, 0, 25, none, none⟩,
        Prompt.Page.prompt ⟨text, path, 1, 1, 25, none, none⟩] ∧
      ∃ f, o.log = [⟨.warning, (Notice.notJson f).message⟩,
        ⟨.info, s!"Received chunk 1 for {path} (1 finding(s) so far)"⟩] := by
  have hanswer : (service.reply (standard.page ⟨text, path, none, none⟩ .start).prompt s).result
      = .ok (firstPage (trimString path)) := by
    rw [result_reply]
    exact answer_prompt rfl hpath htext hblank hline
  have hanswer' : (service.reply (standard.page ⟨text, path, none, none⟩
      (Progress.start.add (firstAnalysis path))).prompt s).result
        = .ok (lastPage (trimString path)) := by
    rw [result_reply]
    exact answer_prompt rfl hpath htext hblank hline
  obtain ⟨f, hread⟩ := readAnalysis_firstPage (isEven_trimString heven)
  have hread' := readAnalysis_lastPage path
  obtain ⟨hconverses, hlog⟩ := analyze_two_pages standard service ⟨text, path, none, none⟩ rfl
    hanswer (congrArg Reading.result hread) rfl rfl hanswer' (congrArg Reading.result hread') rfl
  refine ⟨hconverses.result, hconverses.prompts, f, ?_⟩
  rw [replyLines, replyLines, hread, hread', progressLine_one rfl rfl] at hlog
  exact hlog

omit [Spare] in
/-- The path has a quote, a backslash, a pair of brackets and a blank at its end. -/
theorem analyze_standIn_odd_path :
    letI : Spare := ⟨0⟩
    let path := "src/[a]\\\"b.js "
    let text := "x = \x7b\n```\n\n待修复问题："
    (isAllBlank path.toList = false ∧ (∀ c ∈ path.toList, isLineBoundary c = false) ∧
        IsEven path ∧ IsUnmarked path ∧ IsUnmarked text) ∧
      let o := standard.analyze service ⟨text, path, none, none⟩ ()
      o.result = .ok ⟨[firstFinding path, lastFinding path], "[MOCK] 整体结构清晰，错误处理需要加强。",
          ["[MOCK] 增加测试覆盖"], ["[MOCK] 模块职责划分合理"], true⟩ ∧
        o.prompts.length = 2 ∧ o.log.length = 2 := by
  let : Spare := ⟨0⟩
  intro path text
  have hblank : isAllBlank path.toList = false := by decide
  have hline : ∀ c ∈ path.toList, isLineBoundary c = false :=
    List.all_iff_forall_prop.1 (by decide)
  have heven : IsEven path := ⟨by decide, by decide +kernel⟩
  have hpath : IsUnmarked path := isUnmarked_iff.2 (by decide)
  have htext : IsUnmarked text := isUnmarked_iff.2 (by decide)
  obtain ⟨hresult, hprompts, f, hlog⟩ := analyze_standIn hblank hline heven hpath htext ()
  exact ⟨⟨hblank, hline, heven, hpath, htext⟩, hresult, congrArg List.length hprompts,
    congrArg List.length hlog⟩

end CodeReview.Chat.StandIn
