import CodeReview.Chat.StandIn
import CodeReview.Proofs.Number.Numeral
import CodeReview.Proofs.Text.Lines
import CodeReview.Proofs.Text.Occurrence
import CodeReview.Proofs.Text.Trimmed
import Mathlib.Data.Bool.AllAny

/-!
# How the stand-in knows a request for a page

The stand-in is a service like any other: it gets a text and answers it.  What the text is a
request for it has to find out, and it does so by words that occur in it.  Since a request shows
the file it is about, such a word may be in the file; a source that has `"fixedCode"` in it makes
every request about it look like one for a fix.

A request for a page shows a path, a file and an instruction between fixed texts.  Each of these
has a blank or a line feed at its border, and no foreign mark has one; so a foreign mark, a word by
which a request is taken for something else, is in the request only if it is in one of the three
(`foreign_infix_prompt_iff`).  If the path and the file have none, the request is known for what it
is, and so is whether it is for the first page.

The path is found in its line, so it has to be one line, and it is not blank.  All this together is
`answer_prompt`: which of its two pages the stand-in answers a request with.
Requests about a project are left out: `projectLines` has to be empty.  A review never says what
kind of project it is about, so all its requests are of this form.
-/

set_option autoImplicit false

namespace CodeReview.Chat.StandIn

open CodeReview.Prompt (Page)
open CodeReview.Text

/-- The service answers a prompt as the stand-in does. -/
theorem result_reply {σ : Type} (prompt : String) (s : σ) :
    (service.reply prompt s).result = answer prompt := by
  show reply [.ofUser prompt] = _
  simp [reply, Message.ofUser]

/-! ## The parts of a request

The parts are given as lists of characters, so that what is in them can be decided once. -/

/-- What stands before the path. -/
def aheadOfPath : List Char := "你是资深代码审查工程师，请对下面的代码做一次完整审查。\n\npath: ".toList

/-- What stands between the path and the file. -/
def aheadOfFile : List Char := "\n\n```\n".toList

/-- What stands between the file and the instruction. -/
def aheadOfInstruction : List Char := ("\n```\n\n" ++ Page.topics).toList

/-- What stands behind the instruction. -/
def behindInstruction : List Char :=
  ("\n" ++ "输出 JSON（不要输出其它内容）：\n" ++ Prompt.analysisShape ++ "\n").toList

theorem toList_closingFence : "\n```\n\n".toList = "\n```".toList ++ "\n\n".toList := by decide

variable {page : Page}

/-- **A request** in its parts. -/
theorem toList_prompt (hproject : page.projectLines = "") :
    page.prompt.toList = aheadOfPath ++ (page.path.toList ++ (aheadOfFile ++
      (page.content.toList ++ (aheadOfInstruction ++
        (page.instruction.toList ++ behindInstruction))))) := by
  have hpath : aheadOfPath
      = "你是资深代码审查工程师，请对下面的代码做一次完整审查。\n\n".toList ++ "path: ".toList := by
    unfold aheadOfPath
    repeat rw [String.toList_ofList]
    rfl
  have hfile : aheadOfFile = "\n\n".toList ++ "```\n".toList := by decide
  unfold Page.prompt Prompt.fenced aheadOfInstruction behindInstruction
  simp only [hproject, hpath, hfile, toList_closingFence, String.toList_append, String.toList_empty,
    List.append_nil, List.append_assoc]

/-! ## Foreign marks

To check by `decide` that a mark is not in a fixed text would compare it at every place.  It is
quicker to name characters that each mark has one of and the fixed texts have none of
(`telltales`). -/

/-- The words by which a request is taken for something other than one for a first page. -/
def foreignMarks : List String := ["\"fixedCode\"", "\"overallQuality\"", Page.continuationMark]

/-- None of these words is in the text. -/
def IsUnmarked (text : String) : Prop := ∀ mark ∈ foreignMarks, ¬mark.toList <:+: text.toList

theorem isUnmarked_iff {text : String} :
    IsUnmarked text ↔ foreignMarks.all (fun mark => !occursIn mark.toList text.toList) = true := by
  simp [IsUnmarked, ← occursIn_iff_isInfix]

/-- Characters that tell the foreign marks from what is fixed in a request. -/
def telltales : List Char := ['C', 'Q', '续']

theorem exists_telltale : ∀ mark ∈ foreignMarks, ∃ c ∈ telltales, c ∈ mark.toList := by
  have hany : ∀ mark ∈ foreignMarks, telltales.any (· ∈ mark.toList) = true := by decide
  exact fun mark hmark => List.any_iff_exists_prop.1 (hany mark hmark)

/-- A foreign mark is not in a text without telltales. -/
theorem not_infix_of_telltales {mark : String} (hmark : mark ∈ foreignMarks) {cs : List Char}
    (h : ∀ c ∈ telltales, c ∉ cs) : ¬mark.toList <:+: cs := by
  obtain ⟨c, hc, hmem⟩ := exists_telltale mark hmark
  exact fun hpart => h c hc (hpart.subset hmem)

-- In each of the following the texts are first turned into lists of characters, which is cheap;
-- to decode their bytes is not.

theorem telltales_aheadOfPath : ∀ c ∈ telltales, c ∉ aheadOfPath := by
  unfold aheadOfPath
  rw [String.toList_ofList]
  exact List.all_iff_forall_prop.1 (by decide)

theorem telltales_aheadOfFile : ∀ c ∈ telltales, c ∉ aheadOfFile :=
  List.all_iff_forall_prop.1 (by decide)

theorem telltales_aheadOfInstruction : ∀ c ∈ telltales, c ∉ aheadOfInstruction := by
  unfold aheadOfInstruction Page.topics
  simp only [String.toList_append]
  repeat rw [String.toList_ofList]
  exact List.all_iff_forall_prop.1 (by decide)

theorem telltales_behindInstruction : ∀ c ∈ telltales, c ∉ behindInstruction := by
  unfold behindInstruction Prompt.analysisShape
  simp only [String.toList_append]
  repeat rw [String.toList_ofList]
  exact List.all_iff_forall_prop.1 (by decide)

/-- At the borders of the path, the file and the instruction stand blanks and line feeds. -/
theorem borders :
    aheadOfPath.getLast? = some ' ' ∧
      aheadOfFile.head? = some '\n' ∧ aheadOfFile.getLast? = some '\n' ∧
        aheadOfInstruction.head? = some '\n' ∧ aheadOfInstruction.getLast? = some '\n' ∧
          behindInstruction.head? = some '\n' := by
  refine ⟨?_, rfl, by decide, ?_, ?_, ?_⟩
  · unfold aheadOfPath
    rw [String.toList_ofList]
    rfl
  · unfold aheadOfInstruction
    rw [String.toList_append, String.toList_ofList]
    rfl
  · unfold aheadOfInstruction Page.topics
    simp only [String.toList_append, List.getLast?_append]
    repeat rw [String.toList_ofList]
    rfl
  · unfold behindInstruction
    simp only [String.toList_append]
    rw [String.toList_ofList]
    rfl

/-- **A foreign mark in a request** is in the path, the file or the instruction. -/
theorem foreign_infix_prompt_iff (hproject : page.projectLines = "") {mark : String}
    (hmark : mark ∈ foreignMarks) :
    mark.toList <:+: page.prompt.toList ↔ mark.toList <:+: page.path.toList ∨
      mark.toList <:+: page.content.toList ∨ mark.toList <:+: page.instruction.toList := by
  have hplain : ∀ mark ∈ foreignMarks, ' ' ∉ mark.toList ∧ '\n' ∉ mark.toList := by decide
  obtain ⟨hblank, hline⟩ := hplain mark hmark
  obtain ⟨hpath, hfile, hfile', hinstruction, hinstruction', hbehind⟩ := borders
  have hhead {cs : List Char} (h : cs.head? = some '\n') (more : List Char) :
      (cs ++ more).head? = some '\n' := by
    rw [List.head?_append, h]
    rfl
  rw [toList_prompt hproject, infix_append_iff_of_getLast? hblank hpath,
    infix_append_iff_of_head? hline _ (hhead hfile _), infix_append_iff_of_getLast? hline hfile',
    infix_append_iff_of_head? hline _ (hhead hinstruction _),
    infix_append_iff_of_getLast? hline hinstruction', infix_append_iff_of_head? hline _ hbehind]
  simp only [not_infix_of_telltales hmark telltales_aheadOfPath,
    not_infix_of_telltales hmark telltales_aheadOfFile,
    not_infix_of_telltales hmark telltales_aheadOfInstruction,
    not_infix_of_telltales hmark telltales_behindInstruction, false_or, or_false]

/-! ## The instruction

The numbers in the instruction are written in digits, and the only mark it can have is that of a
later page, which is in all later pages and not in the first. -/

theorem toString_text (s : String) : toString s = s := rfl

theorem telltales_toString (n : Int) : ∀ c ∈ telltales, c ∉ (toString n).toList := by
  have hlarge : ∀ c ∈ telltales, 57 < c.toNat := List.all_iff_forall_prop.1 (by decide)
  intro c hc hmem
  have hc := hlarge c hc
  have hrange := Numeral.toNat_of_mem_toString hmem
  omega

theorem telltales_firstInstruction (n : Int) :
    ∀ c ∈ telltales, c ∉ (Page.firstInstruction n).toList := by
  intro c hc
  unfold Page.firstInstruction
  simp only [String.toList_append, List.mem_append, not_or, toString_text,
    telltales_toString n c hc, not_false_iff, and_true]
  revert c
  repeat rw [String.toList_ofList]
  exact List.all_iff_forall_prop.1 (by decide)

theorem letters_nextInstruction (chunk delivered pageSize : Int) :
    ∀ c ∈ ['C', 'Q'], c ∉ (Page.nextInstruction chunk delivered pageSize).toList := by
  intro c hc
  have hn (n : Int) := telltales_toString n c (List.mem_append_left ['续'] hc)
  unfold Page.nextInstruction
  simp only [String.toList_append, List.mem_append, not_or, toString_text, hn, not_false_iff,
    and_true]
  clear hn
  revert c
  repeat rw [String.toList_ofList]
  exact List.all_iff_forall_prop.1 (by decide)

/-- **The instruction** has no foreign mark but that of a later page, and that one if it is one. -/
theorem foreign_infix_instruction_iff (page : Page) {mark : String} (hmark : mark ∈ foreignMarks) :
    mark.toList <:+: page.instruction.toList ↔
      mark = Page.continuationMark ∧ page.chunk ≠ 0 := by
  rw [Page.instruction]
  split
  · rename_i hchunk
    have hnone := not_infix_of_telltales hmark (telltales_firstInstruction page.pageSize)
    simp only [hnone, hchunk, ne_eq, not_true, and_false]
  · rename_i hchunk
    have hletters := letters_nextInstruction page.chunk page.delivered page.pageSize
    have hnone {mark : String} {c : Char} (hc : c ∈ ['C', 'Q']) (hmem : c ∈ mark.toList)
        (hother : mark ≠ Page.continuationMark) : mark.toList <:+:
          (Page.nextInstruction page.chunk page.delivered page.pageSize).toList ↔
            mark = Page.continuationMark ∧ page.chunk ≠ 0 :=
      ⟨fun h => absurd (h.subset hmem) (hletters c hc), fun h => absurd h.1 hother⟩
    simp only [foreignMarks, List.mem_cons, List.not_mem_nil, or_false] at hmark
    rcases hmark with rfl | rfl | rfl
    · exact hnone (c := 'C') (by decide) (by decide) (by decide)
    · exact hnone (c := 'Q') (by decide) (by decide) (by decide)
    · refine iff_of_true ?_ ⟨rfl, hchunk⟩
      unfold Page.nextInstruction
      simp only [String.toList_append, List.append_assoc]
      exact (List.prefix_append _ _).isInfix.trans (List.suffix_append _ _).isInfix

/-- A request about a path and a file without foreign marks has at most that of a later page. -/
theorem occursIn_prompt (hproject : page.projectLines = "") (hpath : IsUnmarked page.path)
    (hcontent : IsUnmarked page.content) {mark : String} (hmark : mark ∈ foreignMarks) :
    occursIn mark.toList page.prompt.toList
      = decide (mark = Page.continuationMark ∧ page.chunk ≠ 0) := by
  rw [Bool.eq_iff_iff, occursIn_iff_isInfix, foreign_infix_prompt_iff hproject hmark,
    foreign_infix_instruction_iff page hmark, decide_eq_true_iff]
  simp only [hpath mark hmark, hcontent mark hmark, false_or]

/-! ## What the request is for

Every request for a page asks for `hasMore`, and this is what it is taken for one by. -/

theorem more_infix_prompt (hproject : page.projectLines = "") :
    "\"hasMore\"".toList <:+: page.prompt.toList := by
  have hmore : "\"hasMore\"".toList <:+: behindInstruction := by
    rw [← occursIn_iff_isInfix]
    unfold behindInstruction Prompt.analysisShape
    simp only [String.toList_append]
    repeat rw [String.toList_ofList]
    decide +kernel
  rw [toList_prompt hproject]
  simp only [← List.append_assoc]
  exact hmore.trans (List.suffix_append _ _).isInfix

/-- **A request for a page** is taken for one. -/
theorem ofPrompt_prompt (hproject : page.projectLines = "") (hpath : IsUnmarked page.path)
    (hcontent : IsUnmarked page.content) : Prompt.Purpose.ofPrompt page.prompt = .analysis := by
  have hfix : occursIn "\"fixedCode\"".toList page.prompt.toList = false := by
    rw [occursIn_prompt hproject hpath hcontent (by decide)]
    exact decide_eq_false fun h => absurd h.1 (by decide)
  have harchitecture : occursIn "\"overallQuality\"".toList page.prompt.toList = false := by
    rw [occursIn_prompt hproject hpath hcontent (by decide)]
    exact decide_eq_false fun h => absurd h.1 (by decide)
  have hmore := occursIn_iff_isInfix.2 (more_infix_prompt hproject)
  simp only [Prompt.Purpose.ofPrompt, Prompt.Purpose.marks, List.find?_cons, hfix, harchitecture,
    hmore, Option.map_some, Option.getD_some]

/-! ## The path

The path stands in the third line, behind its label; the lines before it are fixed. -/

/-- The first line of a request; an empty one and the one with the path come behind it. -/
def openingLine : List Char := "你是资深代码审查工程师，请对下面的代码做一次完整审查。".toList

theorem aheadOfPath_eq : aheadOfPath = openingLine ++ '\n' :: ([] ++ '\n' :: pathLabel) := by
  unfold aheadOfPath openingLine pathLabel
  repeat rw [String.toList_ofList]
  rfl

/-- The opening line is a line, and no line with a path. -/
theorem openingLine_plain : (∀ c ∈ openingLine, isLineBoundary c = false) ∧
    after? pathLabel (trim openingLine) = none := by
  unfold openingLine
  rw [String.toList_ofList]
  exact ⟨List.all_iff_forall_prop.1 (by decide), by decide +kernel⟩

/-- The lines of a request, up to the one with the path. -/
theorem logicalLines_prompt (hproject : page.projectLines = "")
    (hline : ∀ c ∈ page.path.toList, isLineBoundary c = false) :
    ∃ more, logicalLines page.prompt.toList
      = openingLine :: [] :: (pathLabel ++ page.path.toList) :: more := by
  have hlabel : ∀ c ∈ pathLabel ++ page.path.toList, isLineBoundary c = false :=
    List.forall_mem_append.2 ⟨List.all_iff_forall_prop.1 (by decide), hline⟩
  have hfile (more : List Char) : aheadOfFile ++ more = '\n' :: ("\n```\n".toList ++ more) := rfl
  rw [toList_prompt hproject, aheadOfPath_eq, hfile, List.append_assoc, List.cons_append,
    logicalLines_append_cons openingLine_plain.1, List.append_assoc, List.cons_append,
    logicalLines_append_cons (by simp), ← List.append_assoc, logicalLines_append_cons hlabel]
  exact ⟨_, rfl⟩

/-- **The path of a request** is found, without the blanks around it. -/
theorem pathIn?_prompt (hproject : page.projectLines = "")
    (hpath : isAllBlank page.path.toList = false)
    (hline : ∀ c ∈ page.path.toList, isLineBoundary c = false) :
    pathIn? page.prompt = some (trimString page.path) := by
  have hfound : after? pathLabel (trim (pathLabel ++ page.path.toList))
      = some (trimEnd page.path.toList) := by
    rw [after?_eq_some_iff]
    exact trim_cons_append (by decide) _ hpath
  have hempty : after? pathLabel (trim []) = none := rfl
  obtain ⟨more, hmore⟩ := logicalLines_prompt hproject hline
  simp only [pathIn?, hmore, List.findSome?_cons, openingLine_plain.2, hempty, hfound,
    Option.map_none, Option.map_some, trim_trimEnd, trimString]

/-- **A request for a page** is answered with the first page if it is for the first one, and with
the last page if it is for any other. -/
theorem answer_prompt (hproject : page.projectLines = "") (hpath : IsUnmarked page.path)
    (hcontent : IsUnmarked page.content) (hblank : isAllBlank page.path.toList = false)
    (hline : ∀ c ∈ page.path.toList, isLineBoundary c = false) :
    answer page.prompt = .ok (if page.chunk = 0 then firstPage (trimString page.path)
      else lastPage (trimString page.path)) := by
  have hlater := occursIn_prompt hproject hpath hcontent
    (List.mem_of_getLast? (l := foreignMarks) (a := Page.continuationMark) rfl)
  simp only [answer, ofPrompt_prompt hproject hpath hcontent, pageReply,
    pathIn?_prompt hproject hblank hline, hlater]
  by_cases hchunk : page.chunk = 0 <;> simp [hchunk]

end CodeReview.Chat.StandIn
