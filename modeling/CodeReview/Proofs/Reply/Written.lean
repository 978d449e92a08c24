import CodeReview.Proofs.Json.Written
import CodeReview.Proofs.Reply.Repair

/-!
# Replies with a written object

The stand-in for a service writes its replies with the writer of this project, and puts prose
around them or cuts them off.  An object that is written stands from brace to brace, in whichever
layout, so it is found among prose that has no brace on the sides where it matters, and is loaded
as it was (`loadWith_chars`).

One that was cut off behind a brace is loaded if balancing makes JSON of what is left
(`load_of_balanced`), and this is noticed.  Whether it does is a matter of the object; here it is
assumed, and that more braces open than close in the span, so that the span as it stands is no
JSON. The last lemma has the whole way of a reply with one issue, from the text to the finding.
-/

set_option autoImplicit false

namespace CodeReview.Reply

open CodeReview.Json

/-- **A written object is loaded from among prose.**  Nothing is noticed and the repair is not
asked. -/
theorem loadWith_chars [Text.Spare] (repair : Repair) {before behind : List Char} {depth : Nat}
    {fields : Fields} (hbefore : '\x7b' ∉ before) (hbehind : '\x7d' ∉ behind)
    (h : (Value.obj fields).Bounded depth) (hdepth : depth ≤ maxDepth) (layout : Layout)
    (level : Nat) :
    loadWith repair (String.ofList (before ++ (Value.obj fields).chars layout level ++ behind))
      = ⟨[], .ok (some fields)⟩ := by
  obtain ⟨inner, hchars⟩ := exists_chars_obj fields layout level
  have hend : EndsInBrace ((Value.obj fields).chars layout level) := by
    rw [hchars]
    exact .append_brace _
  have hspan := Span.extract?_eq_some hbefore (by simp [hchars]) hend hbehind
  have hread := h.read_chars hdepth layout level
  simp only [loadWith, String.toList_ofList, hspan, readOrRepair, hread]
  rfl

/-- **A cut object that balancing completes** is loaded from among prose, with one notice. -/
theorem load_of_balanced [Text.Spare] {before span behind : List Char} {fields : Fields}
    (hbefore : '\x7b' ∉ before) (hbehind : '\x7d' ∉ behind) (hhead : span.head? = some '\x7b')
    (hend : EndsInBrace span) (hopen : span.count '\x7d' < span.count '\x7b')
    (hread : Json.read (String.ofList (Span.balance span)) = .ok (.obj fields)) :
    ∃ f, load (String.ofList (before ++ span ++ behind)) = ⟨[.notJson f], .ok (some fields)⟩ := by
  obtain ⟨z, hbalance, hclosing⟩ := Span.balance_eq hend
  have hz : '\x7d' ∈ z := by
    have hclosers : '\x7d' ∈ Span.closers '\x7b' '\x7d' span :=
      List.mem_replicate.2 ⟨Nat.sub_ne_zero_of_lt hopen, rfl⟩
    rw [← List.append_cancel_left ((Span.balance_of_endsInBrace hend).symm.trans hbalance)]
    exact List.mem_append_right _ hclosers
  have hcompleted := hread
  rw [hbalance] at hcompleted
  have htake : (String.ofList (span ++ z)).toList.take span.length = span := by
    rw [String.toList_ofList, List.take_left]
  have hdrop : (String.ofList (span ++ z)).toList.drop span.length = z := by
    rw [String.toList_ofList, List.drop_left]
  have hbrace : '\x7d' ∈ (String.ofList (span ++ z)).toList.take span.length :=
    htake.symm ▸ List.mem_of_getLast? hend
  obtain ⟨_, p, q, rest, written, -, -, -, hp, -, hextract, hw⟩ :=
    exists_span_of_take hcompleted hbrace (hdrop.symm ▸ hz)
  have hspan : Span.extract? span = some span := by
    simpa using Span.extract?_eq_some List.not_mem_nil hhead hend List.not_mem_nil
  rw [htake, hspan] at hextract
  obtain rfl := Option.some.inj hextract
  have hreply := Span.extract?_eq_some hbefore hhead hend hbehind
  rw [← String.toList_ofList (l := before ++ _ ++ behind)] at hreply
  have hnothing : IsClosing [] := ⟨0, 0, rfl⟩
  rcases read_closed hp hw hnothing with ⟨f, hfault⟩ | ⟨cut, hok, -⟩
  · rw [List.append_nil] at hfault
    exact ⟨f, load_of_repaired hreply hfault hread⟩
  · -- nothing is open in a text that is read, so nothing could be put behind it
    rw [List.append_nil] at hok
    have hclosed := opens_of_read hok []
    have hwhole := opens_of_read hcompleted []
    rw [String.toList_ofList] at hclosed hwhole
    rw [Place.behind_append, hclosed, Option.bind_some] at hwhole
    have hnil : z = [] := (behind_eq_start_iff fun c hc => hclosing.mem hc).1 hwhole
    rw [hnil] at hz
    cases hz

/-- What is read of a reply whose one issue makes a finding. -/
theorem readAnalysis_of_single [Text.Spare] {text path : String} {notices : List Notice}
    {fields : Fields} {issue : Value} {f : Finding}
    (hload : load text = ⟨notices, .ok (some fields)⟩)
    (hissues : fields.get? "issues" = some (.arr [issue]))
    (hfinding : Issue.findingOf? path issue = .ok f) :
    readAnalysis text path = ⟨notices, .ok (analysisOf fields [f])⟩ := by
  have hread : issuesOf path (fields.get? "issues") = ⟨[], .ok [f]⟩ := by
    simp only [hissues, issuesOf, Issue.findings, hfinding]
    rfl
  rw [readAnalysis, Reading.bind_of_ok _ (congrArg Reading.result hload), hload]
  simp only [hread]
  show Reading.mk (notices ++ []) _ = _
  rw [List.append_nil]
  rfl

end CodeReview.Reply
