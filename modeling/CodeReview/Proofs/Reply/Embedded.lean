import CodeReview.Proofs.Json.Layout
import CodeReview.Proofs.Reply.Span
import CodeReview.Reply.Load

/-!
# Replies that hold a whole object

A service wraps the object it is asked for in prose.  The object is looked for between the first
opening brace of the reply and the last closing one, so prose does no harm on the side where it has
no brace of that kind: no opening one may stand before the object, no closing one behind it.  Then
the object is found and read as it is, however it is laid out (`loadWith_embedded`).

The object is any text that `Writes` allows, so this is about every rendering and not about one
writer's.  Braces inside its strings do not matter, since the span ends at the last brace of the
reply and not at the one that matches the first.

That the repair is not asked is part of the statement, in both senses: nothing depends on the
parameter `repair`, and the span is JSON as it stands.
-/

set_option autoImplicit false

namespace CodeReview.Reply

open CodeReview.Json

/-- **An object is read from among prose.**  Its fields come in the order they are written in,
nothing is noticed, and what is found between the braces is JSON, so the repair is not asked. -/
theorem loadWith_embedded [Text.Spare] (repair : Repair) {before behind : String} {depth : Nat}
    {fields : Fields} {text : List Char} (hbefore : '\x7b' ∉ before.toList)
    (hbehind : '\x7d' ∉ behind.toList) (h : Writes depth (.obj fields) text)
    (hdepth : depth ≤ maxDepth) :
    loadWith repair (before ++ String.ofList text ++ behind) = ⟨[], .ok (some fields)⟩ ∧
      ∃ span, Span.extract? (before ++ String.ofList text ++ behind).toList = some span ∧
        Json.read (String.ofList span) = .ok (.obj fields) := by
  obtain ⟨blanks, object, blanks', rfl, hblanks, hblanks', hobject, hstart, hend⟩ :=
    h.exists_object
  have hleft : '\x7b' ∉ before.toList ++ blanks := by
    rw [List.mem_append, not_or]
    exact ⟨hbefore, fun hmem => absurd (hblanks hmem) (by decide)⟩
  have hright : '\x7d' ∉ blanks' ++ behind.toList := by
    rw [List.mem_append, not_or]
    exact ⟨fun hmem => absurd (hblanks' hmem) (by decide), hbehind⟩
  have hsplit : (before ++ String.ofList (blanks ++ object ++ blanks') ++ behind).toList
      = before.toList ++ blanks ++ object ++ (blanks' ++ behind.toList) := by simp
  have hspan := hsplit ▸ Span.extract?_eq_some hleft hstart hend hright
  have hread := hobject.read_eq hdepth (by simp [hstart])
  refine ⟨?_, object, hspan, hread⟩
  simp only [loadWith, hspan, readOrRepair, hread]
  rfl

/-- A brace and a pair are escaped, a bracket is not; the zero has a minus, and the prose has
brackets and braces of its own. -/
theorem loadWith_embedded_in_prose :
    letI : Text.Spare := ⟨0⟩
    let fields : Fields := [("a\x7d", .arr [.int 0, .str "😀]"]), ("b", .obj [])]
    let text := "\x7b\"a\\u007D\":[ -0,\"\\uD83d\\ude00]\" ], \"b\":\x7b\t\x7d\x7d".toList
    '\x7b' ∉ "\x7d [a] ".toList ∧ '\x7d' ∉ "\x7b".toList ∧ Writes 2 (.obj fields) text ∧
      2 ≤ maxDepth ∧
      loadWith id ("\x7d [a] " ++ String.ofList text ++ "\x7b") = ⟨[], .ok (some fields)⟩ ∧
      ∃ span, Span.extract? ("\x7d [a] " ++ String.ofList text ++ "\x7b").toList = some span ∧
        Json.read (String.ofList span) = .ok (.obj fields) := by
  let : Text.Spare := ⟨0⟩
  intro fields text
  have hbefore : '\x7b' ∉ "\x7d [a] ".toList := by decide
  have hbehind : '\x7d' ∉ "\x7b".toList := by decide
  have hdepth : 2 ≤ maxDepth := by decide
  have hname : WritesName "a\x7d" "\"a\\u007D\"".toList := by
    have hbrace : WritesUnit ['0', '0', '7', 'D'] (((0 * 16 + 0) * 16 + 7) * 16 + 13) :=
      .mk (by decide) (by decide) (by decide) (by decide)
    have hchars : List.Forall₂ WritesChar ['a', '\x7d'] [['a'], "\\u007D".toList] :=
      .cons (.raw (by decide) (by decide) (by decide)) (.cons (.unit hbrace) .nil)
    exact @WritesName.mk _ [] _ [] (by decide) (.mk hchars) (by decide)
  have hname' : WritesName "b" " \"b\"".toList := by
    have hchars : List.Forall₂ WritesChar ['b'] [['b']] :=
      .cons (.raw (by decide) (by decide) (by decide)) .nil
    exact @WritesName.mk _ [' '] _ [] (by decide) (.mk hchars) (by decide)
  have hzero : Writes 0 (.int 0) " -0".toList :=
    @Writes.padded _ _ [' '] _ [] (by decide) (.int 0 (.minus 0 (by decide))) (by decide)
  have hface : Writes 0 (.str "😀]") "\"\\uD83d\\ude00]\" ".toList := by
    have hlead : WritesUnit ['D', '8', '3', 'd'] (((13 * 16 + 8) * 16 + 3) * 16 + 13) :=
      .mk (by decide) (by decide) (by decide) (by decide)
    have htrail : WritesUnit ['d', 'e', '0', '0'] (((13 * 16 + 14) * 16 + 0) * 16 + 0) :=
      .mk (by decide) (by decide) (by decide) (by decide)
    have hpair : WritesChar '😀' "\\uD83d\\ude00".toList :=
      @WritesChar.pair _ 0x3D 0x200 _ _ (by decide) (by decide) (by decide) hlead htrail
    have hchars : List.Forall₂ WritesChar ['😀', ']'] ["\\uD83d\\ude00".toList, [']']] :=
      .cons hpair (.cons (.raw (by decide) (by decide) (by decide)) .nil)
    exact @Writes.padded _ _ [] _ [' '] (by decide) (.str 0 (.mk hchars)) (by decide)
  have hitems : Writes 1 (.arr [.int 0, .str "😀]"]) "[ -0,\"\\uD83d\\ude00]\" ]".toList :=
    @Writes.arr 0 [(.int 0, " -0".toList), (.str "😀]", "\"\\uD83d\\ude00]\" ".toList)] (by simp)
      (List.forall_mem_cons.2 ⟨hzero, List.forall_mem_singleton.2 hface⟩)
  have hempty : Writes 1 (.obj []) "\x7b\t\x7d".toList := @Writes.emptyObj 0 ['\t'] (by decide)
  have htext : Writes 2 (.obj fields) text :=
    @Writes.obj 1 [⟨"a\x7d", _, _, _⟩, ⟨"b", _, _, _⟩] (by simp)
      (List.forall_mem_cons.2 ⟨hname, List.forall_mem_singleton.2 hname'⟩)
      (List.forall_mem_cons.2 ⟨hitems, List.forall_mem_singleton.2 hempty⟩) (by decide)
  exact ⟨hbefore, hbehind, htext, hdepth, loadWith_embedded id hbefore hbehind htext hdepth⟩

end CodeReview.Reply
