import CodeReview.Proofs.Json.Completion
import CodeReview.Proofs.Reply.Result
import CodeReview.Proofs.Reply.Span

/-!
# What the repair reaches

A reply that is an object is cut off inside it.  Balancing knows how many arrays and objects are
open behind the last brace, but not in which order they were opened, and closes the arrays first.
If the strings hold no brackets and braces, this is right in exactly the case that no object is
open inside an array (`load_take`); in the other case the reply is lost.

Both halves need an argument.  That the right closing characters complete the text is
`Json.read_completed`; that the wrong ones do not is the scan of `Json/Nesting.lean`, since there
is one way only to close what is open (`Json.behind_eq_start_iff`).  So what is left is to compare
the closing characters that balancing puts there with the right ones, and those agree exactly if
the order is arrays before objects (`Json.closersOf_eq_iff`).

The condition on strings is not for convenience.  Balancing counts brackets over the whole span,
also those in strings, so a string that holds one makes it close too many containers or too few.
-/

set_option autoImplicit false

namespace CodeReview.Reply

open CodeReview.Json CodeReview.Text

/-- **Balancing closes the arrays that are open, and then the objects,** if no literal holds a
bracket or a brace. -/
theorem Span.balance_of_opens {span : List Char} {opened : List Container} (hend : EndsInBrace span)
    (hopens : Opens span opened)
    (hplain : ∀ c ∈ ['\x7b', '\x7d', '[', ']'], c ∉ literalChars .between span) :
    Span.balance span = span ++ (List.replicate (opened.count .array) ']' ++
      List.replicate (opened.count .object) '\x7d') := by
  have hcount (container : Container) (hopener : container.opener ∉ literalChars .between span)
      (hcloser : container.closer ∉ literalChars .between span) :
      span.count container.opener - span.count container.closer = opened.count container := by
    have h : span.count container.opener + 0 =
        span.count container.closer + (opened ++ []).count container :=
      Place.count_behind (hopens []) hopener hcloser
    rw [List.append_nil] at h
    omega
  have harrays := hcount .array (hplain '[' (by simp)) (hplain ']' (by simp))
  have hobjects := hcount .object (hplain '\x7b' (by simp)) (hplain '\x7d' (by simp))
  rw [← harrays, ← hobjects]
  exact Span.balance_of_endsInBrace hend

/-- A text that ends in a brace ends between literals, if no literal holds a brace. -/
theorem spot_of_endsInBrace {cs : List Char} (hend : EndsInBrace cs)
    (hplain : '\x7d' ∉ literalChars .between cs) : Spot.between.behind cs = .between := by
  obtain ⟨cs, rfl⟩ := hend.exists_eq
  have hspot : Spot.between.behind cs = .between := by
    by_contra hne
    exact hplain (mem_literalChars '\x7d' hne)
  rw [Spot.behind_append, hspot]
  rfl

/-- What is in no literal of a text is in none of a part of it between literals. -/
theorem not_mem_literalChars {before cs behind : List Char} {c : Char} (hbefore : Opens before [])
    (h : c ∉ literalChars .between (before ++ (cs ++ behind))) : c ∉ literalChars .between cs := by
  rw [literalChars_append, hbefore.spot_eq, literalChars_append, List.mem_append, List.mem_append,
    not_or, not_or] at h
  exact h.2.1

variable [Spare]

section Load

variable {text : String} {span : List Char} {f g : Json.Fault} {fields : Fields}

theorem load_of_repaired (hspan : Span.extract? text.toList = some span)
    (hfault : Json.read (String.ofList span) = .error (.fault f))
    (hread : Json.read (String.ofList (Span.balance span)) = .ok (.obj fields)) :
    load text = ⟨[.notJson f], .ok (some fields)⟩ := by
  simp only [load, loadWith, hspan, readOrRepair, hfault, readRepaired, hread]
  rfl

theorem load_of_not_repaired (hspan : Span.extract? text.toList = some span)
    (hfault : Json.read (String.ofList span) = .error (.fault f))
    (hread : Json.read (String.ofList (Span.balance span)) = .error (.fault g)) :
    load text = ⟨[.notJson f, .notRepaired g], .ok none⟩ := by
  simp only [load, loadWith, hspan, readOrRepair, hfault, readRepaired, hread]
  rfl

end Load

section Cut

variable {p q rest : List Char} {written : Fields} {opened : List Container}

/-- An object that is cut off is no JSON: something is open in it. -/
theorem read_fault_of_opens (hp : EndsInBrace p)
    (h : readWritten (readValue (maxDepth - 1)) (p ++ (q ++ rest)) = .ok (written, rest))
    (hopens : Opens ('\x7b' :: p) opened) (hne : opened ≠ []) :
    ∃ f, Json.read (String.ofList ('\x7b' :: p)) = .error (.fault f) := by
  have hnil : IsClosing [] := ⟨0, 0, rfl⟩
  rcases read_closed hp h hnil with hfault | ⟨cut, hok, -⟩
  · rwa [List.append_nil] at hfault
  · rw [List.append_nil] at hok
    have hclosed := opens_of_read hok
    rw [String.toList_ofList] at hclosed
    exact absurd (hopens.unique hclosed) hne

/-- Brackets and braces that do not close what is open leave no JSON. -/
theorem read_fault_of_ne_closersOf {z : List Char} (hp : EndsInBrace p)
    (h : readWritten (readValue (maxDepth - 1)) (p ++ (q ++ rest)) = .ok (written, rest))
    (hopens : Opens ('\x7b' :: p) opened) (hz : IsClosing z) (hne : z ≠ closersOf opened) :
    ∃ f, Json.read (String.ofList ('\x7b' :: p ++ z)) = .error (.fault f) := by
  rcases read_closed hp h hz with hfault | ⟨cut, hok, -⟩
  · exact hfault
  · have hclosed := opens_of_read hok []
    rw [String.toList_ofList, ← List.cons_append, Place.behind_append, hopens, Option.bind_some,
      List.append_nil, List.append_nil] at hclosed
    exact absurd ((behind_eq_start_iff fun c hc => hz.mem hc).1 hclosed) hne

/-- Where no object is open inside an array, the repair closes what is open. -/
theorem load_of_not_objectInArray {reply : String} {found : Fields}
    (hspan : Span.extract? reply.toList = some ('\x7b' :: p)) (hp : EndsInBrace p)
    (h : readWritten (readValue (maxDepth - 1)) (p ++ (q ++ rest)) = .ok (written, rest))
    (hopens : Opens ('\x7b' :: p) opened) (hne : opened ≠ [])
    (hplain : ∀ c ∈ ['\x7b', '\x7d', '[', ']'], c ∉ literalChars .between ('\x7b' :: p))
    (hinner : ¬ObjectInArray opened)
    (hfound : readChars ('\x7b' :: p ++ closersOf opened) = .ok (.obj found)) :
    ∃ f, load reply = ⟨[.notJson f], .ok (some found)⟩ := by
  obtain ⟨f, hfault⟩ := read_fault_of_opens hp h hopens hne
  have hbalance := Span.balance_of_opens (hp.cons '\x7b') hopens hplain
  rw [← closersOf_eq_iff.2 hinner] at hbalance
  refine ⟨f, load_of_repaired hspan hfault ?_⟩
  rw [read_eq_ok, String.toList_ofList, hbalance, hfound]

/-- Where an object is open inside an array, the repair closes them in the wrong order. -/
theorem load_of_objectInArray {reply : String}
    (hspan : Span.extract? reply.toList = some ('\x7b' :: p)) (hp : EndsInBrace p)
    (h : readWritten (readValue (maxDepth - 1)) (p ++ (q ++ rest)) = .ok (written, rest))
    (hopens : Opens ('\x7b' :: p) opened) (hne : opened ≠ [])
    (hplain : ∀ c ∈ ['\x7b', '\x7d', '[', ']'], c ∉ literalChars .between ('\x7b' :: p))
    (hinner : ObjectInArray opened) :
    ∃ f g, load reply = ⟨[.notJson f, .notRepaired g], .ok none⟩ := by
  obtain ⟨f, hfault⟩ := read_fault_of_opens hp h hopens hne
  have hbalance := Span.balance_of_opens (hp.cons '\x7b') hopens hplain
  obtain ⟨g, hfault'⟩ := read_fault_of_ne_closersOf hp h hopens ⟨_, _, rfl⟩
    fun hclosers => closersOf_eq_iff.1 hclosers.symm hinner
  exact ⟨f, g, load_of_not_repaired hspan hfault (hbalance ▸ hfault')⟩

end Cut

section Take

variable {text : String} {fields : Fields} {n : Nat}

/-- A text that is an object is cut inside the object. -/
theorem exists_span_of_take (htext : Json.read text = .ok (.obj fields))
    (hbrace : '\x7d' ∈ text.toList.take n) (hcut : '\x7d' ∈ text.toList.drop n) :
    ∃ blanks p q rest written, text.toList = blanks ++ ('\x7b' :: p ++ (q ++ rest)) ∧
      (∀ c ∈ blanks, isSpace c = true) ∧
      dropEndWhile (· != '\x7d') (text.toList.take n) = blanks ++ '\x7b' :: p ∧ EndsInBrace p ∧
      q ≠ [] ∧ Span.extract? (text.toList.take n) = some ('\x7b' :: p) ∧
      readWritten (readValue (maxDepth - 1)) (p ++ (q ++ rest)) = .ok (written, rest) := by
  obtain ⟨blanks, body, written, rest, hsplit, hblanks, hrest, hw, -, -⟩ :=
    exists_between_blanks_of_read htext
  obtain ⟨span, q, hkept, hend, hq, hobject, hspan⟩ :=
    Span.exists_span_of_cut (not_mem_of_isSpace (by decide) hblanks)
      (not_mem_of_isSpace (by decide) hblanks)
      (rfl : ('\x7b' :: body ++ ['\x7d']).head? = some '\x7b')
      (not_mem_of_isSpace (by decide) hrest)
      ((List.take_append_drop n text.toList).trans hsplit) hbrace hcut
  obtain ⟨p, rfl, hp, hpq⟩ := hend.exists_cons hobject.symm (by decide)
  refine ⟨blanks, p, q, rest, written, ?_, hblanks, hkept, hp, hq, hspan, ?_⟩
  · rw [hsplit, hobject]
    simp
  · rw [← List.append_assoc, hpq, ← hw]
    simp

/-- **What the repair reaches.**  A text is an object, and no literal in it holds a bracket or a
brace.  It is cut behind a brace of it and before its last one; what is kept goes back to the last
brace.  If no object is open there inside an array, what is loaded is what is kept with what is
open closed; else nothing is loaded. -/
theorem load_take (htext : Json.read text = .ok (.obj fields))
    (hplain : ∀ c ∈ ['\x7b', '\x7d', '[', ']'], c ∉ literalChars .between text.toList)
    (hbrace : '\x7d' ∈ text.toList.take n) (hcut : '\x7d' ∈ text.toList.drop n) :
    let reply := String.ofList (text.toList.take n)
    let kept := dropEndWhile (· != '\x7d') (text.toList.take n)
    ∃ opened, Place.start.behind kept = some ⟨.between, opened⟩ ∧
      ((∃ found, (load reply).result = .ok (some found)) ↔ ¬ObjectInArray opened) ∧
      (¬ObjectInArray opened → ∃ f found,
        Json.read (String.ofList (kept ++ closersOf opened)) = .ok (.obj found) ∧
          load reply = ⟨[.notJson f], .ok (some found)⟩) ∧
      (ObjectInArray opened →
        ∃ f g, load reply = ⟨[.notJson f, .notRepaired g], .ok none⟩) := by
  intro reply kept
  obtain ⟨blanks, p, q, rest, written, hsplit, hblanks, (hkept : kept = _), hp, hq, hspan, hread⟩ :=
    exists_span_of_take htext hbrace hcut
  rw [← String.toList_ofList (l := text.toList.take n)] at hspan
  have hbefore : Opens blanks [] :=
    opens_of_isQuiet fun c hc => isQuiet_of_isSpace (hblanks c hc)
  have hkeptPlain : ∀ c ∈ ['\x7b', '\x7d', '[', ']'], c ∉ literalChars .between ('\x7b' :: p) :=
    fun c hc => not_mem_literalChars hbefore (hsplit ▸ hplain c hc)
  have hspot := spot_of_endsInBrace (hp.cons '\x7b') (hkeptPlain '\x7d' (by simp))
  obtain ⟨opened, hne, hopens, found, hfound⟩ := read_completed hp hspot hread hq
  have hclosed (hinner : ¬ObjectInArray opened) : ∃ f found,
      Json.read (String.ofList (kept ++ closersOf opened)) = .ok (.obj found) ∧
        load reply = ⟨[.notJson f], .ok (some found)⟩ := by
    obtain ⟨f, hload⟩ :=
      load_of_not_objectInArray hspan hp hread hopens hne hkeptPlain hinner hfound
    refine ⟨f, found, ?_, hload⟩
    rw [read_eq_ok, String.toList_ofList, hkept, List.append_assoc,
      readChars_append_of_isSpace hblanks (by simp), hfound]
  have hlost (hinner : ObjectInArray opened) :
      ∃ f g, load reply = ⟨[.notJson f, .notRepaired g], .ok none⟩ :=
    load_of_objectInArray hspan hp hread hopens hne hkeptPlain hinner
  refine ⟨opened, ?_, ⟨fun ⟨found, h⟩ hinner => ?_, fun hinner => ?_⟩, hclosed, hlost⟩
  · rw [hkept]
    exact (hbefore.behind hopens).behind_start
  · obtain ⟨f, g, hload⟩ := hlost hinner
    rw [hload] at h
    cases h
  · obtain ⟨f, found, -, hload⟩ := hclosed hinner
    exact ⟨found, by rw [hload]⟩

omit [Spare] in
/-- First an array is open in the object, and then an object in an array of it. -/
theorem load_take_inside_array :
    letI : Spare := ⟨0⟩
    let text := "\x7b\"a\": [1, \x7b\x7d, 2], \"b\": [\x7b\"c\": \x7b\x7d, \"d\": 3\x7d]\x7d".toList
    let kept := "\x7b\"a\": [1, \x7b\x7d".toList
    (∃ f found,
      Json.read (String.ofList (kept ++ closersOf [.array, .object])) = .ok (.obj found) ∧
        load (String.ofList (text.take 14)) = ⟨[.notJson f], .ok (some found)⟩) ∧
      ∃ f g, load (String.ofList (text.take 36)) = ⟨[.notJson f, .notRepaired g], .ok none⟩ := by
  let : Spare := ⟨0⟩
  intro text kept
  have hread : (fieldsOf? (Json.read (String.ofList text)).toOption).isSome = true := by
    decide +kernel
  obtain ⟨fields, htext⟩ := exists_read_of_isSome hread
  have htake := fun n => @load_take _ _ _ n htext
  rw [String.toList_ofList] at htake
  have hchars : literalChars .between text = ['a', '"', 'b', '"', 'c', '"', 'd', '"'] := by
    decide +kernel
  have hplain : ∀ c ∈ ['\x7b', '\x7d', '[', ']'], c ∉ literalChars .between text := by
    simp [hchars]
  have hkept : dropEndWhile (· != '\x7d') (text.take 14) = kept := by decide +kernel
  have hopened : Place.start.behind kept = some ⟨.between, [.array, .object]⟩ := by decide +kernel
  have hopened' : Place.start.behind (dropEndWhile (· != '\x7d') (text.take 36)) =
      some ⟨.between, [.object, .array, .object]⟩ := by decide +kernel
  obtain ⟨opened, hbehind, -, hclosed, -⟩ := htake 14 hplain (by decide) (by decide)
  obtain ⟨opened', hbehind', -, -, hlost⟩ := htake 36 hplain (by decide) (by decide)
  rw [hkept] at hbehind hclosed
  obtain rfl : [.array, .object] = opened :=
    congrArg Place.opened (Option.some.inj (hopened.symm.trans hbehind))
  obtain rfl : [.object, .array, .object] = opened' :=
    congrArg Place.opened (Option.some.inj (hopened'.symm.trans hbehind'))
  exact ⟨hclosed (by decide), hlost (by decide)⟩

end Take

end CodeReview.Reply
