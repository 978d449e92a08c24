import CodeReview.Proofs.Json.Cut
import Mathlib.Data.List.TakeWhile

/-!
# Texts that are one object

The statements about cut replies are about texts that are read as objects: that reading succeeds is
all that is known.  Here such a text is taken apart.  It is blanks, the object from brace to brace,
and blanks (`exists_object_of_read`); and the part from behind the first brace on is read by
`readWritten`, the reader that the other files speak of.

With that the results about readers become results about texts.  An object that is cut behind a
brace and closed again is refused, or read as the object cut off (`read_closed`); and the object
alone is read as it is in the text around it (`read_object`), so that prose before and behind it
makes no difference.
-/

set_option autoImplicit false

namespace CodeReview.Json

open CodeReview.Text

variable [Spare]

/-! ## Whole texts

A whole text is read with blanks around its value and nothing else.  `read` and `readChars` differ
in how they report where they stopped, and in nothing where they do not stop (`read_eq_ok`). -/

/-- The fields behind an opening brace, read at the depth of a whole text. -/
theorem readChars_brace (cs : List Char) :
    readChars ('\x7b' :: cs) =
      match readWritten (readValue (maxDepth - 1)) cs with
      | .error stop => .error stop
      | .ok (written, rest) =>
        match skipSpace rest with
        | [] => .ok (.obj (Fields.ofWritten written))
        | rest => .error (.fault .textAfterValue rest.length) := by
  have hvalue := readValue_brace (maxDepth - 1) cs
  rw [← maxDepth_eq_succ] at hvalue
  have hspace : skipSpace ('\x7b' :: cs) = '\x7b' :: cs := rfl
  have hmark : refuseMark ('\x7b' :: cs) = .ok () := by simp [refuseMark]
  rw [readChars, hmark, hspace, hvalue]
  cases readWritten (readValue (maxDepth - 1)) cs <;> rfl

theorem readChars_eq_ok {cs : List Char} {v : Value} (h : readChars cs = .ok v) :
    ∃ rest, readValue maxDepth (skipSpace cs) = .ok (v, rest) ∧ skipSpace rest = [] := by
  rw [readChars] at h
  cases hmark : refuseMark cs with
  | error stop =>
    rw [hmark] at h
    cases h
  | ok u =>
    rw [hmark] at h
    cases hv : readValue maxDepth (skipSpace cs) with
    | error stop => simp [hv, bind, Except.bind] at h
    | ok p =>
      simp only [hv, bind, Except.bind] at h
      split at h
      · rename_i hnil
        exact ⟨p.2, by rw [← Except.ok.inj h], hnil⟩
      · cases h

theorem read_eq_ok {text : String} {v : Value} :
    read text = .ok v ↔ readChars text.toList = .ok v := by
  rw [read]
  cases readChars text.toList <;> simp

omit [Spare] in
theorem not_mem_of_isSpace {c : Char} (hc : isSpace c = false) {cs : List Char}
    (h : ∀ d ∈ cs, isSpace d = true) : c ∉ cs := fun hmem => by
  rw [h c hmem] at hc
  cases hc

/-- A text that is one object: blanks, the object from brace to brace, and blanks. -/
theorem exists_between_blanks_of_read {text : String} {fields : Fields}
    (h : read text = .ok (.obj fields)) :
    ∃ blanks body written rest,
      text.toList = blanks ++ ('\x7b' :: body ++ ['\x7d']) ++ rest ∧
        (∀ c ∈ blanks, isSpace c = true) ∧ (∀ c ∈ rest, isSpace c = true) ∧
        readWritten (readValue (maxDepth - 1)) (body ++ '\x7d' :: rest) = .ok (written, rest) ∧
        fields = Fields.ofWritten written ∧ writtenNames text = written.map Prod.fst := by
  obtain ⟨rest, hv, hnil⟩ := readChars_eq_ok (read_eq_ok.1 h)
  obtain ⟨text', s, -, -, hs⟩ | ⟨inner, text', written, hinner, hcs, hw, hfields⟩ |
    ⟨inner, text', -, -, ha⟩ | ⟨c, text', -, -, -, -, hplain⟩ := readValue_cases hv
  · cases hs
  · obtain rfl : maxDepth - 1 = inner := by omega
    obtain ⟨body, rfl⟩ := readWritten_eq_ok (takes_readValue (maxDepth - 1)) hw
    refine ⟨text.toList.takeWhile isSpace, body, written, rest, ?_,
      fun d hd => List.mem_takeWhile_imp hd, List.dropWhile_eq_nil_iff.1 hnil, hw,
      Value.obj.inj hfields, ?_⟩
    · have hsplit : text.toList.takeWhile isSpace ++ skipSpace text.toList = text.toList :=
        List.takeWhile_append_dropWhile
      rw [hcs] at hsplit
      simpa using hsplit.symm
    · simp only [writtenNames, hcs, hw]
  · exact absurd ha (readArray_ne_obj (takes_readValue inner) (readValue_nil inner))
  · exact absurd hplain readPlain_ne_obj

theorem exists_object_of_read {text : String} {fields : Fields}
    (h : read text = .ok (.obj fields)) :
    ∃ blanks body written rest,
      text.toList = blanks ++ ('\x7b' :: body ++ ['\x7d']) ++ rest ∧
        '\x7b' ∉ blanks ∧ '\x7d' ∉ rest ∧
        readWritten (readValue (maxDepth - 1)) (body ++ '\x7d' :: rest) = .ok (written, rest) ∧
        fields = Fields.ofWritten written ∧ writtenNames text = written.map Prod.fst := by
  obtain ⟨blanks, body, written, rest, hsplit, hblanks, hrest, hread⟩ :=
    exists_between_blanks_of_read h
  exact ⟨blanks, body, written, rest, hsplit, not_mem_of_isSpace (by decide) hblanks,
    not_mem_of_isSpace (by decide) hrest, hread⟩

/-- Blanks before a text do not matter. -/
theorem readChars_append_of_isSpace {blanks cs : List Char} (h : ∀ c ∈ blanks, isSpace c = true)
    (hmark : cs.head? ≠ some '\ufeff') : readChars (blanks ++ cs) = readChars cs := by
  have hskip : skipSpace (blanks ++ cs) = skipSpace cs := List.dropWhile_append_of_pos h
  have hhead : (blanks ++ cs).head? ≠ some '\ufeff' := by
    cases blanks with
    | nil => exact hmark
    | cons c blanks =>
      rw [List.cons_append, List.head?_cons, ne_eq, Option.some_inj]
      rintro rfl
      exact absurd (h _ List.mem_cons_self) (by decide)
  rw [readChars, readChars, hskip, refuseMark, if_neg hhead, refuseMark, if_neg hmark]

/-! ## Objects that are cut off

The depth of a whole text is `maxDepth`, so behind the opening brace it is one less. -/

/-- **An object that is cut off and closed again** is not read, or read as the object cut off. -/
theorem read_closed {p q rest z : List Char} {written : Fields} (hp : EndsInBrace p)
    (h : readWritten (readValue (maxDepth - 1)) (p ++ (q ++ rest)) = .ok (written, rest))
    (hz : IsClosing z) :
    (∃ f, read (String.ofList ('\x7b' :: (p ++ z))) = .error (.fault f)) ∨
      ∃ cut, read (String.ofList ('\x7b' :: (p ++ z))) = .ok (.obj (Fields.ofWritten cut)) ∧
        CutOff IsCutField cut written := by
  have hread : ∀ {cut left}, IsClosing left → CutOff IsCutField cut written →
      readWritten (readValue (maxDepth - 1)) (p ++ z) = .ok (cut, left) →
      (∃ f, read (String.ofList ('\x7b' :: (p ++ z))) = .error (.fault f)) ∨
        ∃ cut, read (String.ofList ('\x7b' :: (p ++ z))) = .ok (.obj (Fields.ofWritten cut)) ∧
          CutOff IsCutField cut written := by
    intro cut left hleft hcut hok
    match left, hleft, hok with
    | [], _, hok =>
      refine .inr ⟨cut, read_eq_ok.2 ?_, hcut⟩
      rw [String.toList_ofList, readChars_brace, hok]
      rfl
    | c :: left, hleft, hok =>
      left
      rw [read, String.toList_ofList, readChars_brace, hok]
      simp only [hleft.skipSpace_eq]
      exact ⟨_, rfl⟩
  obtain ⟨r, hr, hbefore⟩ | ⟨-, hbehind⟩ :=
    readsCuts_readWritten (takes_readValue _) (readsCuts_readValue _) hp h
  · have hlen := congrArg List.length hr
    simp only [List.length_append] at hlen
    obtain rfl : r = [] := List.length_eq_zero_iff.1 (by omega)
    have hkept : CutOff IsCutField written written := by
      simpa using CutOff.behind (R := IsCutField) written []
    exact hread hz hkept (hbefore z)
  · rcases hbehind z hz with ⟨cause, place, hfault⟩ | ⟨cut, left, hok, hleft, -, hcut⟩
    · left
      replace hfault : readWritten (readValue (maxDepth - 1)) (p ++ z)
          = .error (.fault cause place) := hfault
      rw [read, String.toList_ofList, readChars_brace, hfault]
      exact ⟨_, rfl⟩
    · exact hread hleft hcut hok

/-- The object alone is read as it is in the text around it. -/
theorem read_object {body rest : List Char} {written : Fields}
    (h : readWritten (readValue (maxDepth - 1)) (body ++ '\x7d' :: rest) = .ok (written, rest)) :
    read (String.ofList ('\x7b' :: body ++ ['\x7d'])) = .ok (.obj (Fields.ofWritten written)) := by
  have hsplit : body ++ '\x7d' :: rest = body ++ ['\x7d'] ++ rest := by simp
  rw [hsplit] at h
  have hend := EndsInBrace.append_brace body
  obtain ⟨r, hr, hbefore⟩ | ⟨hlt, -⟩ :=
    readsCuts_readWritten (takes_readValue _) (readsCuts_readValue _) hend h
  · obtain rfl : r = [] := by simpa using hr
    have halone : readWritten (readValue (maxDepth - 1)) (body ++ ['\x7d'])
        = .ok (written, []) := by
      simpa using hbefore []
    rw [read_eq_ok, String.toList_ofList, List.cons_append, readChars_brace, halone]
    rfl
  · exact absurd hlt (Nat.lt_irrefl _)

end CodeReview.Json
