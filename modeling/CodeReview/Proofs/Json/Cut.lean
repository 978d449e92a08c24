import CodeReview.Proofs.Json.Literal
import CodeReview.Proofs.Json.Plain
import CodeReview.Proofs.Json.Sequence

/-!
# Values that are cut off

Let a text be cut behind a brace and closed again, by brackets and then braces.  Reading it gives a
fault, or a value that is cut off itself (`readsCuts_readValue`).  `Cut cut whole` is what that
means: containers end early, the last thing in one may be a container that is cut off too, and
whatever else is there is there in full.  Above all no string and no number is ever half there.

The obvious relation, that `cut` is some beginning of `whole` at every depth, is too weak to be of
use.  An item of an array is cut off only if it is an array.  The closing characters have brackets
first, so none of them is left behind the brace that closes an object, and the array around it
stays open; a list of objects therefore loses whole objects or nothing.  That is what makes it safe
to read a list of issues from a cut reply, and it is in the statement: `Cut.item` is about arrays
in arrays.

The relation between readings has to remember this on the way.  `IsCutValue` has the closing
characters that are left beside the two values, and says that only an array leaves a bracket.

* `readsCuts_readAll` — a sequence is cut off behind an item or inside one (`CutOff`);
* `readsCuts_readArray`, `readsCuts_readWritten` — the containers, with the rule about brackets;
* `readsCuts_readValue` — a value, by induction on the number of containers that may be opened.
## What is here

* `CutOff`, `Cut`, `IsCutValue`, `IsCutField` — the relations;
* `readAll_of_isClosing`, `readAll_behind_item` — the two ways in which an item can be the last
  one;
* `readField_behind_name` — a field whose name is read has its colon before the cut;
* `readsCuts_readValue` — what the file is about.
-/

set_option autoImplicit false

namespace CodeReview.Json

open CodeReview.Text

variable {α : Type}

/-! ## Cut off

`CutOff R` is for sequences of anything: `R` relates an item cut off to the item.  An object is
compared as its fields are written, since a name that is written twice counts once, and which of
the two is kept depends on how far the text goes. -/

/-- A sequence ends early, behind an item or inside one; what is left of that one stands in a
relation to the item. -/
inductive CutOff (R : α → α → Prop) : List α → List α → Prop where
  | behind (kept lost : List α) : CutOff R kept (kept ++ lost)
  | inside (kept lost : List α) {cut whole : α} (h : R cut whole) :
    CutOff R (kept ++ [cut]) (kept ++ whole :: lost)

theorem CutOff.cons {R : α → α → Prop} {cut whole : List α} (a : α) (h : CutOff R cut whole) :
    CutOff R (a :: cut) (a :: whole) := by
  cases h with
  | behind _ lost => exact .behind (a :: cut) lost
  | inside kept lost h => exact .inside (a :: kept) lost h

/-- **A value is cut off.**  Its containers end early, and nothing is in them that was not there. -/
inductive Cut : Value → Value → Prop where
  | items (kept lost : List Value) : Cut (.arr kept) (.arr (kept ++ lost))
  | item (kept lost : List Value) {cut whole : List Value} (h : Cut (.arr cut) (.arr whole)) :
    Cut (.arr (kept ++ [.arr cut])) (.arr (kept ++ .arr whole :: lost))
  | fields (kept lost : Fields) :
    Cut (.obj (Fields.ofWritten kept)) (.obj (Fields.ofWritten (kept ++ lost)))
  | field (kept lost : Fields) (name : String) {cut whole : Value} (h : Cut cut whole) :
    Cut (.obj (Fields.ofWritten (kept ++ [(name, cut)])))
      (.obj (Fields.ofWritten (kept ++ (name, whole) :: lost)))

/-- A cut value, given the closing characters left behind it: only an array leaves brackets. -/
def IsCutValue (left : List Char) (cut whole : Value) : Prop :=
  Cut cut whole ∧ (']' ∈ left → ∃ items, cut = .arr items)

/-- A field whose value is cut off. -/
def IsCutField (cut whole : String × Value) : Prop := cut.1 = whole.1 ∧ Cut cut.2 whole.2

theorem Cut.arr_of_cutOff {cut whole : List Value}
    (h : CutOff (fun cut whole => ∃ left, IsCutValue (']' :: left) cut whole) cut whole) :
    Cut (.arr cut) (.arr whole) := by
  cases h with
  | behind _ lost => exact .items cut lost
  | inside kept lost h =>
    obtain ⟨left, hcut, harr⟩ := h
    obtain ⟨items, rfl⟩ := harr List.mem_cons_self
    cases hcut with
    | items _ lost' => exact .item kept lost (.items items lost')
    | item kept' lost' h => exact .item kept lost (.item kept' lost' h)

theorem Cut.obj_of_cutOff {cut whole : Fields} (h : CutOff IsCutField cut whole) :
    Cut (.obj (Fields.ofWritten cut)) (.obj (Fields.ofWritten whole)) := by
  cases h with
  | behind _ lost => exact .fields cut lost
  | @inside kept lost cut whole h =>
    obtain ⟨name, cut⟩ := cut
    obtain ⟨name', whole⟩ := whole
    obtain ⟨rfl, h⟩ : name = name' ∧ Cut cut whole := h
    exact .field kept lost name h

/-! ## Sequences

The recursion is on the text of the sequence, item by item.  An item that ends before the cut is
followed there by a comma or by the end of the sequence, because the text in front of the cut ends
in a brace and so goes on behind the item (`readAll_behind_item`).  The one exception is an item
that ends in that very brace; then closing characters follow it (`readAll_of_isClosing`). -/

section Sequence

variable {item : Reader α} {IsCut : List Char → α → α → Prop} {close : Char} {missing : Cause}

/-- Behind an item, closing characters end the sequence or are a fault. -/
theorem readAll_of_isClosing (close : Char) (hitem : Takes item)
    (hnil : item [] = .error (.fault missing 0)) {cs z : List Char} {a : α}
    (h : item cs = .ok (a, z)) (hz : IsClosing z) :
    Faulty (readAll item close missing cs) ∨
      ∃ left, z = close :: left ∧ readAll item close missing cs = .ok ([a], left) := by
  match z, hz, h with
  | [], _, h => exact .inl ⟨.commaExpected, 0, readAll_of_end hitem h rfl⟩
  | c :: z, hz, h =>
    rw [readAll_of_cons hitem hnil h hz.skipSpace_eq]
    by_cases hc : c = close
    · exact .inr ⟨z, by rw [hc], if_pos hc⟩
    · rw [if_neg hc, if_neg hz.ne_comma]
      exact .inl ⟨_, _, rfl⟩

/-- What closing characters make of a sequence whose first item they follow. -/
theorem readAll_closed (hitem : Takes item) (hnil : item [] = .error (.fault missing 0))
    {cs z : List Char} {a : α} {as : List α} (h : item cs = .ok (a, z)) (hz : IsClosing z)
    (hcut : ∀ left, z = close :: left →
      CutOff (fun cut whole => ∃ left, IsCut (close :: left) cut whole) [a] as) :
    Faulty (readAll item close missing cs) ∨ ∃ cut left,
      readAll item close missing cs = .ok (cut, left) ∧ IsClosing left ∧
        IsClosing (close :: left) ∧
          CutOff (fun cut whole => ∃ left, IsCut (close :: left) cut whole) cut as := by
  rcases readAll_of_isClosing close hitem hnil h hz with hfault | ⟨left, rfl, hok⟩
  · exact .inl hfault
  · exact .inr ⟨[a], left, hok, hz.tail, hz, hcut left rfl⟩

/-- **Behind an item that ends before the cut** stand the end of the sequence, or a comma and what
is left of the sequence. -/
theorem readAll_behind_item (hitem : Takes item) (hnil : item [] = .error (.fault missing 0))
    {p q r rest : List Char} {a : α} {as : List α} (hr : EndsInBrace r)
    (hz : ∀ z, item (p ++ z) = .ok (a, r ++ z))
    (h : readAll item close missing (p ++ q) = .ok (as, rest)) :
    (∃ r', rest = r' ++ q ∧ ∀ z, readAll item close missing (p ++ z) = .ok (as, r' ++ z)) ∨
      ∃ r' as', skipSpace r = ',' :: r' ∧ EndsInBrace r' ∧ as = a :: as' ∧
        readAll item close missing (skipSpace r' ++ q) = .ok (as', rest) ∧
        ∀ z, readAll item close missing (p ++ z) =
          (readAll item close missing (skipSpace r' ++ z)).map fun p => (a :: p.1, p.2) := by
  obtain ⟨a', behind, hi, hmore⟩ := readAll_cases hitem hnil h
  obtain ⟨rfl, rfl⟩ := Prod.mk.inj (Except.ok.inj ((hz q).symm.trans hi))
  have hskip := fun z => hr.skipSpace_append z
  rcases hmore with ⟨hq, rfl⟩ | ⟨more, as', hq, hcomma, hm, rfl⟩
  · obtain ⟨c, r', hr'⟩ := List.exists_cons_of_ne_nil hr.skipSpace.ne_nil
    rw [hskip, hr', List.cons_append] at hq
    obtain ⟨rfl, rfl⟩ := List.cons.inj hq
    refine .inl ⟨r', rfl, fun z => ?_⟩
    have hclose := hskip z
    rw [hr', List.cons_append] at hclose
    exact (readAll_of_cons hitem hnil (hz z) hclose).trans (if_pos rfl)
  · rw [hskip] at hq
    obtain ⟨r', hr', hend, rfl⟩ := hr.skipSpace.exists_cons hq (by decide)
    rw [hend.skipSpace_append] at hm
    refine .inr ⟨r', as', hr', hend, rfl, hm, fun z => ?_⟩
    have hnext := hskip z
    rw [hr', List.cons_append] at hnext
    rw [readAll_of_cons hitem hnil (hz z) hnext, if_neg hcomma, if_pos rfl, hend.skipSpace_append]

/-- **A sequence is cut off** behind an item or inside one. -/
theorem readsCuts_readAll (hitem : Takes item) (hnil : item [] = .error (.fault missing 0))
    (hcuts : ReadsCuts item IsCut) :
    ReadsCuts (readAll item close missing) fun left cut whole =>
      IsClosing (close :: left) ∧
        CutOff (fun cut whole => ∃ left, IsCut (close :: left) cut whole) cut whole := by
  intro p q rest as hp h
  induction hlen : p.length using Nat.strongRecOn generalizing p as with | ind n ih
  obtain ⟨a, behind, hi, -⟩ := readAll_cases hitem hnil h
  obtain ⟨lost, hlost⟩ := exists_cons_of_readAll hitem hnil hi h
  have hrest := length_lt_of_readAll hitem hnil hi h
  have hcut := hcuts hp hi
  unfold ReadsCut at hcut
  rcases hcut with ⟨r, rfl, hz⟩ | ⟨hlt, hz⟩
  · obtain ⟨taken, hne, htaken⟩ := hitem (hz [])
    rw [List.append_nil, List.append_nil] at htaken
    by_cases hr : r = []
    · -- the cut is right behind the item
      subst hr
      exact .inr ⟨hrest, fun z hclosing =>
        readAll_closed hitem hnil (hz z) hclosing fun _ _ => hlost ▸ .behind [a] lost⟩
    · have hend : EndsInBrace r := (htaken ▸ hp).of_append hr
      have hpos := List.length_pos_iff.2 hne
      rw [htaken, List.length_append] at hlen
      rcases readAll_behind_item hitem hnil hend hz h with
        hends | ⟨r', as', hr', hend', rfl, hm, hz'⟩
      · exact .inl hends
      · have hle := length_skipSpace_le r
        have hle' := length_skipSpace_le r'
        rw [hr', List.length_cons] at hle
        exact (ih _ (by omega) hend'.skipSpace hm rfl).map hz'
          fun ⟨hclosing, hcut⟩ => ⟨hclosing, hcut.cons a⟩
  · refine .inr ⟨by omega, fun z hclosing => ?_⟩
    rcases hz z hclosing with ⟨cause, left, hfault⟩ | ⟨cut, left, hok, hleft, hcut⟩
    · exact .inl ⟨cause, left, readAll_of_error hnil hfault⟩
    · refine readAll_closed hitem hnil hok hleft fun left' hclose => ?_
      exact hlost ▸ .inside [] lost ⟨left', hclose ▸ hcut⟩

end Sequence

/-! ## Fields

A name is a literal, so it is read before the cut or there is a fault.  If it is read, its colon
and the start of its value come before the cut too: the brace there belongs to the value. -/

variable [Spare] {value : Reader Value}

theorem readField_of_ok {cs more rest : List Char} {name : String}
    (hs : readString ('"' :: cs) [] cs = .ok (name, more)) (hr : skipSpace more = ':' :: rest) :
    readField value ('"' :: cs) = (value (skipSpace rest)).map fun p => ((name, p.1), p.2) := by
  simp only [readField, hs, hr]
  cases value (skipSpace rest) <;> rfl

/-- A field is a name, a colon and a value. -/
theorem readField_cases {cs rest : List Char} {f : String × Value}
    (h : readField value cs = .ok (f, rest)) :
    ∃ text more behind, cs = '"' :: text ∧ readString cs [] text = .ok (f.1, more) ∧
      skipSpace more = ':' :: behind ∧ value (skipSpace behind) = .ok (f.2, rest) := by
  match cs, h with
  | [], h => cases h
  | c :: cs, h =>
    by_cases hc : c = '"'
    · subst hc
      cases hs : readString ('"' :: cs) [] cs with
      | error stop => simp [readField, hs] at h
      | ok p =>
        obtain ⟨name, more⟩ := p
        by_cases hcolon : ∃ behind, skipSpace more = ':' :: behind
        · obtain ⟨behind, hr⟩ := hcolon
          rw [readField_of_ok hs hr] at h
          obtain ⟨v, hv, rfl⟩ := exists_of_map_eq_ok h
          exact ⟨cs, more, behind, rfl, hs, hr, hv⟩
        · simp only [readField, hs] at h
          split at h
          · rename_i behind hr
            exact absurd ⟨behind, hr⟩ hcolon
          · cases h
    · simp [readField, hc] at h

theorem takes_readField (hvalue : Takes value) : Takes (readField value) := by
  intro cs rest f h
  obtain ⟨text, more, behind, rfl, hs, hr, hv⟩ := readField_cases h
  obtain ⟨taken, -, htaken⟩ := hvalue hv
  have hrest : rest <:+ skipSpace behind := ⟨taken, htaken.symm⟩
  have hbehind : behind <:+ skipSpace more := hr ▸ List.suffix_cons ':' behind
  have hmore : more <:+ text := (List.suffix_cons '"' more).trans (readString_eq_ok hs)
  obtain ⟨between, rfl⟩ : rest <:+ text :=
    hrest.trans ((List.dropWhile_suffix _).trans
      (hbehind.trans ((List.dropWhile_suffix _).trans hmore)))
  exact ⟨'"' :: between, by simp, rfl⟩

/-- **A name that is read before the cut** has its colon before the cut too, and there the value
starts. -/
theorem readField_behind_name {p q r rest : List Char} {name : String} {v : Value}
    (hr : EndsInBrace r)
    (hz : ∀ z opening, readString opening [] (p ++ z) = .ok (name, r ++ z))
    (h : readField value ('"' :: p ++ q) = .ok ((name, v), rest)) :
    ∃ r', skipSpace r = ':' :: r' ∧ EndsInBrace r' ∧ value (skipSpace r' ++ q) = .ok (v, rest) ∧
      ∀ z, readField value ('"' :: p ++ z) =
        (value (skipSpace r' ++ z)).map fun p => ((name, p.1), p.2) := by
  obtain ⟨text, more, behind, hcs, hs, hcolon, hv⟩ := readField_cases h
  obtain rfl := (List.cons.inj hcs).2
  obtain ⟨-, rfl⟩ := Prod.mk.inj (Except.ok.inj ((hz q _).symm.trans hs))
  rw [hr.skipSpace_append] at hcolon
  obtain ⟨r', hr', hend, rfl⟩ := hr.skipSpace.exists_cons hcolon (by decide)
  rw [hend.skipSpace_append] at hv
  refine ⟨r', hr', hend, hv, fun z => ?_⟩
  have hnext : skipSpace (r ++ z) = ':' :: (r' ++ z) := by
    rw [hr.skipSpace_append, hr', List.cons_append]
  rw [List.cons_append, readField_of_ok (hz z _) hnext, hend.skipSpace_append]

theorem readsCuts_readField (hvalue : Takes value) (hcuts : ReadsCuts value IsCutValue) :
    ReadsCuts (readField value) fun _ => IsCutField := by
  intro p q rest f hp h
  obtain ⟨name, v⟩ := f
  obtain ⟨text, more, behind, hcs, hs, hr, hv⟩ := readField_cases h
  obtain ⟨p, rfl, hp', rfl⟩ := hp.exists_cons hcs (by decide)
  rcases readString_cut hp' hs with ⟨r, rfl, hend, hz⟩ | ⟨hlt, hz⟩
  · obtain ⟨r', -, hend', hv, hz'⟩ := readField_behind_name hend hz h
    exact (hcuts hend'.skipSpace hv).map (f := (name, ·)) hz' fun hcut => ⟨rfl, hcut.1⟩
  · have hvlt := hvalue.length_lt hv
    have hle := length_skipSpace_le behind
    have hle' := length_skipSpace_le more
    rw [hr, List.length_cons] at hle'
    refine .inr ⟨by omega, fun z hclosing => .inl ?_⟩
    obtain ⟨cause, left, hfault⟩ := hz z ('"' :: (p ++ z)) hclosing
    exact ⟨cause, left, by simp only [List.cons_append, readField, hfault]⟩

/-! ## Containers

An empty container is empty before the cut; any other is a sequence from its first token on. -/

omit [Spare] in
theorem takes_readArray (hvalue : Takes value)
    (hnil : value [] = .error (.fault .valueExpected 0)) : Takes (readArray value) := by
  intro cs rest v h
  by_cases hempty : ∃ rest, skipSpace cs = ']' :: rest
  · obtain ⟨rest', hr⟩ := hempty
    simp only [readArray, hr] at h
    obtain ⟨-, rfl⟩ := Prod.mk.inj (Except.ok.inj h)
    obtain ⟨blanks, hb⟩ : skipSpace cs <:+ cs := List.dropWhile_suffix isSpace
    exact ⟨blanks ++ [']'], by simp, by rw [← hb, hr]; simp⟩
  · rw [readArray_eq hvalue hnil fun rest hr => hempty ⟨rest, hr⟩] at h
    obtain ⟨items, ha, -⟩ := exists_of_map_eq_ok h
    obtain ⟨body, -, hbody⟩ := readAll_eq_ok hvalue hnil ha
    obtain ⟨blanks, hb⟩ : skipSpace cs <:+ cs := List.dropWhile_suffix isSpace
    exact ⟨blanks ++ body ++ [']'], by simp, by rw [← hb, hbody]; simp⟩

omit [Spare] in
theorem readArray_ne_obj (hvalue : Takes value)
    (hnil : value [] = .error (.fault .valueExpected 0)) {cs rest : List Char} {fields : Fields} :
    readArray value cs ≠ .ok (.obj fields, rest) := by
  intro h
  by_cases hempty : ∃ rest, skipSpace cs = ']' :: rest
  · obtain ⟨rest', hr⟩ := hempty
    simp [readArray, hr] at h
  · rw [readArray_eq hvalue hnil fun rest hr => hempty ⟨rest, hr⟩] at h
    obtain ⟨items, -, hitems⟩ := exists_of_map_eq_ok h
    cases hitems

/-- An object ends with its closing brace. -/
theorem readWritten_eq_ok (hvalue : Takes value) {cs rest : List Char} {written : Fields}
    (h : readWritten value cs = .ok (written, rest)) : ∃ body, cs = body ++ '\x7d' :: rest := by
  obtain ⟨blanks, hb⟩ : skipSpace cs <:+ cs := List.dropWhile_suffix isSpace
  by_cases hempty : ∃ rest, skipSpace cs = '\x7d' :: rest
  · obtain ⟨rest', hr⟩ := hempty
    simp only [readWritten, hr] at h
    obtain ⟨-, rfl⟩ := Prod.mk.inj (Except.ok.inj h)
    exact ⟨blanks, by rw [← hb, hr]⟩
  · have hfield := takes_readField hvalue
    rw [readWritten_eq hfield fun rest hr => hempty ⟨rest, hr⟩] at h
    obtain ⟨body, -, hbody⟩ := readAll_eq_ok hfield (readField_nil value) h
    exact ⟨blanks ++ body, by rw [← hb, hbody, List.append_assoc]⟩

omit [Spare] in
/-- An array is empty before the cut, or it has its items from its first token on. -/
theorem readArray_before_cut (hvalue : Takes value)
    (hnil : value [] = .error (.fault .valueExpected 0)) {p : List Char} (hp : EndsInBrace p) :
    (∃ r, ∀ z, readArray value (p ++ z) = .ok (.arr [], r ++ z)) ∨
      ∀ z, readArray value (p ++ z) =
        (readAll value ']' .valueExpected (skipSpace p ++ z)).map fun p => (.arr p.1, p.2) := by
  obtain ⟨c, r, hr⟩ := List.exists_cons_of_ne_nil hp.skipSpace.ne_nil
  have hskip : ∀ z, skipSpace (p ++ z) = c :: (r ++ z) := fun z => by
    rw [hp.skipSpace_append, hr, List.cons_append]
  by_cases hc : c = ']'
  · subst hc
    exact .inl ⟨r, fun z => by simp only [readArray, hskip]⟩
  · refine .inr fun z => ?_
    rw [readArray_eq hvalue hnil, hp.skipSpace_append]
    intro rest hrest
    rw [hskip] at hrest
    exact hc (List.cons.inj hrest).1

omit [Spare] in
theorem readsCuts_readArray (hvalue : Takes value)
    (hnil : value [] = .error (.fault .valueExpected 0)) (hcuts : ReadsCuts value IsCutValue) :
    ReadsCuts (readArray value) IsCutValue := by
  intro p q rest v hp h
  rcases readArray_before_cut hvalue hnil hp with ⟨r, hread⟩ | hread
  · rw [hread] at h
    obtain ⟨rfl, rfl⟩ := Prod.mk.inj (Except.ok.inj h)
    exact .inl ⟨r, rfl, hread⟩
  · rw [hread] at h
    obtain ⟨items, ha, rfl⟩ := exists_of_map_eq_ok h
    exact (readsCuts_readAll hvalue hnil hcuts hp.skipSpace ha).map hread
      fun {_ cut} hcut => ⟨.arr_of_cutOff hcut.2, fun _ => ⟨cut, rfl⟩⟩

/-- An object is empty before the cut, or it has its fields from its first token on. -/
theorem readWritten_before_cut (hvalue : Takes value) {p : List Char} (hp : EndsInBrace p) :
    (∃ r, ∀ z, readWritten value (p ++ z) = .ok ([], r ++ z)) ∨
      ∀ z, readWritten value (p ++ z) =
        readAll (readField value) '\x7d' .nameExpected (skipSpace p ++ z) := by
  obtain ⟨c, r, hr⟩ := List.exists_cons_of_ne_nil hp.skipSpace.ne_nil
  have hskip : ∀ z, skipSpace (p ++ z) = c :: (r ++ z) := fun z => by
    rw [hp.skipSpace_append, hr, List.cons_append]
  by_cases hc : c = '\x7d'
  · subst hc
    exact .inl ⟨r, fun z => by simp only [readWritten, hskip]⟩
  · refine .inr fun z => ?_
    rw [readWritten_eq (takes_readField hvalue), hp.skipSpace_append]
    intro rest hrest
    rw [hskip] at hrest
    exact hc (List.cons.inj hrest).1

/-- **The fields of an object that is cut off** are those of the object up to one, and perhaps that
one with its value cut off. -/
theorem readsCuts_readWritten (hvalue : Takes value) (hcuts : ReadsCuts value IsCutValue) :
    ReadsCuts (readWritten value) fun left cut whole =>
      IsClosing ('\x7d' :: left) ∧ CutOff IsCutField cut whole := by
  intro p q rest written hp h
  rcases readWritten_before_cut hvalue hp with ⟨r, hread⟩ | hread
  · rw [hread] at h
    obtain ⟨rfl, rfl⟩ := Prod.mk.inj (Except.ok.inj h)
    exact .inl ⟨r, rfl, hread⟩
  · rw [hread] at h
    have hcut := readsCuts_readAll (takes_readField hvalue) (readField_nil value)
      (readsCuts_readField hvalue hcuts) hp.skipSpace h
    simpa only [hread, exists_const] using hcut

/-! ## Values

The first character decides what a value is, and the readers of each kind have been dealt with. -/

theorem readValue_quote (depth : Nat) (cs : List Char) :
    readValue depth ('"' :: cs)
      = (readString ('"' :: cs) [] cs).map fun p => (.str p.1, p.2) := by
  cases depth <;> simp only [readValue] <;> cases readString ('"' :: cs) [] cs <;> rfl

theorem readValue_brace (depth : Nat) (cs : List Char) :
    readValue (depth + 1) ('\x7b' :: cs)
      = (readWritten (readValue depth) cs).map fun p => (.obj (Fields.ofWritten p.1), p.2) := by
  rw [readValue, readObject_eq_readWritten]

theorem readValue_bracket (depth : Nat) (cs : List Char) :
    readValue (depth + 1) ('[' :: cs) = readArray (readValue depth) cs := by
  rw [readValue]

theorem readValue_plain (depth : Nat) {c : Char} (cs : List Char) (hq : c ≠ '"') (hb : c ≠ '\x7b')
    (ha : c ≠ '[') : readValue depth (c :: cs) = readPlain (c :: cs) := by
  cases depth <;> simp [readValue, hq, hb, ha]

theorem readValue_nil (depth : Nat) : readValue depth [] = .error (.fault .valueExpected 0) := by
  cases depth <;> rfl

/-- A value is a string, an object, an array, or a word or number. -/
theorem readValue_cases {depth : Nat} {cs rest : List Char} {v : Value}
    (h : readValue depth cs = .ok (v, rest)) :
    (∃ text s, cs = '"' :: text ∧ readString cs [] text = .ok (s, rest) ∧ v = .str s) ∨
      (∃ inner text written, depth = inner + 1 ∧ cs = '\x7b' :: text ∧
        readWritten (readValue inner) text = .ok (written, rest) ∧
        v = .obj (Fields.ofWritten written)) ∨
      (∃ inner text, depth = inner + 1 ∧ cs = '[' :: text ∧
        readArray (readValue inner) text = .ok (v, rest)) ∨
      ∃ c text, cs = c :: text ∧ c ≠ '"' ∧ c ≠ '\x7b' ∧ c ≠ '[' ∧ readPlain cs = .ok (v, rest) := by
  match cs, h with
  | [], h =>
    rw [readValue_nil] at h
    cases h
  | c :: cs, h =>
    by_cases hq : c = '"'
    · subst hq
      rw [readValue_quote] at h
      obtain ⟨s, hs, rfl⟩ := exists_of_map_eq_ok h
      exact .inl ⟨cs, s, rfl, hs, rfl⟩
    by_cases hb : c = '\x7b'
    · subst hb
      cases depth with
      | zero => cases h
      | succ inner =>
        rw [readValue_brace] at h
        obtain ⟨written, hw, rfl⟩ :=
          exists_of_map_eq_ok (f := fun written => Value.obj (Fields.ofWritten written)) h
        exact .inr (.inl ⟨inner, cs, written, rfl, rfl, hw, rfl⟩)
    by_cases ha : c = '['
    · subst ha
      cases depth with
      | zero => cases h
      | succ inner =>
        rw [readValue_bracket] at h
        exact .inr (.inr (.inl ⟨inner, cs, rfl, rfl, h⟩))
    · rw [readValue_plain depth cs hq hb ha] at h
      exact .inr (.inr (.inr ⟨c, cs, rfl, hq, hb, ha, h⟩))

theorem takes_readValue (depth : Nat) : Takes (readValue depth) := by
  induction depth using Nat.strongRecOn with | ind depth ih
  intro cs rest v h
  obtain ⟨text, s, rfl, hs, -⟩ | ⟨inner, text, written, rfl, rfl, hw, -⟩ |
    ⟨inner, text, rfl, rfl, ha⟩ | ⟨c, text, rfl, -, -, -, hplain⟩ := readValue_cases h
  · obtain ⟨between, rfl⟩ := (List.suffix_cons '"' rest).trans (readString_eq_ok hs)
    exact ⟨'"' :: between, by simp, rfl⟩
  · obtain ⟨body, rfl⟩ := readWritten_eq_ok (ih inner (Nat.lt_succ_self inner)) hw
    exact ⟨'\x7b' :: body ++ ['\x7d'], by simp, by simp⟩
  · obtain ⟨taken, -, rfl⟩ :=
      takes_readArray (ih inner (Nat.lt_succ_self inner)) (readValue_nil inner) ha
    exact ⟨'[' :: taken, by simp, rfl⟩
  · exact readPlain_eq_ok hplain

/-- **A value is cut off** with the text that spells it, or there is a fault. -/
theorem readsCuts_readValue (depth : Nat) : ReadsCuts (readValue depth) IsCutValue := by
  induction depth using Nat.strongRecOn with | ind depth ih
  intro p q rest v hp h
  obtain ⟨text, s, hcs, hs, rfl⟩ | ⟨inner, text, written, rfl, hcs, hw, rfl⟩ |
    ⟨inner, text, rfl, hcs, ha⟩ | ⟨c, text, hcs, hq, hb, hbracket, hplain⟩ := readValue_cases h
  · obtain ⟨p, rfl, hp', rfl⟩ := hp.exists_cons hcs (by decide)
    rcases readString_cut hp' hs with ⟨r, rfl, -, hz⟩ | ⟨hlt, hz⟩
    · refine .inl ⟨r, rfl, fun z => ?_⟩
      show readValue depth ('"' :: (p ++ z)) = _
      rw [readValue_quote, hz]
      rfl
    · refine .inr ⟨hlt, fun z hclosing => .inl ?_⟩
      show Faulty (readValue depth ('"' :: (p ++ z)))
      rw [readValue_quote]
      exact (hz z _ hclosing).map _
  · obtain ⟨p, rfl, hp', rfl⟩ := hp.exists_cons hcs (by decide)
    have hinner := ih inner (Nat.lt_succ_self inner)
    exact (readsCuts_readWritten (takes_readValue inner) hinner hp' hw).map
      (f := fun written => Value.obj (Fields.ofWritten written))
      (fun z => readValue_brace inner (p ++ z))
      fun hcut => ⟨.obj_of_cutOff hcut.2, fun hmem => absurd hmem hcut.1.not_mem_of_brace⟩
  · obtain ⟨p, rfl, hp', rfl⟩ := hp.exists_cons hcs (by decide)
    have hinner := ih inner (Nat.lt_succ_self inner)
    have hcut := readsCuts_readArray (takes_readValue inner) (readValue_nil inner) hinner hp' ha
    simpa only [List.cons_append, readValue_bracket] using hcut
  · obtain ⟨a, rfl⟩ := hp.exists_eq
    rw [List.append_assoc, List.singleton_append] at hplain
    obtain ⟨r, rfl, hz⟩ := readPlain_append_brace hplain
    refine .inl ⟨r ++ ['\x7d'], by simp, fun z => ?_⟩
    have hread : readValue depth (a ++ '\x7d' :: z) = readPlain (a ++ '\x7d' :: z) := by
      cases a with
      | nil =>
        obtain ⟨rfl, -⟩ := List.cons.inj hcs
        exact readValue_plain depth z hq hb hbracket
      | cons d a =>
        obtain ⟨rfl, -⟩ := List.cons.inj hcs
        exact readValue_plain depth _ hq hb hbracket
    simp [hread, hz]

end CodeReview.Json
