import CodeReview.Json.Reader

/-!
# Sequences between brackets

The items of an array and the fields of an object are read alike: one after another, with commas
between them, up to a closing character.  But they are two functions, each with an accumulator of
its own kind, and everything about sequences would have to be proved twice.  `readSequence` is what
they share: it takes a reader of items and gives the list of what was read.  `readItems_eq` and
`readFields_eq` say that the two are this one, and from there on there is one sequence.

Two more things stand in the way of a clean induction, and are removed here.

* **The bound.**  A reader of sequences recurses on a text no shorter than the one it reads, so
  that the recursion is structural.  Every text that is long enough bounds the reading alike
  (`readSequence_eq_of_length_le`), given that an item takes a character at least (`Takes`).
  `readAll` is the sequence bounded by its own text; it is what the other files speak of.
* **Names that are written twice.**  An object has each name once, while its text may have it
  twice. `readWritten` reads the fields as they are written and `Fields.ofWritten` makes the object
  of them; a cut is a cut of the first and not of the second.  `writtenNames` is for statements
  that exclude such names.
## What is here

* `readSequence`, `readAll`, `readAll_of_cons`, `readAll_cases` — sequences, forwards and
  backwards: what a text is read as, and what a text was that was read;
* `readItems_eq`, `readFields_eq` — items and fields are sequences;
* `readArray_eq`, `readWritten_eq`, `readObject_eq_readWritten` — containers.
-/

set_option autoImplicit false

namespace CodeReview.Json

variable {α β : Type}

/-- A reading whose value is changed was a reading that left the same text. -/
theorem exists_of_map_eq_ok {r : Except Stop (α × List Char)} {f : α → β} {b : β}
    {rest : List Char} (h : (r.map fun p => (f p.1, p.2)) = .ok (b, rest)) :
    ∃ a, r = .ok (a, rest) ∧ f a = b := by
  cases r with
  | error stop => cases h
  | ok p =>
    obtain ⟨rfl, rfl⟩ := Prod.mk.inj (Except.ok.inj h)
    exact ⟨p.1, rfl, rfl⟩

/-- One item or more with commas between them, up to a closing character.  `bound` is a text no
shorter than the one read. -/
def readSequence (item : Reader α) (close : Char) (missing : Cause) :
    (bound : List Char) → Reader (List α)
  | [], cs => .error (.fault missing cs.length)
  | _ :: bound, cs =>
    match item cs with
    | .error stop => .error stop
    | .ok (a, rest) =>
      match skipSpace rest with
      | [] => .error (.fault .commaExpected 0)
      | c :: rest =>
        if c = close then .ok ([a], rest)
        else if c = ',' then
          match readSequence item close missing bound (skipSpace rest) with
          | .error stop => .error stop
          | .ok (as, rest) => .ok (a :: as, rest)
        else .error (.fault .commaExpected (rest.length + 1))

theorem readSequence_of_error {item : Reader α} {close : Char} {missing : Cause} {b : Char}
    {bound cs : List Char} {stop : Stop} (h : item cs = .error stop) :
    readSequence item close missing (b :: bound) cs = .error stop := by
  rw [readSequence, h]

theorem readSequence_of_end {item : Reader α} {close : Char} {missing : Cause} {b : Char}
    {bound cs rest : List Char} {a : α} (h : item cs = .ok (a, rest)) (hr : skipSpace rest = []) :
    readSequence item close missing (b :: bound) cs = .error (.fault .commaExpected 0) := by
  simp only [readSequence, h, hr]

theorem readSequence_of_cons {item : Reader α} {close : Char} {missing : Cause} {b c : Char}
    {bound cs rest more : List Char} {a : α} (h : item cs = .ok (a, rest))
    (hr : skipSpace rest = c :: more) :
    readSequence item close missing (b :: bound) cs =
      if c = close then .ok ([a], more)
      else if c = ',' then
        match readSequence item close missing bound (skipSpace more) with
        | .error stop => .error stop
        | .ok (as, rest) => .ok (a :: as, rest)
      else .error (.fault .commaExpected (more.length + 1)) := by
  simp only [readSequence, h, hr]

/-! ## Progress

`Takes` is asked of every reader of items; it makes the recursion end.  The equations of `readAll`
follow the text: an item, and then the end, a comma or the closing character. -/

/-- The reader takes a character at least and leaves what stands behind those it takes. -/
def Takes (read : Reader α) : Prop :=
  ∀ ⦃cs rest a⦄, read cs = .ok (a, rest) → ∃ taken, taken ≠ [] ∧ cs = taken ++ rest

theorem Takes.length_lt {read : Reader α} (h : Takes read) {cs rest : List Char} {a : α}
    (hr : read cs = .ok (a, rest)) : rest.length < cs.length := by
  obtain ⟨taken, hne, rfl⟩ := h hr
  have := List.length_pos_iff.2 hne
  rw [List.length_append]
  omega

section Bound

variable {item : Reader α} {close : Char} {missing : Cause}

/-- Every text that is long enough bounds the reading alike. -/
theorem readSequence_eq_of_length_le (hitem : Takes item)
    (hnil : item [] = .error (.fault missing 0)) {bound bound' cs : List Char}
    (h : cs.length ≤ bound.length) (h' : cs.length ≤ bound'.length) :
    readSequence item close missing bound cs = readSequence item close missing bound' cs := by
  induction bound generalizing bound' cs with
  | nil =>
    obtain rfl : cs = [] := List.length_eq_zero_iff.1 (Nat.le_zero.1 h)
    cases bound' with
    | nil => rfl
    | cons b bound' => rw [readSequence_of_error hnil]; rfl
  | cons b bound ih =>
    cases bound' with
    | nil =>
      obtain rfl : cs = [] := List.length_eq_zero_iff.1 (Nat.le_zero.1 h')
      rw [readSequence_of_error hnil]
      rfl
    | cons b' bound' =>
      cases hi : item cs with
      | error stop => rw [readSequence_of_error hi, readSequence_of_error hi]
      | ok p =>
        obtain ⟨a, rest⟩ := p
        cases hr : skipSpace rest with
        | nil => rw [readSequence_of_end hi hr, readSequence_of_end hi hr]
        | cons c more =>
          have hlt := hitem.length_lt hi
          have hrest := length_skipSpace_le rest
          have hmore := length_skipSpace_le more
          rw [hr, List.length_cons] at hrest
          rw [List.length_cons] at h h'
          have hshort : (skipSpace more).length ≤ bound.length := by omega
          have hshort' : (skipSpace more).length ≤ bound'.length := by omega
          rw [readSequence_of_cons hi hr, readSequence_of_cons hi hr, ih hshort hshort']

/-- A sequence, bounded by its own text. -/
def readAll (item : Reader α) (close : Char) (missing : Cause) : Reader (List α) :=
  fun cs => readSequence item close missing cs cs

theorem readSequence_eq_readAll (hitem : Takes item)
    (hnil : item [] = .error (.fault missing 0)) {bound cs : List Char}
    (h : cs.length ≤ bound.length) :
    readSequence item close missing bound cs = readAll item close missing cs :=
  readSequence_eq_of_length_le hitem hnil h (Nat.le_refl _)

theorem readAll_of_error (hnil : item [] = .error (.fault missing 0)) {cs : List Char} {stop : Stop}
    (h : item cs = .error stop) : readAll item close missing cs = .error stop := by
  cases cs with
  | nil =>
    obtain rfl : Stop.fault missing 0 = stop := Except.error.inj (hnil.symm.trans h)
    rfl
  | cons c cs => exact readSequence_of_error h

theorem readAll_of_end (hitem : Takes item) {cs rest : List Char} {a : α}
    (h : item cs = .ok (a, rest)) (hr : skipSpace rest = []) :
    readAll item close missing cs = .error (.fault .commaExpected 0) := by
  cases cs with
  | nil => exact absurd (hitem.length_lt h) (Nat.not_lt_zero _)
  | cons c cs => exact readSequence_of_end h hr

theorem readAll_of_cons (hitem : Takes item) (hnil : item [] = .error (.fault missing 0))
    {cs rest more : List Char} {a : α} {c : Char} (h : item cs = .ok (a, rest))
    (hr : skipSpace rest = c :: more) :
    readAll item close missing cs =
      if c = close then .ok ([a], more)
      else if c = ',' then
        (readAll item close missing (skipSpace more)).map fun p => (a :: p.1, p.2)
      else .error (.fault .commaExpected (more.length + 1)) := by
  have hlt := hitem.length_lt h
  cases cs with
  | nil => exact absurd hlt (Nat.not_lt_zero _)
  | cons d cs =>
    have hrest := length_skipSpace_le rest
    have hmore := length_skipSpace_le more
    rw [hr, List.length_cons] at hrest
    rw [List.length_cons] at hlt
    rw [readAll, readSequence_of_cons h hr,
      readSequence_eq_readAll hitem hnil (by omega : (skipSpace more).length ≤ cs.length)]
    cases readAll item close missing (skipSpace more) <;> rfl

/-- A sequence is one item and the closing character, or an item, a comma and a sequence. -/
theorem readAll_cases (hitem : Takes item) (hnil : item [] = .error (.fault missing 0))
    {cs rest : List Char} {as : List α} (h : readAll item close missing cs = .ok (as, rest)) :
    ∃ a behind, item cs = .ok (a, behind) ∧
      (skipSpace behind = close :: rest ∧ as = [a] ∨
        ∃ more as', skipSpace behind = ',' :: more ∧ ',' ≠ close ∧
          readAll item close missing (skipSpace more) = .ok (as', rest) ∧ as = a :: as') := by
  cases hi : item cs with
  | error stop =>
    rw [readAll_of_error hnil hi] at h
    cases h
  | ok p =>
    obtain ⟨a, behind⟩ := p
    refine ⟨a, behind, rfl, ?_⟩
    cases hr : skipSpace behind with
    | nil =>
      rw [readAll_of_end hitem hi hr] at h
      cases h
    | cons c more =>
      rw [readAll_of_cons hitem hnil hi hr] at h
      split at h
      · rename_i hc
        obtain ⟨rfl, rfl⟩ := Prod.mk.inj (Except.ok.inj h)
        exact .inl ⟨by rw [hc], rfl⟩
      · rename_i hc
        split at h
        · rename_i hcomma
          subst hcomma
          obtain ⟨as', hm, rfl⟩ := exists_of_map_eq_ok h
          exact .inr ⟨more, as', rfl, hc, hm, rfl⟩
        · cases h

/-- A sequence ends with its closing character. -/
theorem readAll_eq_ok (hitem : Takes item) (hnil : item [] = .error (.fault missing 0))
    {cs rest : List Char} {as : List α} (h : readAll item close missing cs = .ok (as, rest)) :
    ∃ body, body ≠ [] ∧ cs = body ++ close :: rest := by
  induction hlen : cs.length using Nat.strongRecOn generalizing cs as with | ind n ih
  obtain ⟨a, behind, hi, hmore⟩ := readAll_cases hitem hnil h
  have hlt := hitem.length_lt hi
  obtain ⟨taken, hne, rfl⟩ := hitem hi
  obtain ⟨blanks, hblanks⟩ : skipSpace behind <:+ behind := List.dropWhile_suffix isSpace
  rcases hmore with ⟨hr, -⟩ | ⟨more, as', hr, -, hm, -⟩
  · exact ⟨taken ++ blanks, by simp [hne], by rw [List.append_assoc, ← hr, hblanks]⟩
  · have hle := length_skipSpace_le more
    have hbehind := length_skipSpace_le behind
    rw [hr, List.length_cons] at hbehind
    obtain ⟨body, -, hbody⟩ := ih _ (by omega) hm rfl
    obtain ⟨blanks', hblanks'⟩ : skipSpace more <:+ more := List.dropWhile_suffix isSpace
    refine ⟨taken ++ blanks ++ ',' :: blanks' ++ body, by simp [hne], ?_⟩
    rw [← hblanks, hr, ← hblanks', hbody]
    simp

/-- What a sequence leaves is shorter than what its first item leaves. -/
theorem length_lt_of_readAll (hitem : Takes item) (hnil : item [] = .error (.fault missing 0))
    {cs behind rest : List Char} {a : α} {as : List α} (hi : item cs = .ok (a, behind))
    (h : readAll item close missing cs = .ok (as, rest)) : rest.length < behind.length := by
  obtain ⟨a', behind', hi', hmore⟩ := readAll_cases hitem hnil h
  obtain ⟨rfl, rfl⟩ := Prod.mk.inj (Except.ok.inj (hi.symm.trans hi'))
  have hbehind := length_skipSpace_le behind
  rcases hmore with ⟨hr, -⟩ | ⟨more, as', hr, -, hm, -⟩
  · rw [hr, List.length_cons] at hbehind
    omega
  · obtain ⟨body, -, hbody⟩ := readAll_eq_ok hitem hnil hm
    have hle := length_skipSpace_le more
    rw [hr, List.length_cons] at hbehind
    rw [hbody, List.length_append, List.length_cons] at hle
    omega

theorem exists_cons_of_readAll (hitem : Takes item) (hnil : item [] = .error (.fault missing 0))
    {cs behind rest : List Char} {a : α} {as : List α} (hi : item cs = .ok (a, behind))
    (h : readAll item close missing cs = .ok (as, rest)) : ∃ lost, as = a :: lost := by
  obtain ⟨a', behind', hi', hmore⟩ := readAll_cases hitem hnil h
  obtain ⟨rfl, rfl⟩ := Prod.mk.inj (Except.ok.inj (hi.symm.trans hi'))
  rcases hmore with ⟨-, rfl⟩ | ⟨-, as', -, -, -, rfl⟩
  · exact ⟨[], rfl⟩
  · exact ⟨as', rfl⟩

end Bound

/-! ## Arrays

The items of an array are gathered in reverse. -/

theorem readItems_eq (value : Reader Value) (bound : List Char) (items : List Value)
    (cs : List Char) :
    readItems value bound items cs =
      (readSequence value ']' .valueExpected bound cs).map fun p =>
        (items.reverse ++ p.1, p.2) := by
  induction bound generalizing items cs with
  | nil => rfl
  | cons b bound ih =>
    rw [readItems]
    cases hv : value cs with
    | error stop => rw [readSequence_of_error hv]; rfl
    | ok p =>
      obtain ⟨v, rest⟩ := p
      cases hr : skipSpace rest with
      | nil => simp only [readSequence_of_end hv hr, hr]; rfl
      | cons c more =>
        rw [readSequence_of_cons hv hr]
        by_cases hclose : c = ']'
        · subst hclose
          simp [hr, Except.map]
        · by_cases hcomma : c = ','
          · subst hcomma
            simp only [hr, ih, if_neg hclose, if_pos]
            cases readSequence value ']' .valueExpected bound (skipSpace more) <;>
              simp [Except.map]
          · simp [hr, hclose, hcomma, Except.map]

/-! ## Objects

The fields of an object are put into it one by one, so a later field takes the place of an earlier
one of that name.  Where no name stands twice this is the list itself (`ofWritten_of_nodup`). -/

namespace Fields

/-- The fields of an object, given as they are written. -/
def ofWritten (written : Fields) : Fields := written.foldl (fun fields f => fields.put f.1 f.2) []

theorem foldl_put_of_nodup {written : Fields} (fields : Fields)
    (h : ((fields ++ written).map Prod.fst).Nodup) :
    written.foldl (fun fields f => fields.put f.1 f.2) fields = fields ++ written := by
  induction written generalizing fields with
  | nil => simp
  | cons f written ih =>
    have hf : f.1 ∉ fields.map Prod.fst := by
      intro hmem
      rw [List.map_append, List.map_cons, List.nodup_append] at h
      exact h.2.2 f.1 hmem f.1 List.mem_cons_self rfl
    rw [List.foldl_cons, put_of_not_mem hf, ih _ (by simpa using h), List.append_assoc]
    rfl

/-- Fields whose names differ are the fields of an object as they stand. -/
theorem ofWritten_of_nodup {written : Fields} (h : (written.map Prod.fst).Nodup) :
    ofWritten written = written := by
  rw [ofWritten, foldl_put_of_nodup [] (by simpa using h), List.nil_append]

end Fields

variable [Text.Spare]

theorem readFields_eq (value : Reader Value) (bound : List Char) (fields : Fields)
    (cs : List Char) :
    readFields value bound fields cs =
      (readSequence (readField value) '\x7d' .nameExpected bound cs).map fun p =>
        (p.1.foldl (fun fields f => fields.put f.1 f.2) fields, p.2) := by
  induction bound generalizing fields cs with
  | nil => rfl
  | cons b bound ih =>
    rw [readFields]
    cases hv : readField value cs with
    | error stop => rw [readSequence_of_error hv]; rfl
    | ok p =>
      obtain ⟨⟨name, v⟩, rest⟩ := p
      cases hr : skipSpace rest with
      | nil => simp only [readSequence_of_end hv hr, hr]; rfl
      | cons c more =>
        rw [readSequence_of_cons hv hr]
        by_cases hclose : c = '\x7d'
        · subst hclose
          simp [hr, Except.map]
        · by_cases hcomma : c = ','
          · subst hcomma
            simp only [hr, ih, if_neg hclose, if_pos]
            cases readSequence (readField value) '\x7d' .nameExpected bound (skipSpace more) <;>
              simp [Except.map]
          · simp [hr, hclose, hcomma, Except.map]

/-! ## Containers

A container is empty, or it is a sequence from its first token on. -/

theorem readField_nil (value : Reader Value) :
    readField value [] = .error (.fault .nameExpected 0) := rfl

omit [Text.Spare] in
/-- The array behind its opening bracket, when it is not empty. -/
theorem readArray_eq {value : Reader Value} (hvalue : Takes value)
    (hnil : value [] = .error (.fault .valueExpected 0)) {cs : List Char}
    (h : ∀ rest, skipSpace cs ≠ ']' :: rest) :
    readArray value cs = (readAll value ']' .valueExpected (skipSpace cs)).map fun p =>
      (.arr p.1, p.2) := by
  rw [readArray]
  split
  · rename_i rest hr
    exact absurd hr (h rest)
  · rw [readItems_eq, readSequence_eq_readAll hvalue hnil (length_skipSpace_le cs)]
    cases readAll value ']' .valueExpected (skipSpace cs) <;> simp [Except.map]

/-- The fields of the object behind an opening brace, as they are written. -/
def readWritten (value : Reader Value) : Reader Fields := fun cs =>
  match skipSpace cs with
  | '\x7d' :: rest => .ok ([], rest)
  | rest => readSequence (readField value) '\x7d' .nameExpected cs rest

theorem readWritten_of_ne {value : Reader Value} {cs : List Char}
    (h : ∀ rest, skipSpace cs ≠ '\x7d' :: rest) :
    readWritten value cs
      = readSequence (readField value) '\x7d' .nameExpected cs (skipSpace cs) := by
  rw [readWritten]
  split
  · rename_i rest hr
    exact absurd hr (h rest)
  · rfl

theorem readWritten_eq {value : Reader Value} (hfield : Takes (readField value)) {cs : List Char}
    (h : ∀ rest, skipSpace cs ≠ '\x7d' :: rest) :
    readWritten value cs = readAll (readField value) '\x7d' .nameExpected (skipSpace cs) := by
  rw [readWritten_of_ne h,
    readSequence_eq_readAll hfield (readField_nil value) (length_skipSpace_le cs)]

/-- **An object is its fields as they are written,** each name kept once. -/
theorem readObject_eq_readWritten (value : Reader Value) (cs : List Char) :
    readObject value cs =
      (readWritten value cs).map fun p => (.obj (Fields.ofWritten p.1), p.2) := by
  rw [readObject]
  split
  · rename_i rest hr
    simp only [readWritten, hr]
    rfl
  · rename_i hr
    rw [readFields_eq, readWritten_of_ne hr]
    cases readSequence (readField value) '\x7d' .nameExpected cs (skipSpace cs) <;>
      simp [Except.map, Fields.ofWritten]

/-- The names in the object that a text starts with, as they are written. -/
def writtenNames (text : String) : List String :=
  match skipSpace text.toList with
  | '\x7b' :: rest =>
    match readWritten (readValue (maxDepth - 1)) rest with
    | .ok (written, _) => written.map Prod.fst
    | .error _ => []
  | _ => []

end CodeReview.Json
