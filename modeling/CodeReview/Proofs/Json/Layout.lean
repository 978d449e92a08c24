import CodeReview.Proofs.Json.Object
import CodeReview.Proofs.Json.Spelling

/-!
# How values are written

A value can be laid out in many ways: strings and integers have several texts, and blanks may stand
around every value and every name.  `Writes depth v text` says that `text` is one of the texts of
`v`, and that there are at most `depth` containers inside one another in it.  Values with reals are
left out, as are objects with a name that stands twice: the first are rounded when they are read,
and the second lose a field.

The relation is defined by the grammar and not by the reader, so that "every rendering of this
object" can be said without a word about how it is read.  That the reader takes every such text for
its value is the theorem (`Writes.readsBack`, `Writes.read_eq`).

Blanks are the difficulty.  The reader skips the blanks *before* a token and leaves those behind a
value for whoever reads on, so a value is not simply read off the front of its text.  `ReadsBack`
says what is true: from the text, less the blanks it starts with, the reader gets the value, and
leaves what follows, give or take blanks at its start.  This is passed on by every constructor of
`Writes`.  It needs to be known that what follows does not go on with the value (`Delimited`): a
digit behind the text of an integer would make another integer of it.
-/

set_option autoImplicit false

namespace CodeReview.Json

open CodeReview.Text

/-! ## Layout

Fields and items are kept with their texts in one list (`Member`), so that a container is a
constructor of `Writes` itself and needs no second relation beside it. -/

/-- Nothing but blanks. -/
def IsBlanks (cs : List Char) : Prop := cs ⊆ [' ', '\t', '\n', '\r']

instance (cs : List Char) : Decidable (IsBlanks cs) :=
  inferInstanceAs (Decidable (cs ⊆ [' ', '\t', '\n', '\r']))

/-- A name as it is written, with blanks around it. -/
inductive WritesName : String → List Char → Prop where
  | mk {name : String} {before text behind : List Char} (hbefore : IsBlanks before)
      (h : WritesString name text) (hbehind : IsBlanks behind) :
      WritesName name (before ++ text ++ behind)

/-- A field of an object, and the texts of its name and its value. -/
structure Member where
  name : String
  value : Value
  nameText : List Char
  valueText : List Char

/-- The text of a field. -/
def Member.text (m : Member) : List Char := m.nameText ++ ':' :: m.valueText

/-- Texts with commas between them. -/
def withCommas (texts : List (List Char)) : List Char := [','].intercalate texts

/-- **The text writes the value,** with at most `depth` containers inside one another. -/
inductive Writes : (depth : Nat) → Value → List Char → Prop where
  | null (depth : Nat) : Writes depth .null "null".toList
  | true (depth : Nat) : Writes depth (.bool true) "true".toList
  | false (depth : Nat) : Writes depth (.bool false) "false".toList
  | int (depth : Nat) {n : Int} {text : List Char} (h : WritesInt n text) :
      Writes depth (.int n) text
  | str (depth : Nat) {s : String} {text : List Char} (h : WritesString s text) :
      Writes depth (.str s) text
  | emptyArr (depth : Nat) {blanks : List Char} (h : IsBlanks blanks) :
      Writes (depth + 1) (.arr []) ('[' :: (blanks ++ [']']))
  /-- an item or more, each with its text -/
  | arr {depth : Nat} {items : List (Value × List Char)} (hne : items ≠ [])
      (hitems : ∀ item ∈ items, Writes depth item.1 item.2) :
      Writes (depth + 1) (.arr (items.map Prod.fst))
        ('[' :: (withCommas (items.map Prod.snd) ++ [']']))
  | emptyObj (depth : Nat) {blanks : List Char} (h : IsBlanks blanks) :
      Writes (depth + 1) (.obj []) ('\x7b' :: (blanks ++ ['\x7d']))
  /-- a field or more, no two of one name -/
  | obj {depth : Nat} {members : List Member} (hne : members ≠ [])
      (hnames : ∀ m ∈ members, WritesName m.name m.nameText)
      (hvalues : ∀ m ∈ members, Writes depth m.value m.valueText)
      (hnodup : (members.map Member.name).Nodup) :
      Writes (depth + 1) (.obj (members.map fun m => (m.name, m.value)))
        ('\x7b' :: (withCommas (members.map Member.text) ++ ['\x7d']))
  | padded {depth : Nat} {v : Value} {before text behind : List Char} (hbefore : IsBlanks before)
      (h : Writes depth v text) (hbehind : IsBlanks behind) :
      Writes depth v (before ++ text ++ behind)

/-! ## Blanks

Blanks may be put in front of anything that is skipped to. -/

namespace IsBlanks

variable {blanks rest : List Char}

theorem skipSpace_append (h : IsBlanks blanks) (rest : List Char) :
    skipSpace (blanks ++ rest) = skipSpace rest := by
  have hspace : ∀ c ∈ [' ', '\t', '\n', '\r'], isSpace c = true := by simp [isSpace]
  exact List.dropWhile_append_of_pos fun c hc => hspace c (h hc)

theorem delimited_append (h : IsBlanks blanks) (hrest : Delimited rest) :
    Delimited (blanks ++ rest) := by
  cases blanks with
  | nil => exact hrest
  | cons c blanks =>
    have hsubset : [' ', '\t', '\n', '\r'] ⊆ [' ', '\t', '\n', '\r', ',', ']', '\x7d'] := by decide
    intro d hd
    obtain rfl : c = d := by simpa using hd
    exact hsubset (h List.mem_cons_self)

end IsBlanks

theorem skipSpace_cons {c : Char} (hc : isSpace c = false) (cs : List Char) :
    skipSpace (c :: cs) = c :: cs := by
  rw [skipSpace, List.dropWhile_cons_of_neg (by simp [hc])]

theorem delimited_cons {c : Char} (hc : c ∈ [' ', '\t', '\n', '\r', ',', ']', '\x7d'])
    (rest : List Char) : Delimited (c :: rest) := by
  intro d hd
  obtain rfl : c = d := by simpa using hd
  exact hc

/-! ## Reading back

A sequence is read back from the texts of its items with commas between them.  The last item is
followed by the closing character, each other one by a comma; both delimit it. -/

/-- From the text the reader gets the value, and leaves what follows but for the blanks it starts
with. -/
def ReadsBack {α : Type} (read : Reader α) (a : α) (text : List Char) : Prop :=
  ∀ rest, Delimited rest →
    ∃ left, read (skipSpace (text ++ rest)) = .ok (a, left) ∧ skipSpace left = skipSpace rest

theorem ReadsBack.padded {α : Type} {read : Reader α} {a : α} {before text behind : List Char}
    (hbefore : IsBlanks before) (h : ReadsBack read a text) (hbehind : IsBlanks behind) :
    ReadsBack read a (before ++ text ++ behind) := by
  intro rest hrest
  obtain ⟨left, hread, hleft⟩ := h (behind ++ rest) (hbehind.delimited_append hrest)
  refine ⟨left, ?_, hleft.trans (hbehind.skipSpace_append rest)⟩
  rw [List.append_assoc, List.append_assoc, hbefore.skipSpace_append, hread]

section Sequence

variable {α : Type} {item : Reader α} {close : Char} {missing : Cause}

/-- **A sequence is read back** item by item. -/
theorem readAll_withCommas (hitem : Takes item) (hnil : item [] = .error (.fault missing 0))
    (hclose : close = ']' ∨ close = '\x7d') {items : List (α × List Char)} (hne : items ≠ [])
    (h : ∀ p ∈ items, ReadsBack item p.1 p.2) (rest : List Char) :
    readAll item close missing (skipSpace (withCommas (items.map Prod.snd) ++ close :: rest))
      = .ok (items.map Prod.fst, rest) := by
  have hdelimited : close ∈ [' ', '\t', '\n', '\r', ',', ']', '\x7d'] := by
    rcases hclose with rfl | rfl <;> decide
  have hcomma : ',' ≠ close := by rcases hclose with rfl | rfl <;> decide
  have hspace : isSpace close = false := by rcases hclose with rfl | rfl <;> decide
  induction items with
  | nil => exact absurd rfl hne
  | cons p items ih =>
    have hp := h p List.mem_cons_self
    have hmore : ∀ p ∈ items, ReadsBack item p.1 p.2 := fun p hp => h p (List.mem_cons_of_mem _ hp)
    by_cases hlast : items = []
    · subst hlast
      obtain ⟨left, hread, hleft⟩ := hp (close :: rest) (delimited_cons hdelimited rest)
      rw [skipSpace_cons hspace] at hleft
      simpa [withCommas] using (readAll_of_cons hitem hnil hread hleft).trans (if_pos rfl)
    · have hsplit : withCommas ((p :: items).map Prod.snd) ++ close :: rest
          = p.2 ++ ',' :: (withCommas (items.map Prod.snd) ++ close :: rest) := by
        rw [withCommas, List.map_cons, List.intercalate_cons_of_ne_nil (by simpa using hlast)]
        simp [withCommas]
      obtain ⟨left, hread, hleft⟩ := hp (',' :: (withCommas (items.map Prod.snd) ++ close :: rest))
        (delimited_cons (by decide) _)
      rw [skipSpace_cons (by decide)] at hleft
      rw [hsplit, readAll_of_cons hitem hnil hread hleft, if_neg hcomma, if_pos rfl,
        ih hlast hmore]
      rfl

/-- A sequence does not start with its closing character if no item does. -/
theorem ne_close_of_readAll (hitem : Takes item) (hnil : item [] = .error (.fault missing 0))
    (hclose : ∀ more, ∃ stop, item (close :: more) = .error stop) {cs rest : List Char}
    {as : List α} (h : readAll item close missing cs = .ok (as, rest)) (more : List Char) :
    cs ≠ close :: more := by
  rintro rfl
  obtain ⟨a, behind, hi, -⟩ := readAll_cases hitem hnil h
  obtain ⟨stop, hstop⟩ := hclose more
  rw [hstop] at hi
  cases hi

end Sequence

variable [Spare]

/-- **A field is read back,** its name from behind the blanks before it. -/
theorem readsBack_field {value : Reader Value} {name : String} {v : Value}
    {nameText valueText : List Char} (hname : WritesName name nameText)
    (hvalue : ReadsBack value v valueText) :
    ReadsBack (readField value) (name, v) (nameText ++ ':' :: valueText) := by
  intro rest hrest
  obtain @⟨before, text, behind, hbefore, hstring, hbehind⟩ := hname
  obtain ⟨body, rfl, hread⟩ := readString_of_writesString hstring
  obtain ⟨left, hok, hleft⟩ := hvalue rest hrest
  have hsplit : before ++ '"' :: body ++ behind ++ ':' :: valueText ++ rest
      = before ++ '"' :: (body ++ (behind ++ ':' :: (valueText ++ rest))) := by simp
  have hcolon : skipSpace (behind ++ ':' :: (valueText ++ rest)) = ':' :: (valueText ++ rest) := by
    rw [hbehind.skipSpace_append, skipSpace_cons (by decide)]
  refine ⟨left, ?_, hleft⟩
  rw [hsplit, hbefore.skipSpace_append, skipSpace_cons (by decide),
    readField_of_ok (hread _ _) hcolon, hok]
  rfl

/-! ## Values

One lemma for each constructor of `Writes`, and then the induction. -/

omit [Spare] in
/-- A text that starts with no blank is read where it stands. -/
theorem readsBack_of_read {α : Type} {read : Reader α} {a : α} {c : Char} {text : List Char}
    (hc : isSpace c = false)
    (h : ∀ rest, Delimited rest → read (c :: (text ++ rest)) = .ok (a, rest)) :
    ReadsBack read a (c :: text) := by
  intro rest hrest
  exact ⟨rest, by rw [List.cons_append, skipSpace_cons hc, h rest hrest], rfl⟩

theorem readsBack_word (depth : Nat) {v : Value} {word : List Char}
    (h : (v, word) ∈ [(.null, "null".toList), (.bool true, "true".toList),
      (.bool false, "false".toList)]) :
    ReadsBack (readValue depth) v word := by
  intro rest _
  refine ⟨rest, ?_, rfl⟩
  simp only [List.mem_cons, Prod.mk.injEq, List.not_mem_nil, or_false] at h
  rcases h with ⟨rfl, rfl⟩ | ⟨rfl, rfl⟩ | ⟨rfl, rfl⟩
  all_goals exact readValue_plain depth _ (by decide) (by decide) (by decide)

theorem readsBack_int (depth : Nat) {n : Int} {text : List Char} (h : WritesInt n text) :
    ReadsBack (readValue depth) (.int n) text := by
  obtain ⟨c, more, rfl, hc⟩ := h.exists_cons
  have hother : ∀ d ∈ ['"', '\x7b', '[', ' ', '\t', '\n', '\r'], d ≠ '-' ∧ d.isDigit = false := by
    simp
  have hne : ∀ d ∈ ['"', '\x7b', '[', ' ', '\t', '\n', '\r'], c ≠ d := by
    rintro d hd rfl
    obtain ⟨hminus, hdigit⟩ := hother c hd
    rcases hc with hc | hc
    · exact hminus hc
    · rw [hc] at hdigit
      cases hdigit
  simp only [List.forall_mem_cons, List.not_mem_nil, false_implies, implies_true, and_true] at hne
  obtain ⟨hquote, hbrace, hbracket, hblank⟩ := hne
  refine readsBack_of_read (by simp [isSpace, hblank]) fun rest hrest => ?_
  rw [readValue_plain depth _ hquote hbrace hbracket]
  exact readPlain_of_writesInt h hrest

theorem readsBack_str (depth : Nat) {s : String} {text : List Char} (h : WritesString s text) :
    ReadsBack (readValue depth) (.str s) text := by
  obtain ⟨body, rfl, hread⟩ := readString_of_writesString h
  refine readsBack_of_read (by decide) fun rest _ => ?_
  rw [readValue_quote, hread]
  rfl

theorem readsBack_emptyArr (depth : Nat) {blanks : List Char} (h : IsBlanks blanks) :
    ReadsBack (readValue (depth + 1)) (.arr []) ('[' :: (blanks ++ [']'])) := by
  refine readsBack_of_read (by decide) fun rest _ => ?_
  have hskip : skipSpace (blanks ++ [']'] ++ rest) = ']' :: rest := by
    rw [List.append_assoc, h.skipSpace_append, List.singleton_append, skipSpace_cons (by decide)]
  simp only [readValue_bracket, readArray, hskip]

theorem readsBack_emptyObj (depth : Nat) {blanks : List Char} (h : IsBlanks blanks) :
    ReadsBack (readValue (depth + 1)) (.obj []) ('\x7b' :: (blanks ++ ['\x7d'])) := by
  refine readsBack_of_read (by decide) fun rest _ => ?_
  have hskip : skipSpace (blanks ++ ['\x7d'] ++ rest) = '\x7d' :: rest := by
    rw [List.append_assoc, h.skipSpace_append, List.singleton_append, skipSpace_cons (by decide)]
  simp only [readValue_brace, readWritten, hskip]
  rfl

theorem readsBack_arr {depth : Nat} {items : List (Value × List Char)} (hne : items ≠ [])
    (h : ∀ item ∈ items, ReadsBack (readValue depth) item.1 item.2) :
    ReadsBack (readValue (depth + 1)) (.arr (items.map Prod.fst))
      ('[' :: (withCommas (items.map Prod.snd) ++ [']'])) := by
  have htakes := takes_readValue depth
  have hnil := readValue_nil depth
  have hclose : ∀ more, ∃ stop, readValue depth (']' :: more) = .error stop := fun more =>
    ⟨_, readValue_plain depth more (by decide) (by decide) (by decide)⟩
  refine readsBack_of_read (by decide) fun rest _ => ?_
  have hall := readAll_withCommas htakes hnil (.inl rfl) hne h rest
  rw [readValue_bracket, List.append_assoc, List.singleton_append,
    readArray_eq htakes hnil (ne_close_of_readAll htakes hnil hclose hall), hall]
  rfl

theorem readsBack_obj {depth : Nat} {members : List Member} (hne : members ≠ [])
    (h : ∀ m ∈ members, ReadsBack (readField (readValue depth)) (m.name, m.value) m.text)
    (hnodup : (members.map Member.name).Nodup) :
    ReadsBack (readValue (depth + 1)) (.obj (members.map fun m => (m.name, m.value)))
      ('\x7b' :: (withCommas (members.map Member.text) ++ ['\x7d'])) := by
  have htakes := takes_readField (takes_readValue depth)
  have hnil := readField_nil (readValue depth)
  have hclose : ∀ more, ∃ stop, readField (readValue depth) ('\x7d' :: more) = .error stop :=
    fun more => ⟨_, rfl⟩
  refine readsBack_of_read (by decide) fun rest _ => ?_
  have hitems : ∀ p ∈ members.map fun m => ((m.name, m.value), m.text),
      ReadsBack (readField (readValue depth)) p.1 p.2 := by simpa using h
  have hall := readAll_withCommas htakes hnil (.inr rfl) (by simpa using hne) hitems rest
  rw [readValue_brace, List.append_assoc, List.singleton_append]
  simp only [List.map_map, Function.comp_def] at hall
  rw [readWritten_eq htakes (ne_close_of_readAll htakes hnil hclose hall), hall]
  have hnodup' : ((members.map fun m => (m.name, m.value)).map Prod.fst).Nodup := by
    simpa [List.map_map, Function.comp_def] using hnodup
  simp only [Except.map, Fields.ofWritten_of_nodup hnodup']

/-- **A value is read back** from each text that writes it, if the reader may open as many
containers as there are in it. -/
theorem Writes.readsBack {depth limit : Nat} {v : Value} {text : List Char}
    (h : Writes depth v text) (hlimit : depth ≤ limit) : ReadsBack (readValue limit) v text := by
  induction h generalizing limit with
  | null => exact readsBack_word limit (by simp)
  | true => exact readsBack_word limit (by simp)
  | false => exact readsBack_word limit (by simp)
  | int _ h => exact readsBack_int limit h
  | str _ h => exact readsBack_str limit h
  | emptyArr _ h =>
    obtain ⟨limit, rfl⟩ := Nat.exists_eq_add_one.2 (Nat.zero_lt_of_lt hlimit)
    exact readsBack_emptyArr limit h
  | arr hne _ ih =>
    obtain ⟨limit, rfl⟩ := Nat.exists_eq_add_one.2 (Nat.zero_lt_of_lt hlimit)
    exact readsBack_arr hne fun item hitem => ih item hitem (Nat.le_of_succ_le_succ hlimit)
  | emptyObj _ h =>
    obtain ⟨limit, rfl⟩ := Nat.exists_eq_add_one.2 (Nat.zero_lt_of_lt hlimit)
    exact readsBack_emptyObj limit h
  | obj hne hnames _ hnodup ih =>
    obtain ⟨limit, rfl⟩ := Nat.exists_eq_add_one.2 (Nat.zero_lt_of_lt hlimit)
    refine readsBack_obj hne (fun m hm => ?_) hnodup
    exact readsBack_field (hnames m hm) (ih m hm (Nat.le_of_succ_le_succ hlimit))
  | padded hbefore _ hbehind ih => exact (ih hlimit).padded hbefore hbehind

/-- **A whole text is read** as the value it writes. -/
theorem Writes.read_eq {depth : Nat} {v : Value} {text : List Char} (h : Writes depth v text)
    (hdepth : depth ≤ maxDepth) (hmark : text.head? ≠ some '\ufeff') :
    read (String.ofList text) = .ok v := by
  obtain ⟨left, hread, hleft⟩ := h.readsBack hdepth [] (fun _ hc => by cases hc)
  rw [List.append_nil] at hread
  have hnil : skipSpace left = [] := hleft
  rw [read_eq_ok, String.toList_ofList, readChars, refuseMark, if_neg hmark]
  simp only [hread, hnil]
  rfl

omit [Spare] in
/-- The text of an object is the object from brace to brace with blanks around it. -/
theorem Writes.exists_object {depth : Nat} {fields : Fields} {text : List Char}
    (h : Writes depth (.obj fields) text) :
    ∃ before object behind, text = before ++ object ++ behind ∧ IsBlanks before ∧
      IsBlanks behind ∧ Writes depth (.obj fields) object ∧ object.head? = some '\x7b' ∧
      EndsInBrace object := by
  generalize hv : Value.obj fields = v at h
  have hblank : IsBlanks [] := List.nil_subset _
  induction h with
  | emptyObj depth h =>
    exact ⟨[], _, [], by simp, hblank, hblank, .emptyObj depth h, rfl,
      .append_brace ('\x7b' :: _)⟩
  | obj hne hnames hvalues hnodup =>
    exact ⟨[], _, [], by simp, hblank, hblank, .obj hne hnames hvalues hnodup, rfl,
      .append_brace ('\x7b' :: _)⟩
  | @padded _ _ before _ behind hbefore _ hbehind ih =>
    obtain ⟨before', object, behind', rfl, hbefore', hbehind', hobject⟩ := ih hv
    refine ⟨before ++ before', object, behind' ++ behind, by simp, ?_, ?_, hobject⟩
    · exact List.append_subset.2 ⟨hbefore, hbefore'⟩
    · exact List.append_subset.2 ⟨hbehind', hbehind⟩
  | _ => cases hv

end CodeReview.Json
