import CodeReview.Json.Writer
import CodeReview.Proofs.Json.Layout
import CodeReview.Proofs.Number.Numeral
import Mathlib.Data.Bool.AllAny

/-!
# What is written is read

The writer picks one text for each value and layout.  That text writes the value in the sense of
`Writes` (`Value.Bounded.writes_chars`), so all that is known of such texts holds for it, and with
nothing proved anew it is read as the value (`Value.Bounded.read_chars`).

`Value.Bounded depth` are the values for which this can be: none of the limits of the reader is met
in them, no name stands twice in an object, and there are no reals.  It is a condition on values,
to be checked by `simp` for a value that is given; so there is an equation for each constructor.

What takes work is that the writer and `Writes` divide blanks differently.  The writer puts a line
end and an indent before each item, and before the closing bracket; `Writes` has texts with commas
between them, each with its blanks around it.  `exists_withCommas` passes from one to the other,
for items and fields alike.
## What is here

* `Value.Bounded` — the values, with a `simp` lemma for each constructor;
* `writesString_literal`, `writesInt_toString` — the texts of the leaves;
* `count_literal` — the brackets of a literal are those of its string, for whoever counts brackets;
* `exists_withCommas`, `exists_members` — from the blanks of a layout to those of `Writes`;
* `Value.Bounded.writes_chars`, `Value.Bounded.read_chars` — the text of a value writes it, and
  that of an object is read as the object.
-/

set_option autoImplicit false

namespace CodeReview.Json

open CodeReview.Text

/-! ## Values within the limits

The depth counts containers from the outside, as the reader does. -/

/-- The integer has no more digits than are read. -/
def IsShort (n : Int) : Prop := (Nat.toDigits 10 n.natAbs).length ≤ Numeral.maxDigits

instance (n : Int) : Decidable (IsShort n) := inferInstanceAs (Decidable (_ ≤ _))

/-- The value has short integers and no reals, no name twice in an object, and at most `depth`
containers inside one another. -/
inductive Value.Bounded : (depth : Nat) → Value → Prop where
  | null (depth : Nat) : Bounded depth .null
  | bool (depth : Nat) (b : Bool) : Bounded depth (.bool b)
  | int (depth : Nat) {n : Int} (h : IsShort n) : Bounded depth (.int n)
  | str (depth : Nat) (s : String) : Bounded depth (.str s)
  | arr {depth : Nat} {items : List Value} (hitems : ∀ v ∈ items, Bounded depth v) :
      Bounded (depth + 1) (.arr items)
  | obj {depth : Nat} {fields : Fields} (hnodup : (fields.map Prod.fst).Nodup)
      (hvalues : ∀ f ∈ fields, Bounded depth f.2) : Bounded (depth + 1) (.obj fields)

namespace Value

variable {depth : Nat}

@[simp] theorem bounded_null : Bounded depth .null := .null depth

@[simp] theorem bounded_bool (b : Bool) : Bounded depth (.bool b) := .bool depth b

@[simp] theorem bounded_str (s : String) : Bounded depth (.str s) := .str depth s

@[simp] theorem bounded_int_iff {n : Int} : Bounded depth (.int n) ↔ IsShort n :=
  ⟨fun h => by cases h; assumption, .int depth⟩

@[simp] theorem bounded_arr_iff {items : List Value} :
    Bounded (depth + 1) (.arr items) ↔ ∀ v ∈ items, Bounded depth v :=
  ⟨fun h => by cases h; assumption, .arr⟩

@[simp] theorem bounded_obj_iff {fields : Fields} :
    Bounded (depth + 1) (.obj fields) ↔
      (fields.map Prod.fst).Nodup ∧ ∀ f ∈ fields, Bounded depth f.2 :=
  ⟨fun h => by cases h; exact ⟨‹_›, ‹_›⟩, fun h => .obj h.1 h.2⟩

end Value

/-! ## Strings and integers

Of the ways to write a character the writer uses three: as it stands, a letter behind a backslash,
or the digits of a unit for other control characters. -/

theorem isHexDigit_hexDigit (n : Nat) : IsHexDigit (hexDigit n) (n % 16) :=
  ⟨Nat.mod_lt n (by decide), .inl rfl⟩

theorem writesUnit_hexDigits {n : Nat} (h : n < 0x10000) : WritesUnit (hexDigits 4 n) n := by
  have hunit := WritesUnit.mk (isHexDigit_hexDigit (n / 16 / 16 / 16))
    (isHexDigit_hexDigit (n / 16 / 16)) (isHexDigit_hexDigit (n / 16)) (isHexDigit_hexDigit n)
  have hn : ((n / 16 / 16 / 16 % 16 * 16 + n / 16 / 16 % 16) * 16 + n / 16 % 16) * 16 + n % 16
      = n := by omega
  rwa [hn] at hunit

theorem writesChar_literalChar (c : Char) : WritesChar c (literalChar c) := by
  have hletters : ∀ p ∈ escapeLetters, WritesChar p.1 ['\\', p.2] := fun p hp => .letter hp
  rw [literalChar]
  split
  · rename_i h
    rcases h with rfl | rfl
    · exact hletters ('"', '"') (by decide)
    · exact hletters ('\\', '\\') (by decide)
  · rename_i hplain
    rw [not_or] at hplain
    split_ifs with hn hr ht hb hf hcontrol
    · exact hn ▸ hletters ('\n', 'n') (by decide)
    · exact hr ▸ hletters ('\r', 'r') (by decide)
    · exact ht ▸ hletters ('\t', 't') (by decide)
    · exact hb ▸ hletters ('\x08', 'b') (by decide)
    · exact hf ▸ hletters ('\x0c', 'f') (by decide)
    · exact .unit (writesUnit_hexDigits (by omega))
    · exact .raw hplain.1 hplain.2 (Nat.not_lt.1 hcontrol)

/-- **The literal of a string writes it,** whatever the string. -/
theorem writesString_literal (s : String) : WritesString s (literal s) := by
  have hchars : List.Forall₂ WritesChar s.toList (s.toList.map literalChar) := by
    rw [List.forall₂_map_right_iff, List.forall₂_same]
    exact fun c _ => writesChar_literalChar c
  have h := WritesString.mk hchars
  rwa [String.ofList_toList, ← List.flatMap_def] at h

theorem writesInt_toString {n : Int} (h : IsShort n) : WritesInt n (toString n).toList := by
  rw [Numeral.toList_toString]
  split
  · rename_i hn
    have hneg := WritesInt.minus n.natAbs h
    rwa [show -(n.natAbs : Int) = n by omega] at hneg
  · rename_i hn
    have hpos := WritesInt.plain n.natAbs h
    rwa [show (n.natAbs : Int) = n by omega] at hpos

/-! ## Brackets in literals

The repair counts brackets in the whole text, those in strings too.  A literal has as many of them
as its string, since none is escaped and no escape has one in it. -/

section Brackets

variable {c : Char} (hc : c ∈ ['\x7b', '\x7d', '[', ']'])

include hc

theorem hexDigit_ne_bracket (n : Nat) : hexDigit n ≠ c := by
  have hnone : ∀ d < 16, Nat.digitChar d ∉ ['\x7b', '\x7d', '[', ']'] := by decide
  rintro rfl
  exact hnone _ (Nat.mod_lt n (by decide)) hc

theorem not_mem_hexDigits (count n : Nat) : c ∉ hexDigits count n := by
  induction count generalizing n with
  | zero => exact List.not_mem_nil
  | succ count ih =>
    rw [hexDigits, List.mem_append, List.mem_singleton, not_or]
    exact ⟨ih _, (hexDigit_ne_bracket hc n).symm⟩

/-- A bracket stands for itself, and no other character is written with one. -/
theorem count_literalChar (d : Char) : (literalChar d).count c = [d].count c := by
  by_cases hd : d = c
  · have hself : ∀ e ∈ ['\x7b', '\x7d', '[', ']'], literalChar e = [e] :=
      List.all_iff_forall_prop.1 (by decide)
    rw [hd, hself c hc]
  · have hescape : ∀ e ∈ ['\\', 'u', 'n', 'r', 't', 'b', 'f'], c ≠ e := by
      have hplain : ∀ e ∈ ['\\', 'u', 'n', 'r', 't', 'b', 'f'],
          e ∉ ['\x7b', '\x7d', '[', ']'] := List.all_iff_forall_prop.1 (by decide)
      rintro e he rfl
      exact hplain c he hc
    have hnone : c ∉ literalChar d := by
      rw [literalChar]
      split_ifs <;> simp [hescape, Ne.symm hd, not_mem_hexDigits hc]
    rw [List.count_eq_zero.2 hnone, List.count_singleton, if_neg (by simpa using hd)]

/-- **A literal has the brackets of its string.** -/
theorem count_literal (s : String) : (literal s).count c = s.toList.count c := by
  have hquote : '"' ≠ c := by
    rintro rfl
    exact absurd hc (by decide)
  rw [literal, List.cons_append, List.count_cons_of_ne hquote, List.count_append,
    List.count_singleton, if_neg (by simpa using hquote), Nat.add_zero]
  induction s.toList with
  | nil => rfl
  | cons d cs ih => rw [List.flatMap_cons, List.count_append, ih, count_literalChar hc,
      ← List.count_append, List.singleton_append]

end Brackets

/-! ## Blanks of a layout

All that a layout puts between tokens is blanks. -/

theorem isBlanks_newline (n : Nat) : IsBlanks ('\n' :: List.replicate n ' ') := by
  intro c hc
  rcases List.mem_cons.1 hc with rfl | hc
  · decide
  · rw [List.eq_of_mem_replicate hc]
    decide

namespace Layout

variable (layout : Layout) (level : Nat)

theorem isBlanks_edge : IsBlanks (layout.edge level) := by
  rw [edge]
  split
  · exact List.nil_subset _
  · exact isBlanks_newline _

theorem isBlanks_behindColon : IsBlanks layout.behindColon := by
  rw [behindColon]
  split <;> decide

theorem isBlanks_behindComma : IsBlanks (layout.behindComma level) := by
  rw [behindComma]
  split
  · exact layout.isBlanks_behindColon
  · exact isBlanks_newline _

end Layout

/-! ## Containers

The first item or field has its blanks from the opening bracket, the others from their commas, and
the last one also those before the closing bracket. -/

/-- A field on one line with its value. -/
def fieldChars (layout : Layout) (level : Nat) (f : String × Value) : List Char :=
  literal f.1 ++ ':' :: layout.behindColon ++ f.2.chars layout level

theorem itemsChars_eq (layout : Layout) (level : Nat) (vs : List Value) :
    itemsChars layout level vs
      = vs.flatMap fun v => ',' :: layout.behindComma level ++ v.chars layout level := by
  induction vs with
  | nil => rfl
  | cons v vs ih => rw [itemsChars, ih, List.flatMap_cons]

theorem fieldsChars_eq (layout : Layout) (level : Nat) (fields : Fields) :
    fieldsChars layout level fields
      = fields.flatMap fun f => ',' :: layout.behindComma level ++ fieldChars layout level f := by
  induction fields with
  | nil => rfl
  | cons f fields ih =>
    rw [fieldsChars, ih, List.flatMap_cons, fieldChars]
    simp

section Parts

variable {α : Type} {IsText : α → List Char → Prop} {text : α → List Char}
  {before between behind : List Char}

/-- What the writer puts between two brackets is texts with commas between them: the first part
takes the blanks behind the opening bracket, each further one those behind its comma, and the last
one those before the closing bracket. -/
theorem exists_withCommas
    (hpad : ∀ {a before t behind}, IsBlanks before → IsText a t → IsBlanks behind →
      IsText a (before ++ t ++ behind))
    (hbetween : IsBlanks between) (hbehind : IsBlanks behind) (hbefore : IsBlanks before) {a : α}
    {as : List α} (htext : ∀ b ∈ a :: as, IsText b (text b)) :
    ∃ texts : List (α × List Char), texts.map Prod.fst = a :: as ∧
      (∀ p ∈ texts, IsText p.1 p.2) ∧
      withCommas (texts.map Prod.snd)
        = before ++ text a ++ (as.flatMap fun b => ',' :: between ++ text b) ++ behind := by
  have ha := htext a List.mem_cons_self
  induction as generalizing a before with
  | nil => exact ⟨[(a, before ++ text a ++ behind)], rfl, by simpa using hpad hbefore ha hbehind,
      by simp [withCommas]⟩
  | cons b as ih =>
    have htext' := fun c hc => htext c (List.mem_cons_of_mem a hc)
    obtain ⟨texts, hfst, htexts, hcommas⟩ := ih hbetween htext' (htext' b List.mem_cons_self)
    have hne : texts.map Prod.snd ≠ [] := by
      intro hnil
      rw [List.map_eq_nil_iff.1 hnil] at hfst
      cases hfst
    have ha' := hpad hbefore ha (List.nil_subset _)
    refine ⟨(a, before ++ text a ++ []) :: texts, by rw [List.map_cons, hfst],
      List.forall_mem_cons.2 ⟨ha', htexts⟩, ?_⟩
    rw [withCommas, List.map_cons, List.intercalate_cons_of_ne_nil hne, ← withCommas, hcommas]
    simp

end Parts

/-- A text of a name, a colon, and a text of a value. -/
def WritesField (depth : Nat) (f : String × Value) (text : List Char) : Prop :=
  ∃ nameText valueText, text = nameText ++ ':' :: valueText ∧ WritesName f.1 nameText ∧
    Writes depth f.2 valueText

namespace WritesField

variable {depth : Nat} {f : String × Value} {before text behind : List Char}

theorem padded (hbefore : IsBlanks before) (h : WritesField depth f text)
    (hbehind : IsBlanks behind) : WritesField depth f (before ++ text ++ behind) := by
  obtain ⟨nameText, valueText, rfl, @⟨before', name, behind', hbefore', hname, hbehind'⟩,
    hvalue⟩ := h
  have hname' : WritesName f.1 ((before ++ before') ++ name ++ behind') :=
    .mk (List.append_subset.2 ⟨hbefore, hbefore'⟩) hname hbehind'
  have hvalue' : Writes depth f.2 ([] ++ valueText ++ behind) :=
    .padded (List.nil_subset _) hvalue hbehind
  exact ⟨_, _, by simp, hname', hvalue'⟩

/-- Fields with their texts are members. -/
theorem exists_members {texts : List ((String × Value) × List Char)}
    (h : ∀ p ∈ texts, WritesField depth p.1 p.2) :
    ∃ members : List Member, (members.map fun m => (m.name, m.value)) = texts.map Prod.fst ∧
      members.map Member.text = texts.map Prod.snd ∧
      (∀ m ∈ members, WritesName m.name m.nameText) ∧
      ∀ m ∈ members, Writes depth m.value m.valueText := by
  induction texts with
  | nil => exact ⟨[], rfl, rfl, by simp, by simp⟩
  | cons p texts ih =>
    obtain ⟨⟨nameText, valueText, htext, hname, hvalue⟩, hmore⟩ := List.forall_mem_cons.1 h
    obtain ⟨members, hfields, htexts, hnames, hvalues⟩ := ih hmore
    refine ⟨⟨p.1.1, p.1.2, nameText, valueText⟩ :: members, ?_, ?_,
      List.forall_mem_cons.2 ⟨hname, hnames⟩, List.forall_mem_cons.2 ⟨hvalue, hvalues⟩⟩
    · rw [List.map_cons, hfields, List.map_cons]
    · rw [List.map_cons, htexts, List.map_cons, htext]
      rfl

end WritesField

theorem writes_arr {depth : Nat} {items : List Value} (layout : Layout) (level : Nat)
    (h : ∀ v ∈ items, Writes depth v (v.chars layout (level + 1))) :
    Writes (depth + 1) (.arr items) (Value.chars layout level (.arr items)) := by
  cases items with
  | nil => exact .emptyArr depth (List.nil_subset _)
  | cons v vs =>
    obtain ⟨texts, hfst, htexts, hcommas⟩ := exists_withCommas .padded
      (layout.isBlanks_behindComma (level + 1)) (layout.isBlanks_edge level)
      (layout.isBlanks_edge (level + 1)) h
    have hne : texts ≠ [] := by
      rintro rfl
      cases hfst
    have harr := Writes.arr hne htexts
    rw [hfst, hcommas] at harr
    simpa [Value.chars, itemsChars_eq] using harr

theorem writes_obj {depth : Nat} {fields : Fields} (hnodup : (fields.map Prod.fst).Nodup)
    (layout : Layout) (level : Nat)
    (h : ∀ f ∈ fields, Writes depth f.2 (f.2.chars layout (level + 1))) :
    Writes (depth + 1) (.obj fields) (Value.chars layout level (.obj fields)) := by
  cases fields with
  | nil => exact .emptyObj depth (List.nil_subset _)
  | cons f fields =>
    have hfield : ∀ g ∈ f :: fields, WritesField depth g (fieldChars layout (level + 1) g) := by
      intro g hg
      have hname : WritesName g.1 ([] ++ literal g.1 ++ []) :=
        .mk (List.nil_subset _) (writesString_literal g.1) (List.nil_subset _)
      have hvalue : Writes depth g.2 (layout.behindColon ++ g.2.chars layout (level + 1) ++ []) :=
        .padded layout.isBlanks_behindColon (h g hg) (List.nil_subset _)
      exact ⟨_, _, by simp [fieldChars], hname, hvalue⟩
    obtain ⟨texts, hfst, htexts, hcommas⟩ := exists_withCommas .padded
      (layout.isBlanks_behindComma (level + 1)) (layout.isBlanks_edge level)
      (layout.isBlanks_edge (level + 1)) hfield
    obtain ⟨members, hfields, hmembers, hnames, hvalues⟩ := WritesField.exists_members htexts
    rw [hfst] at hfields
    have hne : members ≠ [] := by
      rintro rfl
      cases hfields
    have hnodup' : (members.map Member.name).Nodup := by
      have hmap := congrArg (List.map Prod.fst) hfields
      rw [List.map_map] at hmap
      exact hmap ▸ hnodup
    have hobj := Writes.obj hne hnames hvalues hnodup'
    rw [hfields, hmembers, hcommas] at hobj
    simpa [Value.chars, fieldsChars_eq, fieldChars] using hobj

/-! ## Values

The recursion is that of the writer, with the level of indentation free. -/

namespace Value.Bounded

variable {depth : Nat} {v : Value}

/-- **The text of a value writes it,** in every layout. -/
theorem writes_chars (h : v.Bounded depth) (layout : Layout) (level : Nat) :
    Writes depth v (v.chars layout level) := by
  induction h generalizing level with
  | null depth => exact .null depth
  | bool depth b => cases b with
    | false => exact .false depth
    | true => exact .true depth
  | int depth h => exact .int depth (writesInt_toString h)
  | str depth s => exact .str depth (writesString_literal s)
  | arr _ ih => exact writes_arr layout level fun v hv => ih v hv (level + 1)
  | obj hnodup _ ih => exact writes_obj hnodup layout level fun f hf => ih f hf (level + 1)

end Value.Bounded

/-- An object is written from brace to brace. -/
theorem exists_chars_obj (fields : Fields) (layout : Layout) (level : Nat) :
    ∃ inner, (Value.obj fields).chars layout level = '\x7b' :: inner ++ ['\x7d'] := by
  cases fields with
  | nil => exact ⟨[], rfl⟩
  | cons f fields => exact ⟨_, rfl⟩

/-- **An object that is written** is read as the object. -/
theorem Value.Bounded.read_chars [Spare] {depth : Nat} {fields : Fields}
    (h : (Value.obj fields).Bounded depth) (hdepth : depth ≤ maxDepth) (layout : Layout)
    (level : Nat) :
    read (String.ofList ((Value.obj fields).chars layout level)) = .ok (.obj fields) := by
  obtain ⟨inner, hchars⟩ := exists_chars_obj fields layout level
  exact (h.writes_chars layout level).read_eq hdepth (by simp [hchars])

end CodeReview.Json
