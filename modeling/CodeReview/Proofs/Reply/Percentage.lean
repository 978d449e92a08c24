import CodeReview.Proofs.Json.Layout
import CodeReview.Proofs.Number.Numeral
import CodeReview.Proofs.Number.Whole
import CodeReview.Proofs.Reply.Truncation
import CodeReview.Reply.Architecture

/-!
# Percentages, however they are spelled

A reply states a confidence or a score as a number or in a string.  Services do both, with blanks
around the numeral and percent signs behind it, and one would think that the spelling makes no
difference.  `percentage_spelled` says for every integer and every spelling what percentage it is
taken for.  It is the same integer, brought into the range from 0 to 100, with two exceptions:

* a number beyond binary64 is refused, and the reply with it, where the string of it is a
  percentage like any other (`proposal_refused_for_number`);
* a string that has an information separator (U+001C … U+001F) between the numeral and the percent
  signs, or a blank between two percent signs, is no number at all and counts as 0.

The second is made precise by `IsPercentTail`: behind the numeral stand white space, percent signs
and blanks, in this order.

The two spellings are read in different ways.  A number stays an integer and is compared as one; a
string is read as a real and then truncated.  That they agree rests on what rounding does to an
integer (`Double.truncate?_ofDecimal_of_lt`, `Double.ofDecimal_of_le`): nothing below 2^53, and
above it nothing that brings the number below 100.
-/

set_option autoImplicit false

namespace CodeReview.Reply

open CodeReview.Json CodeReview.Text

/-! ## Reals

A real is clamped as an integer is, once it is truncated; an infinite one is clamped by its sign. -/

theorem toPercent_eq (n : Int) : toPercent n = (max 0 (min 100 n)).toNat := by
  unfold toPercent
  omega

theorem percentOfDouble_of_truncate? {x : Double} {n : Int} (h : x.truncate? = some n) :
    percentOfDouble x = toPercent n := by
  cases x with
  | nan => cases h
  | infinite negative => cases h
  | finite negative m e =>
    show toPercent ((Double.finite negative m e).truncate?.getD 0) = toPercent n
    rw [h, Option.getD_some]

/-- Integers from 100 on are the same percentage as infinity, and so are they below zero. -/
theorem toPercent_of_le {n : Nat} (negative : Bool) (h : 100 ≤ n) :
    toPercent (if negative then -(n : Int) else n) = if negative then 0 else 100 := by
  cases negative <;> simp only [toPercent, if_true, if_neg Bool.false_ne_true] <;> omega

/-- **An integer that is rounded** is the percentage that it is as it stands. -/
theorem percentOfDouble_ofDecimal (n : Int) :
    percentOfDouble (Double.ofDecimal (decide (n < 0)) n.natAbs 0) = toPercent n := by
  have hsigned : (if decide (n < 0) = true then -(n.natAbs : Int) else n.natAbs) = n := by
    simp only [decide_eq_true_eq]
    omega
  by_cases hsmall : n.natAbs < Double.pow2 53
  · rw [percentOfDouble_of_truncate? (Double.truncate?_ofDecimal_of_lt _ hsmall), hsigned]
  · have hlarge : 100 ≤ n.natAbs := Nat.le_trans (by decide) (Nat.not_lt.1 hsmall)
    have hn : toPercent n = if decide (n < 0) = true then 0 else 100 := by
      rw [← toPercent_of_le _ hlarge, hsigned]
    rcases Double.ofDecimal_of_le (decide (n < 0)) (Nat.not_lt.1 hsmall) with hinf | ⟨m, hm, htrunc⟩
    · rw [hinf, hn, percentOfDouble]
    · rw [percentOfDouble_of_truncate? htrunc, toPercent_of_le _ (Nat.le_trans (by decide) hm), hn]

/-! ## Spellings of an integer

`Spelling` has the two ways to spell and `Spelling.percentage` what comes of them, with no reader
in it.  `behindNumeral` computes what the reader is left with behind the numeral, so that
`IsPercentTail` can be decided. -/

/-- White space, then percent signs, then blanks. -/
def IsPercentTail (tail : List Char) : Prop :=
  ∃ gap k trail, tail = gap ++ List.replicate k '%' ++ trail ∧
    (∀ c ∈ gap, isWhiteSpace c = true) ∧ ∀ c ∈ trail, isBlank c = true

/-- What is left of the characters behind a numeral when the blanks and then the percent signs at
the end are dropped. -/
def behindNumeral (tail : List Char) : List Char := dropEndWhile (· == '%') (trimEnd tail)

theorem behindNumeral_subset {gap trail : List Char} (k : Nat) (h : ∀ c ∈ trail, isBlank c = true) :
    behindNumeral (gap ++ List.replicate k '%' ++ trail) ⊆ gap := by
  rw [behindNumeral, trimEnd, Span.dropEndWhile_append_of_all h]
  cases k with
  | zero =>
    rw [List.replicate_zero, List.append_nil]
    exact ((Span.dropEndWhile_isPrefix _ _).trans (Span.dropEndWhile_isPrefix _ _)).subset
  | succ k =>
    have hlast : (gap ++ List.replicate (k + 1) '%').getLast? = some '%' := by
      rw [List.replicate_succ', ← List.append_assoc, List.getLast?_concat]
    have hsigns : ∀ c ∈ List.replicate (k + 1) '%', (c == '%') = true := by
      intro c hc
      rw [List.eq_of_mem_replicate hc]
      rfl
    rw [Span.dropEndWhile_of_getLast? hlast (by decide), Span.dropEndWhile_append_of_all hsigns]
    exact (Span.dropEndWhile_isPrefix _ _).subset

theorem isPercentTail_iff {tail : List Char} :
    IsPercentTail tail ↔ (behindNumeral tail).all isWhiteSpace = true := by
  rw [List.all_eq_true]
  constructor
  · rintro ⟨gap, k, trail, rfl, hgap, htrail⟩ c hc
    exact hgap c (behindNumeral_subset k htrail hc)
  · intro h
    obtain ⟨trail, htail, htrail⟩ := Span.exists_run isBlank tail
    obtain ⟨signs, hhead, hsigns⟩ := Span.exists_run (· == '%') (trimEnd tail)
    have hrun : signs = List.replicate signs.length '%' :=
      List.eq_replicate_of_mem fun c hc => beq_iff_eq.1 (hsigns c hc)
    refine ⟨behindNumeral tail, signs.length, trail, ?_, h, htrail⟩
    rw [← hrun, behindNumeral, ← hhead]
    exact htail

instance (tail : List Char) : Decidable (IsPercentTail tail) :=
  decidable_of_iff _ isPercentTail_iff.symm

/-- How a reply spells an integer: as a number, or in a string by its numeral, with something
before and behind it. -/
inductive Spelling where
  | number
  | quoted (lead tail : List Char)
  deriving Repr, DecidableEq

namespace Spelling

/-- The value that spells an integer. -/
def value (n : Int) : Spelling → Value
  | number => .int n
  | quoted lead tail => .str (String.ofList (lead ++ (toString n).toList ++ tail))

/-- Only blanks stand before the numeral, and blanks and percent signs behind it. -/
def IsPlain : Spelling → Prop
  | number => True
  | quoted lead tail => (∀ c ∈ lead, isBlank c = true) ∧ ∀ c ∈ tail, isBlank c = true ∨ c = '%'

/-- The percentage that an integer is taken for: the integer brought into the range from 0 to 100,
unless it is a number that is too large or hidden in its string. -/
def percentage (n : Int) : Spelling → Except Fault Nat
  | number =>
    if Double.overflowedBy n then .error .numberTooLarge else .ok (max 0 (min 100 n)).toNat
  | quoted _ tail => .ok (if IsPercentTail tail then (max 0 (min 100 n)).toNat else 0)

end Spelling

theorem percent_quoted (n : Int) {lead tail : List Char} (hlead : ∀ c ∈ lead, isBlank c = true)
    (htail : ∀ c ∈ tail, isBlank c = true ∨ c = '%') :
    percent (.str (String.ofList (lead ++ (toString n).toList ++ tail)))
      = .ok (if IsPercentTail tail then toPercent n else 0) := by
  obtain ⟨d, hlast, hd⟩ := Numeral.getLast?_toString n
  have hsign : (d == '%') = false := by
    rw [beq_eq_false_iff_ne]
    rintro rfl
    cases hd
  have htrim :
      trim (lead ++ (toString n).toList ++ tail) = (toString n).toList ++ trimEnd tail := by
    rw [List.append_assoc, trim, trimBy, List.dropWhile_append_of_pos hlead]
    exact Numeral.trimBy_toString (fun c hc => Numeral.isBlank_of_mem_toString hc) tail
  have hbehind : ∀ c ∈ behindNumeral tail, isBlank c = true ∨ c = '%' := fun c hc =>
    htail c (((Span.dropEndWhile_isPrefix _ _).trans (Span.dropEndWhile_isPrefix _ _)).subset hc)
  have hdrop : dropEndWhile (· == '%') ((toString n).toList ++ trimEnd tail)
      = (toString n).toList ++ behindNumeral tail := Span.dropEndWhile_append hlast hsign _
  simp only [percent, String.toList_ofList, htrim, hdrop, Numeral.readDouble?_toString n hbehind,
    isPercentTail_iff, Except.ok.injEq]
  split
  · exact percentOfDouble_ofDecimal n
  · rfl

/-- **A spelling is taken for its percentage.** -/
theorem percent_value (n : Int) {spelling : Spelling} (h : spelling.IsPlain) :
    percent (spelling.value n) = spelling.percentage n := by
  cases spelling with
  | number => rw [Spelling.value, Spelling.percentage, percent, toPercent_eq]
  | quoted lead tail =>
    rw [Spelling.value, Spelling.percentage, percent_quoted n h.1 h.2, toPercent_eq]

/-! ## Replies

The two fields are read by the same function, so the proof is one.  `Carries` gives the statement
replies to be about: every reply that writes an object with prose before it is loaded as that
object. -/

/-- A character that needs no escape in a string. -/
def isBare (c : Char) : Bool := c != '"' && c != '\\' && 0x20 ≤ c.toNat

/-- A string of such characters is written between quotes as it is. -/
theorem writesString_of_isBare {s : String} (h : s.toList.all isBare = true) :
    WritesString s ('"' :: s.toList ++ ['"']) := by
  have hchars : List.Forall₂ WritesChar s.toList (s.toList.map fun c => [c]) := by
    rw [List.forall₂_map_right_iff, List.forall₂_same]
    intro c hc
    obtain ⟨⟨hquote, hslash⟩, hcontrol⟩ :
        (c ≠ '"' ∧ c ≠ '\\') ∧ 0x20 ≤ c.toNat := by
      simpa [isBare] using List.all_eq_true.1 h c hc
    exact .raw hquote hslash hcontrol
  have hwrites := WritesString.mk hchars
  rwa [String.ofList_toList, ← List.flatMap_def, List.flatMap_singleton'] at hwrites

theorem writesInt_toString {n : Int}
    (h : (Nat.toDigits 10 n.natAbs).length ≤ Numeral.maxDigits) :
    WritesInt n (toString n).toList := by
  rw [Numeral.toList_toString]
  cases n with
  | ofNat n =>
    have hpos : ¬ Int.ofNat n < 0 := Int.not_lt.2 (Int.natCast_nonneg n)
    rw [if_neg hpos]
    exact .plain n h
  | negSucc n =>
    rw [if_pos (Int.negSucc_lt_zero n)]
    exact .minus (n + 1) h

variable [Spare]

/-- The reply is an object with these fields, in any layout, behind prose or none. -/
inductive Carries : String → Fields → Prop where
  | mk {prose text : String} {depth : Nat} {fields : Fields} (hprose : '\x7b' ∉ prose.toList)
      (h : Writes depth (.obj fields) text.toList) (hdepth : depth ≤ maxDepth) :
      Carries (prose ++ text) fields

/-- A reply that is an object with one field. -/
theorem carries_field {name text : String} (h : name.toList.all isBare = true) {v : Value}
    (hv : Writes 0 v text.toList) :
    Carries ("\x7b\"" ++ name ++ "\":" ++ text ++ "\x7d") [(name, v)] := by
  have hname : WritesName name ('"' :: name.toList ++ ['"']) := by
    have hbare := WritesName.mk (List.nil_subset _) (writesString_of_isBare h) (List.nil_subset _)
    rwa [List.nil_append, List.append_nil] at hbare
  have hobject := @Writes.obj 0 [⟨name, v, _, text.toList⟩] (List.cons_ne_nil _ _)
    (List.forall_mem_singleton.2 hname) (List.forall_mem_singleton.2 hv) (by simp)
  have htext : ("\x7b\"" ++ name ++ "\":" ++ text ++ "\x7d").toList
      = '\x7b' :: (withCommas ([(⟨name, v, '"' :: name.toList ++ ['"'], text.toList⟩ :
        Member)].map Member.text) ++ ['\x7d']) := by
    simp [withCommas, Member.text]
  have hdepth : 1 ≤ maxDepth := le_maxDepth (by decide)
  have hcarries := @Carries.mk _ "" _ 1 _ (by simp) (htext ▸ hobject) hdepth
  rwa [String.empty_append] at hcarries

/-- A reply that states a confidence as a number. -/
theorem carries_number {n : Int} (h : (Nat.toDigits 10 n.natAbs).length ≤ Numeral.maxDigits) :
    Carries ("\x7b\"confidence\":" ++ toString n ++ "\x7d") [("confidence", .int n)] :=
  @carries_field _ "confidence" (toString n) (by decide) _ (.int 0 (writesInt_toString h))

/-- A reply that states a confidence in a string. -/
theorem carries_quoted (n : Int) :
    Carries ("\x7b\"confidence\":\"" ++ toString n ++ "\"\x7d")
      [("confidence", .str (toString n))] := by
  have hbare : (toString n).toList.all isBare = true := by
    rw [List.all_eq_true]
    intro c hc
    have hrange := Numeral.toNat_of_mem_toString hc
    have hquote : c ≠ '"' := by
      rintro rfl
      exact absurd hrange (by decide)
    have hslash : c ≠ '\\' := by
      rintro rfl
      exact absurd hrange (by decide)
    have hcontrol : 0x20 ≤ c.toNat := by omega
    simp [isBare, hquote, hslash, hcontrol]
  have hstring : Writes 0 (.str (toString n)) ("\"" ++ toString n ++ "\"").toList := by
    have hwrites := Writes.str 0 (writesString_of_isBare hbare)
    rwa [String.toList_append, String.toList_append]
  have hcarries := @carries_field _ "confidence" _ (by decide) _ hstring
  rwa [← String.append_assoc, ← String.append_assoc, @String.append_assoc _ _ "\x7d"] at hcarries

/-- What a reply carries is loaded. -/
theorem Carries.result_load {reply : String} {fields : Fields} (h : Carries reply fields) :
    (load reply).result = .ok (some fields) := by
  obtain @⟨prose, text, depth, fields, hprose, h, hdepth⟩ := h
  have hmark : text.toList.head? ≠ some '\ufeff' := by
    obtain ⟨blanks, object, blanks', hsplit, hblanks, -, -, hstart, -⟩ := h.exists_object
    rw [hsplit]
    cases blanks with
    | nil => simp [hstart]
    | cons c blanks =>
      rintro ⟨rfl⟩
      exact absurd (hblanks List.mem_cons_self) (by decide)
  have hread := h.read_eq hdepth hmark
  rw [String.ofList_toList] at hread
  exact result_load_eq_some hprose hread

theorem result_readArchitecture_of_load {reply : String} {fields : Fields}
    (h : (load reply).result = .ok (some fields)) :
    (readArchitecture reply).result = (qualityOf (fields.get? "overallQuality")).map
      (architectureOf fields) := by
  rw [readArchitecture, result_bind, h]
  simp only [Except.bind, result_bind, Reading.ofExcept]
  cases qualityOf (fields.get? "overallQuality") <;> rfl

omit [Spare] in
theorem qualityOf_value (n : Int) {spelling : Spelling} (h : spelling.IsPlain) :
    qualityOf (some (spelling.value n)) = (spelling.percentage n).map fun k => some (k : Int) := by
  rw [← percent_value n h]
  cases spelling <;> rfl

/-- **A percentage does not depend on how its number is spelled,** but for a number that is too
large and a string that hides it (`Spelling.percentage`).  An integer as a number and its numeral
in a string, with blanks around it and percent signs behind it, are the same confidence in a
proposal and the same score in a review.  This is so for every reply that is loaded as an object,
as every reply is that carries one. -/
theorem percentage_spelled (n : Int) {spelling : Spelling} (h : spelling.IsPlain) :
    (∀ reply fields, Carries reply fields → (load reply).result = .ok (some fields)) ∧
    ∀ reply fields, (load reply).result = .ok (some fields) →
      (fields.get? "confidence" = some (spelling.value n) → ∀ before,
        (readProposal reply before).result
          = (spelling.percentage n).map (proposalOf before fields)) ∧
      (fields.get? "overallQuality" = some (spelling.value n) →
        (readArchitecture reply).result
          = (spelling.percentage n).map fun k => architectureOf fields (some (k : Int))) := by
  refine ⟨fun reply fields hcarries => hcarries.result_load, fun reply fields hload => ⟨?_, ?_⟩⟩
  · intro hconfidence before
    rw [result_readProposal_of_load before hload, Option.elim_some, hconfidence, Option.getD_some,
      percent_value n h]
  · intro hquality
    rw [result_readArchitecture_of_load hload, hquality, qualityOf_value n h]
    cases spelling.percentage n <;> rfl

omit [Spare] in
/-- A blank stands before the numeral, and another one between it and the percent sign. -/
theorem percentage_spelled_quoted :
    letI : Spare := ⟨0⟩
    let spelling : Spelling := .quoted [' '] [' ', '%']
    let proposed := "\x7b\"confidence\":\" 85 %\"\x7d"
    let reviewed := "\x7b\"overallQuality\":\" 85 %\"\x7d"
    spelling.IsPlain ∧
      Carries proposed [("confidence", spelling.value 85)] ∧
      Carries reviewed [("overallQuality", spelling.value 85)] ∧
      (readProposal proposed "old").result = .ok ⟨"old", "old", "No explanation provided", 85⟩ ∧
      (readArchitecture reviewed).result = .ok ⟨some 85, [], [], []⟩ := by
  let : Spare := ⟨0⟩
  intro spelling proposed reviewed
  have hplain : spelling.IsPlain :=
    ⟨List.forall_mem_singleton.2 rfl,
      List.forall_mem_cons.2 ⟨.inl rfl, List.forall_mem_singleton.2 (.inr rfl)⟩⟩
  have hvalue : Writes 0 (spelling.value 85) "\" 85 %\"".toList :=
    .str 0 (@writesString_of_isBare " 85 %" (by decide))
  have hproposed : Carries proposed [("confidence", spelling.value 85)] :=
    @carries_field _ "confidence" _ (by decide) _ hvalue
  have hreviewed : Carries reviewed [("overallQuality", spelling.value 85)] :=
    @carries_field _ "overallQuality" _ (by decide) _ hvalue
  obtain ⟨hload, hread⟩ := percentage_spelled 85 hplain
  refine ⟨hplain, hproposed, hreviewed, ?_, ?_⟩
  · exact (hread proposed _ (hload _ _ hproposed)).1 rfl "old"
  · exact (hread reviewed _ (hload _ _ hreviewed)).2 rfl

omit [Spare] in
/-- **A confidence that depends on its spelling.**  The integer has 309 digits: as a number it is
refused, and the proposal with it; in a string it is a confidence of 100. -/
theorem proposal_refused_for_number :
    letI : Spare := ⟨0⟩
    let n : Int := Double.pow10 309 - 1
    let number := "\x7b\"confidence\":" ++ toString n ++ "\x7d"
    let quoted := "\x7b\"confidence\":\"" ++ toString n ++ "\"\x7d"
    (Nat.toDigits 10 n.natAbs).length ≤ Numeral.maxDigits ∧
      Carries number [("confidence", .int n)] ∧ Carries quoted [("confidence", .str (toString n))] ∧
      (readProposal number "old").result = .error .numberTooLarge ∧
      (readProposal quoted "old").result = .ok ⟨"old", "old", "No explanation provided", 100⟩ := by
  let : Spare := ⟨0⟩
  intro n number quoted
  have hlength : (Nat.toDigits 10 n.natAbs).length ≤ Numeral.maxDigits := by
    rw [Nat.length_toDigits_le_iff (by decide) (by decide)]
    decide +kernel
  have hover : Double.overflowedBy n = true := by decide +kernel
  have hlarge : 100 ≤ n := by decide +kernel
  -- what follows is true of every such integer, and must not compute with this one
  clear_value n
  have hnumber : Carries number [("confidence", .int n)] := carries_number hlength
  have hquoted : Carries quoted [("confidence", .str (toString n))] := carries_quoted n
  refine ⟨hlength, hnumber, hquoted, ?_, ?_⟩
  · have hrefused : percent (.int n) = .error .numberTooLarge := by rw [percent, if_pos hover]
    rw [result_readProposal_of_load "old" hnumber.result_load, Option.elim_some]
    exact congrArg (Except.map _) hrefused
  · have hsure : percent (.str (toString n)) = .ok 100 := by
      have hspelled := percent_quoted n (List.forall_mem_nil _) (List.forall_mem_nil _)
      have htop : toPercent n = 100 := by
        unfold toPercent
        omega
      rwa [List.nil_append, List.append_nil, String.ofList_toList, if_pos (by decide), htop]
        at hspelled
    rw [result_readProposal_of_load "old" hquoted.result_load, Option.elim_some]
    exact congrArg (Except.map _) hsure

end CodeReview.Reply
