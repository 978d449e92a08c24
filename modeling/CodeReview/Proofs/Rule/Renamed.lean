import CodeReview.Proofs.Rule.Spelling

/-!
# What a rewritten line still shows

Where a whole word `var` becomes `const`, every pattern but those of that word sees the same.  One
would like to say that this is clear, as neither word has anything to do with the others that rules
look for.  But a pattern looks at characters and not at words: it might read its own word into the
new one, out of it, or beginning within it; and some patterns skip over text until they come to a
sign.

`Overlooks` has what is needed of a pattern, one field for each of these: it does not tell apart
two texts that differ in this word (`renamed`), is not found at a place within either (`within`),
and does not mind which of the two stands before it (`behind`).  Then it is found in both lines or
in neither (`Overlooks.inLine_varToConst`).  For the patterns of a review the fields are checked
one after the other; and the rewritten line is a line comment if the line was one.

The two lines are compared from any place on (`Renamed`), and every way to read on keeps them
comparable.
## What is here

* `Renamed` — the relation of the two texts, at a place before, at or behind the word;
* `isApart`, `Renamed.afterBy` — reading a word that has nothing in common with either;
* `Renamed.dropWhile_of_stop`, `Renamed.startsWithChar` — reading on behind it;
* `Overlooks`, `Overlooks.somewhere_eq` — patterns that see the same in both;
* `overlooks_evalCall` and its like — the patterns of a review, one by one;
* `isLineComment_varToConst` — the rewritten line is a comment if the line was one.
-/

set_option autoImplicit false

namespace CodeReview.Rule

open CodeReview.Text Pattern

/-- Two texts that agree, or in one of which a `var` at the end of a word is a `const`. -/
inductive Renamed : List Char → List Char → Prop
  | same (cs : List Char) : Renamed cs cs
  | word {rest : List Char} (h : closesWord rest = true) :
      Renamed ('v' :: 'a' :: 'r' :: rest) ('c' :: 'o' :: 'n' :: 's' :: 't' :: rest)
  | cons (c : Char) {cs cs' : List Char} (h : Renamed cs cs') : Renamed (c :: cs) (c :: cs')

theorem Renamed.append {cs cs' : List Char} (front : List Char) (h : Renamed cs cs') :
    Renamed (front ++ cs) (front ++ cs') := by
  induction front with
  | nil => exact h
  | cons c front ih => exact ih.cons c

/-! ## Reading a word

That a word cannot be read across the changed place is decided letter by letter: from each of its
letters on it differs from `var` and from `const` (`isApart`).  This is done for exact letters and
for those whose case is ignored, with the comparison as a parameter. -/

section Words

variable {same : Char → Char → Bool} {w cs cs' : List Char}

/-- What follows a word, its letters being compared by `same`. -/
def afterBy (same : Char → Char → Bool) : List Char → List Char → Option (List Char)
  | [], cs => some cs
  | _ :: _, [] => none
  | p :: ps, c :: cs => if same p c then afterBy same ps cs else none

theorem after?_eq_afterBy (w cs : List Char) : after? w cs = afterBy (· == ·) w cs := by
  induction w generalizing cs with
  | nil => rfl
  | cons p ps ih => cases cs <;> simp [after?, afterBy, ih]

theorem afterCaseless?_eq_afterBy (w cs : List Char) :
    afterCaseless? w cs = afterBy sameLetter w cs := by
  induction w generalizing cs with
  | nil => rfl
  | cons p ps ih => cases cs <;> simp [afterCaseless?, afterBy, ih]

/-- The two words differ where both have a letter. -/
def clashes (same : Char → Char → Bool) : List Char → List Char → Bool
  | p :: ps, c :: cs => !same p c || clashes same ps cs
  | _, _ => false

/-- From none of its letters on, the word can be read in `var` or in `const`. -/
def isApart (same : Char → Char → Bool) : List Char → Bool
  | [] => true
  | p :: ps => clashes same (p :: ps) "var".toList && clashes same (p :: ps) "const".toList
      && isApart same ps

theorem afterBy_of_clashes {name : List Char} (h : clashes same w name = true) (rest : List Char) :
    afterBy same w (name ++ rest) = none := by
  induction w generalizing name with
  | nil => cases h
  | cons p ps ih =>
    cases name with
    | nil => cases h
    | cons c name =>
      rw [clashes, Bool.or_eq_true, Bool.not_eq_true'] at h
      rw [List.cons_append, afterBy]
      split
      · rename_i hsame
        exact ih (h.resolve_left (by simp [hsame]))
      · rfl

/-- **A word that is apart** is read in both texts or in neither, and what follows is comparable. -/
theorem Renamed.afterBy (hw : isApart same w = true) (h : Renamed cs cs') :
    Option.Rel Renamed (afterBy same w cs) (afterBy same w cs') := by
  induction w generalizing cs cs' with
  | nil => exact .some h
  | cons p ps ih =>
    rw [isApart, Bool.and_eq_true, Bool.and_eq_true] at hw
    obtain ⟨⟨hvar, hconst⟩, hps⟩ := hw
    cases h with
    | same =>
      cases Rule.afterBy same (p :: ps) cs with
      | none => exact .none
      | some rest => exact .some (.same rest)
    | @word rest hcloses =>
      rw [show 'v' :: 'a' :: 'r' :: rest = "var".toList ++ rest from rfl,
        show 'c' :: 'o' :: 'n' :: 's' :: 't' :: rest = "const".toList ++ rest from rfl,
        afterBy_of_clashes hvar, afterBy_of_clashes hconst]
      exact .none
    | cons c h =>
      rw [Rule.afterBy, Rule.afterBy]
      split
      · exact ih hps h
      · exact .none

theorem Renamed.after? (hw : isApart (· == ·) w = true) (h : Renamed cs cs') :
    Option.Rel Renamed (after? w cs) (after? w cs') := by
  rw [after?_eq_afterBy, after?_eq_afterBy]
  exact h.afterBy hw

theorem Renamed.afterCaseless? (hw : isApart sameLetter w = true) (h : Renamed cs cs') :
    Option.Rel Renamed (afterCaseless? w cs) (afterCaseless? w cs') := by
  rw [afterCaseless?_eq_afterBy, afterCaseless?_eq_afterBy]
  exact h.afterBy hw

theorem any_eq_of_rel {o o' : Option (List Char)} {f : List Char → Bool}
    (h : Option.Rel Renamed o o') (hf : ∀ cs cs', Renamed cs cs' → f cs = f cs') :
    o.any f = o'.any f := by
  cases h with
  | some h => exact hf _ _ h
  | none => rfl

theorem isSome_eq_of_rel {o o' : Option (List Char)} (h : Option.Rel Renamed o o') :
    o.isSome = o'.isSome := by
  cases h <;> rfl

end Words

/-! ## Reading on

A reader skips blanks, or all up to a closing parenthesis.  Neither word begins with a blank, so
the first skip ends at it in both texts; neither has a parenthesis in it, so the second passes over
either. -/

namespace Renamed

variable {cs cs' : List Char} {test : Char → Bool}

/-- Skipping what neither word begins with. -/
theorem dropWhile_of_stop (hv : test 'v' = false) (hc : test 'c' = false) (h : Renamed cs cs') :
    Renamed (cs.dropWhile test) (cs'.dropWhile test) := by
  induction h with
  | same cs => exact .same _
  | word h => simpa [hv, hc] using Renamed.word h
  | cons c h ih =>
    rw [List.dropWhile_cons, List.dropWhile_cons]
    split
    · exact ih
    · exact h.cons c

/-- Skipping to the next closing parenthesis, over either word. -/
theorem dropWhile_parenthesis (h : Renamed cs cs') :
    Renamed (cs.dropWhile (· != ')')) (cs'.dropWhile (· != ')')) := by
  induction h with
  | same cs => exact .same _
  | word h => exact .same _
  | cons c h ih =>
    rw [List.dropWhile_cons, List.dropWhile_cons]
    split
    · exact ih
    · exact h.cons c

theorem skipBlanks (h : Renamed cs cs') : Renamed (skipBlanks cs) (skipBlanks cs') :=
  h.dropWhile_of_stop (by decide) (by decide)

theorem startsWithChar (htest : test 'v' = test 'c') (h : Renamed cs cs') :
    startsWithChar test cs = startsWithChar test cs' := by
  cases h with
  | same => rfl
  | word h => exact htest
  | cons c h => rfl

theorem closesWord (h : Renamed cs cs') : closesWord cs = closesWord cs' := by
  cases h with
  | same => rfl
  | word => exact congrArg (!·) (by decide : isWord 'v' = isWord 'c')
  | cons => rfl

end Renamed

/-! ## Patterns

A pattern that begins where a word begins is never found within a word, so `within` and `behind`
hold of it without a further look (`Overlooks.atWordStart`).  The others begin with a character
that is not in either word, or is only its first. -/

/-- What stands before and what stands in the word from each place within `var` and `const` on. -/
def placesWithin : List (Char × List Char) :=
  [('v', "ar".toList), ('a', "r".toList), ('c', "onst".toList), ('o', "nst".toList),
    ('n', "st".toList), ('s', "t".toList)]

/-- A pattern that never takes notice of the word. -/
structure Overlooks (pattern : Place) : Prop where
  renamed : ∀ previous {cs cs' : List Char}, Renamed cs cs' →
    pattern previous cs = pattern previous cs'
  within : ∀ p ∈ placesWithin, ∀ rest, Text.closesWord rest = true →
    pattern (some p.1) (p.2 ++ rest) = false
  behind : ∀ rest, pattern (some 'r') rest = pattern (some 't') rest

namespace Overlooks

variable {pattern : Place} {cs cs' : List Char}

/-- Behind the one word it is found if it is behind the other. -/
theorem somewhere_behind (hp : Overlooks pattern) (rest : List Char) :
    somewhere pattern (some 'r') rest = somewhere pattern (some 't') rest := by
  cases rest with
  | nil => exact hp.behind []
  | cons c rest => rw [somewhere, somewhere, hp.behind]

theorem somewhere_eq (hp : Overlooks pattern) (h : Renamed cs cs') (previous : Option Char) :
    somewhere pattern previous cs = somewhere pattern previous cs' := by
  induction h generalizing previous with
  | same => rfl
  | cons c h ih => rw [somewhere, somewhere, hp.renamed previous (h.cons c), ih]
  | @word rest h =>
    have hwithin := fun p hmem => hp.within p hmem rest h
    simp only [placesWithin, List.forall_mem_cons] at hwithin
    obtain ⟨hv, ha, hc, ho, hn, hs, -⟩ := hwithin
    simp only [somewhere]
    rw [hp.renamed previous (.word h), hp.somewhere_behind]
    simp_all

/-- A pattern that begins where a word begins. -/
theorem atWordStart (h : ∀ previous {cs cs' : List Char}, Renamed cs cs' →
    pattern previous cs = pattern previous cs') : Overlooks (atWordStart pattern) where
  renamed previous cs cs' hr := by rw [Pattern.atWordStart, Pattern.atWordStart, h previous hr]
  within p hp rest _ := by
    have hword : ∀ p ∈ placesWithin, opensWord (some p.1) = false := by decide
    rw [Pattern.atWordStart, hword p hp, Bool.false_and]
  behind rest := by
    have hr : opensWord (some 'r') = false := by decide
    have ht : opensWord (some 't') = false := by decide
    rw [Pattern.atWordStart, Pattern.atWordStart, hr, ht, Bool.false_and, Bool.false_and]

/-- A pattern that begins with a letter of neither word, apart from their first ones. -/
theorem anywhere {find : List Char → Bool}
    (h : ∀ {cs cs' : List Char}, Renamed cs cs' → find cs = find cs')
    (hletter : ∀ c ∈ "aronst".toList, ∀ cs, find (c :: cs) = false) :
    Overlooks fun _ => find where
  renamed _ _ _ hr := h hr
  within p hp rest _ := by
    have hfirst : ∀ p ∈ placesWithin, ∃ c cs, p.2 = c :: cs ∧ c ∈ "aronst".toList := by
      simp [placesWithin]
    obtain ⟨c, cs, hcs, hc⟩ := hfirst p hp
    rw [hcs, List.cons_append, hletter c hc]
  behind _ := rfl

end Overlooks

section Patterns

variable {cs cs' : List Char}

theorem overlooks_evalCall : Overlooks evalCall :=
  .atWordStart fun _ _ _ h =>
    any_eq_of_rel (h.after? (by decide)) fun _ _ hrest => hrest.skipBlanks.startsWithChar rfl

theorem overlooks_debuggerWord : Overlooks debuggerWord :=
  .atWordStart fun _ _ _ h => any_eq_of_rel (h.after? (by decide)) fun _ _ hrest => hrest.closesWord

theorem overlooks_consoleLogCall : Overlooks consoleLogCall :=
  .anywhere (fun h => any_eq_of_rel (h.after? (by decide)) fun _ _ hrest =>
    hrest.skipBlanks.startsWithChar rfl) (by simp [after?])

theorem overlooks_consoleLog : Overlooks consoleLog := by
  have hany : consoleLog = fun _ cs => (after? "console.log".toList cs).any fun _ => true := by
    funext _ cs
    rw [consoleLog]
    cases after? "console.log".toList cs <;> rfl
  rw [hany]
  exact .anywhere (fun h => any_eq_of_rel (h.after? (by decide)) fun _ _ _ => rfl)
    (by simp [after?])

theorem overlooks_anyType : Overlooks anyType := by
  refine .anywhere (fun h => ?_) (by simp)
  cases h with
  | same => rfl
  | word => rfl
  | cons c h =>
    by_cases hc : c = ':'
    · subst hc
      exact any_eq_of_rel (h.skipBlanks.after? (by decide)) fun _ _ hrest => hrest.closesWord
    · simp [hc]

theorem overlooks_todoComment : Overlooks todoComment := by
  refine .anywhere (fun h => ?_) (by simp)
  cases h with
  | same => rfl
  | word => rfl
  | cons c h =>
    by_cases hc : c = '/'
    · subst hc
      cases h with
      | same => rfl
      | word => rfl
      | cons d h =>
        have hrest := h.skipBlanks.afterCaseless? (w := "todo".toList) (by decide)
        show (_ && Option.isSome _) = (_ && Option.isSome _)
        rw [isSome_eq_of_rel hrest]
    · simp [hc]

theorem overlooks_catchOpening : Overlooks catchOpening := by
  refine .anywhere (fun h => any_eq_of_rel (h.after? (by decide)) fun _ _ hrest => ?_)
    (by simp [after?])
  have hopen := hrest.skipBlanks
  generalize Pattern.skipBlanks _ = cs at hopen
  generalize Pattern.skipBlanks _ = cs' at hopen
  cases hopen with
  | same => rfl
  | word => rfl
  | @cons c cs cs' h =>
    by_cases hc : c = '('
    · subst hc
      have hclose := h.dropWhile_parenthesis
      simp only
      generalize cs.dropWhile _ = ds at hclose
      generalize cs'.dropWhile _ = ds' at hclose
      cases hclose with
      | same => rfl
      | word => rfl
      | cons d h =>
        by_cases hd : d = ')'
        · subst hd
          exact h.skipBlanks.startsWithChar rfl
        · simp [hd]
    · simp [hc]

/-! ### Credentials

The name of a credential is read with the case of its letters ignored, and is one of several words, so
the readers are related word by word. -/

theorem rel_or {o o' p p' : Option (List Char)} (h : Option.Rel Renamed o o')
    (h' : Option.Rel Renamed p p') : Option.Rel Renamed (o.or p) (o'.or p') := by
  cases h with
  | some h => exact .some h
  | none => exact h'

theorem rel_bind {o o' : Option (List Char)} {f : List Char → Option (List Char)}
    (h : Option.Rel Renamed o o')
    (hf : ∀ cs cs', Renamed cs cs' → Option.Rel Renamed (f cs) (f cs')) :
    Option.Rel Renamed (o.bind f) (o'.bind f) := by
  cases h with
  | some h => exact hf _ _ h
  | none => exact .none

theorem rel_afterCredentialName? (h : Renamed cs cs') :
    Option.Rel Renamed (afterCredentialName? cs) (afterCredentialName? cs') := by
  have hplain : ∀ ws : List String, (∀ w ∈ ws, isApart sameLetter w.toList = true) →
      Option.Rel Renamed (ws.findSome? fun w => afterCaseless? w.toList cs)
        (ws.findSome? fun w => afterCaseless? w.toList cs') := by
    intro ws hws
    induction ws with
    | nil => exact .none
    | cons w ws ih =>
      have hfirst := h.afterCaseless? (hws w List.mem_cons_self)
      rw [List.findSome?_cons, List.findSome?_cons]
      generalize afterCaseless? w.toList cs = o at hfirst
      generalize afterCaseless? w.toList cs' = o' at hfirst
      cases hfirst with
      | some hrest => exact .some hrest
      | none => exact ih fun v hv => hws v (List.mem_cons_of_mem _ hv)
  refine rel_or (hplain _ (by decide)) (rel_bind (h.afterCaseless? (by decide)) fun cs cs' h => ?_)
  refine Renamed.afterCaseless? (by decide) ?_
  cases h with
  | same => exact .same _
  | word h => exact .word h
  | cons c h =>
    by_cases hline : c = '_'
    · subst hline
      exact h
    · by_cases hdash : c = '-'
      · subst hdash
        exact h
      · simpa [hline, hdash] using h.cons c

/-- A letter of a word, case ignored, is a character of a word. -/
theorem isWord_of_sameLetter {c : Char} (h : sameLetter 'o' c = true) : isWord c = true := by
  have hlower : c.toLower = 'o' := by simpa [sameLetter, otherCases] using h
  have hcase : c = 'O' ∨ c = 'o' := by
    by_cases hupper : c.val ≥ 'A'.val ∧ c.val ≤ 'Z'.val
    · have hval : c.val + ('a'.val - 'A'.val) = 'o'.val :=
        congrArg Char.val ((dif_pos hupper).symm.trans hlower)
      refine .inl (Char.ext ?_)
      rw [← UInt32.add_sub_cancel c.val ('a'.val - 'A'.val), hval]
      rfl
    · exact .inr ((dif_neg hupper).symm.trans hlower)
  rcases hcase with rfl | rfl <;> decide

theorem overlooks_credential : Overlooks credential where
  renamed _ _ _ h := by
    refine any_eq_of_rel (rel_afterCredentialName? h) fun _ _ hrest => ?_
    have hsign := hrest.skipBlanks
    generalize Pattern.skipBlanks _ = cs at hsign
    generalize Pattern.skipBlanks _ = cs' at hsign
    cases hsign with
    | same => rfl
    | word => rfl
    | cons c h =>
      show (_ && Pattern.startsWithChar _ _) = (_ && Pattern.startsWithChar _ _)
      rw [h.skipBlanks.startsWithChar rfl]
  within := by
    simp only [placesWithin, List.forall_mem_cons]
    refine ⟨fun _ _ => rfl, fun _ _ => rfl, fun _ _ => rfl, fun _ _ => rfl, fun _ _ => rfl,
      fun rest hrest => ?_, by simp⟩
    -- only `token` goes on behind the letter, with a letter
    cases rest with
    | nil => rfl
    | cons c rest =>
      have ho : sameLetter 'o' c = false := by
        refine Bool.eq_false_iff.2 fun h => ?_
        rw [closesWord, isWord_of_sameLetter h] at hrest
        cases hrest
      have htoken : afterCaseless? "token".toList ('t' :: c :: rest) = none :=
        if_neg (Bool.eq_false_iff.1 ho)
      show (afterCredentialName? ('t' :: c :: rest)).any _ = false
      have hnone : afterCredentialName? ('t' :: c :: rest) = none := by
        rw [afterCredentialName?, List.findSome?_cons, List.findSome?_cons, List.findSome?_cons,
          htoken]
        rfl
      rw [hnone]
      rfl
  behind _ := rfl

end Patterns

/-! ## The rewritten line

The word that is rewritten stands for itself, so the two lines are related from the start. -/

variable {line : List Char}

theorem renamed_varToConst (h : inLine varWord line = true) : Renamed line (varToConst line) := by
  obtain ⟨before, rest, hat, heq⟩ := exists_firstWordAt_varToConst h
  rw [heq]
  conv => lhs; rw [hat.cut]
  exact (Renamed.word hat.closes).append before

/-- **A pattern that overlooks the word** is found in the rewritten line if it was in the line. -/
theorem Overlooks.inLine_varToConst {pattern : Place} (hp : Overlooks pattern)
    (h : inLine varWord line = true) : inLine pattern (varToConst line) = inLine pattern line :=
  (hp.somewhere_eq (renamed_varToConst h) none).symm

theorem isDebugging_varToConst (h : inLine varWord line = true) :
    isDebugging (varToConst line) = isDebugging line := by
  rw [isDebugging, isDebugging, overlooks_consoleLog.inLine_varToConst h,
    overlooks_debuggerWord.inLine_varToConst h]

theorem isLineComment_eq (line : List Char) :
    isLineComment line = startsWith ['/', '/'] (skipBlanks line) :=
  startsWith_dropEndWhile (by decide) _

/-- **A rewritten line** is a line comment if the line was one. -/
theorem isLineComment_varToConst (h : inLine varWord line = true) :
    isLineComment (varToConst line) = isLineComment line := by
  have hrest := (renamed_varToConst h).skipBlanks.after? (w := ['/', '/']) (by decide)
  rw [isLineComment_eq, isLineComment_eq, startsWith_eq_isSome, startsWith_eq_isSome,
    isSome_eq_of_rel hrest]

end CodeReview.Rule
