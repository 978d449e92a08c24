import CodeReview.Proofs.Rule.Caseless
import CodeReview.Proofs.Rule.Rescanning

/-!
# How the lines are spelled that rules flag

A rule flags a line if the line can be written in a certain way: some text, the parts that the rule
looks for with blanks between them, and some text again.  This is said here for each rule of a
review, with nothing but concatenation, and `flags_iff_sought` tells that the rules look for just
that.

The difference between the two is choice.  "The line can be written so" leaves open where the parts
stand and how many blanks are between them; the patterns read a line from left to right and never
go back, taking as many blanks as there are.  They need not go back, because no part that may stand
behind blanks begins with a blank (`skipBlanks_eq_iff`).  Where a part has alternatives, as the
name of a credential has, no two of them are read at one place, so the first that fits is the only
one.
## What is here

* `CallsEval`, `LogsToConsole`, `NamesAny`, `HoldsCredential`, `AnnouncesWork`, `OpensCatch` — the
  shapes, one for each pattern that is a sequence of parts; declarations and words are in
  `Spelling.lean`;
* `inLine_evalCall_iff` and its like — a line has a place at which the pattern passes exactly if it
  has the shape;
* `IsCommentedOut`, `IsTypeScript` — what some rules ask of the line as a whole or of the path;
* `sought`, `flags_iff_sought` — the shapes in the order of the rules, and that each rule flags the
  lines of its shape.
-/

set_option autoImplicit false

namespace CodeReview.Rule

open CodeReview.Text Pattern

variable {cs more line : List Char} {test : Char → Bool}

/-! ## Blanks between two parts

Three forms of one fact: behind the blanks stands a given text, a character that passes a test, or
a given character. -/

/-- **What is left when blanks are skipped** is what stands behind some blanks and does not begin
with one. -/
theorem skipBlanks_eq_iff (hmore : ∀ c ∈ more.head?, isBlank c = false) :
    skipBlanks cs = more ↔ ∃ blanks, cs = blanks ++ more ∧ isAllBlank blanks = true := by
  constructor
  · rintro rfl
    refine ⟨cs.takeWhile isBlank, List.takeWhile_append_dropWhile.symm, ?_⟩
    exact List.all_eq_true.2 fun c hc => List.mem_takeWhile_imp hc
  · rintro ⟨blanks, rfl, hblanks⟩
    rw [skipBlanks, List.dropWhile_append_of_pos (List.all_eq_true.1 hblanks)]
    cases more with
    | nil => rfl
    | cons c more => exact List.dropWhile_cons_of_neg (by simp [hmore c rfl])

/-- The next part is one character. -/
theorem startsWithChar_skipBlanks_iff (htest : ∀ c, test c = true → isBlank c = false) :
    startsWithChar test (skipBlanks cs) = true ↔
      ∃ blanks c rest, cs = blanks ++ c :: rest ∧ isAllBlank blanks = true ∧ test c = true := by
  constructor
  · intro h
    obtain ⟨c, hc, htestc⟩ := (Option.any_eq_true _ _).1 h
    obtain ⟨rest, hskip⟩ : ∃ rest, skipBlanks cs = c :: rest := ⟨_, List.eq_cons_of_mem_head? hc⟩
    obtain ⟨blanks, hcut, hblanks⟩ :=
      (skipBlanks_eq_iff (by simpa using htest c htestc)).1 hskip
    exact ⟨blanks, c, rest, hcut, hblanks, htestc⟩
  · rintro ⟨blanks, c, rest, hcut, hblanks, htestc⟩
    have hskip : skipBlanks cs = c :: rest :=
      (skipBlanks_eq_iff (by simpa using htest c htestc)).2 ⟨blanks, hcut, hblanks⟩
    rw [hskip]
    exact htestc

/-- The next part is this character. -/
theorem skipBlanks_eq_cons_iff {c : Char} {rest : List Char} (hc : isBlank c = false) :
    skipBlanks cs = c :: rest ↔ ∃ blanks, cs = blanks ++ c :: rest ∧ isAllBlank blanks = true :=
  skipBlanks_eq_iff (by simpa using hc)

/-! ## What the rules look for

These are meant to be read against the description of each rule.  No pattern occurs in them. -/

/-- `eval` at the start of a word, blanks, and an opening parenthesis. -/
def CallsEval (line : List Char) : Prop :=
  ∃ before blanks rest, line = before ++ "eval".toList ++ blanks ++ '(' :: rest ∧
    opensWord before.getLast? = true ∧ isAllBlank blanks = true

/-- `console.log`, blanks, and an opening parenthesis. -/
def LogsToConsole (line : List Char) : Prop :=
  ∃ before blanks rest, line = before ++ "console.log".toList ++ blanks ++ '(' :: rest ∧
    isAllBlank blanks = true

/-- A colon, blanks, and `any` at the end of a word. -/
def NamesAny (line : List Char) : Prop :=
  ∃ before blanks rest, line = before ++ ':' :: blanks ++ "any".toList ++ rest ∧
    isAllBlank blanks = true ∧ closesWord rest = true

/-- The names under which credentials are kept. -/
def credentialNames : List String := ["password", "api_key", "api-key", "apikey", "secret", "token"]

/-- The name of a credential, a colon or an equals sign, and a quote, with blanks between them. -/
def HoldsCredential (line : List Char) : Prop :=
  ∃ before name blanks sign blanks' quote rest,
    line = before ++ name ++ blanks ++ sign :: blanks' ++ quote :: rest ∧
      (∃ word ∈ credentialNames, SpelledAs word name) ∧ isAllBlank blanks = true ∧
      (sign = ':' ∨ sign = '=') ∧ isAllBlank blanks' = true ∧ (quote = '\'' ∨ quote = '"')

/-- The start of a comment, blanks, and `TODO`. -/
def AnnouncesWork (line : List Char) : Prop :=
  ∃ before sign blanks word rest, line = before ++ '/' :: sign :: blanks ++ word ++ rest ∧
    (sign = '/' ∨ sign = '*') ∧ isAllBlank blanks = true ∧ SpelledAs "todo" word

/-- `catch`, what stands between a parenthesis and the next closing one, and an opening brace. -/
def IsCatchOpening (opening : List Char) : Prop :=
  ∃ blanks caught blanks',
    opening = "catch".toList ++ blanks ++ '(' :: caught ++ ')' :: blanks' ++ ['\x7b'] ∧
      isAllBlank blanks = true ∧ ')' ∉ caught ∧ isAllBlank blanks' = true

/-- A catch block is opened in the line. -/
def OpensCatch (line : List Char) : Prop :=
  ∃ before opening rest, line = before ++ opening ++ rest ∧ IsCatchOpening opening

/-- The line begins with a line comment. -/
def IsCommentedOut (line : List Char) : Prop := ∃ rest, trim line = '/' :: '/' :: rest

/-- The path is that of a TypeScript file. -/
def IsTypeScript (path : String) : Prop :=
  ∃ ending ∈ [".ts", ".tsx"], ∃ stem, path.toList = stem ++ ending.toList

/-! ## The patterns find it

For each pattern it is said first what it takes from a place on, and then what it means that a line
has such a place. -/

theorem isBlank_eq_false_of_beq {c d : Char} (hd : isBlank d = false) (h : (c == d) = true) :
    isBlank c = false := by
  rw [beq_iff_eq.1 h]
  exact hd

theorem call_eq_true_iff {name : String} {previous : Option Char} :
    call name previous cs = true ↔ ∃ blanks rest,
      cs = name.toList ++ (blanks ++ '(' :: rest) ∧ isAllBlank blanks = true := by
  have hparenthesis : isBlank '(' = false := by decide
  simp only [call, Option.any_eq_true, after?_eq_some_iff,
    startsWithChar_skipBlanks_iff fun _ => isBlank_eq_false_of_beq hparenthesis, beq_iff_eq]
  constructor
  · rintro ⟨_, rfl, blanks, _, rest, rfl, hblanks, rfl⟩
    exact ⟨blanks, rest, rfl, hblanks⟩
  · rintro ⟨blanks, rest, rfl, hblanks⟩
    exact ⟨_, rfl, blanks, '(', rest, rfl, hblanks, rfl⟩

theorem inLine_evalCall_iff : inLine evalCall line = true ↔ CallsEval line := by
  simp only [inLine_iff, evalCall, atWordStart, Bool.and_eq_true, call_eq_true_iff, CallsEval,
    List.append_assoc]
  constructor
  · rintro ⟨before, _, rfl, hopens, blanks, rest, rfl, hblanks⟩
    exact ⟨before, blanks, rest, rfl, hopens, hblanks⟩
  · rintro ⟨before, blanks, rest, rfl, hopens, hblanks⟩
    exact ⟨before, _, rfl, hopens, blanks, rest, rfl, hblanks⟩

theorem inLine_consoleLogCall_iff : inLine consoleLogCall line = true ↔ LogsToConsole line := by
  simp only [inLine_iff, consoleLogCall, call_eq_true_iff, LogsToConsole, List.append_assoc]
  constructor
  · rintro ⟨before, _, rfl, blanks, rest, rfl, hblanks⟩
    exact ⟨before, blanks, rest, rfl, hblanks⟩
  · rintro ⟨before, blanks, rest, rfl, hblanks⟩
    exact ⟨before, _, rfl, blanks, rest, rfl, hblanks⟩

theorem anyType_eq_true_iff {previous : Option Char} : anyType previous cs = true ↔
    ∃ blanks rest, cs = ':' :: (blanks ++ ("any".toList ++ rest)) ∧ isAllBlank blanks = true ∧
      closesWord rest = true := by
  have hany : ∀ rest, ∀ c ∈ ("any".toList ++ rest).head?, isBlank c = false := by
    rintro rest _ ⟨⟩
    decide
  unfold anyType
  split
  · rename_i rest
    simp only [Option.any_eq_true, after?_eq_some_iff, skipBlanks_eq_iff (hany _)]
    constructor
    · rintro ⟨more, ⟨blanks, rfl, hblanks⟩, hcloses⟩
      exact ⟨blanks, more, rfl, hblanks, hcloses⟩
    · rintro ⟨blanks, more, hcut, hblanks, hcloses⟩
      exact ⟨more, ⟨blanks, (List.cons.inj hcut).2, hblanks⟩, hcloses⟩
  · rename_i hcolon
    refine iff_of_false Bool.false_ne_true ?_
    rintro ⟨blanks, rest, rfl, -⟩
    exact hcolon _ rfl

theorem inLine_anyType_iff : inLine anyType line = true ↔ NamesAny line := by
  simp only [inLine_iff, anyType_eq_true_iff, NamesAny, List.append_assoc, List.cons_append]
  constructor
  · rintro ⟨before, _, rfl, blanks, rest, rfl, hblanks, hcloses⟩
    exact ⟨before, blanks, rest, rfl, hblanks, hcloses⟩
  · rintro ⟨before, blanks, rest, rfl, hblanks, hcloses⟩
    exact ⟨before, _, rfl, blanks, rest, rfl, hblanks, hcloses⟩

/-- Between `api` and `key` there may be an underscore or a hyphen. -/
theorem afterApiKey?_eq_some_iff {rest : List Char} :
    ((afterCaseless? "api".toList cs).bind fun rest =>
        afterCaseless? "key".toList (match rest with
          | '_' :: r => r
          | '-' :: r => r
          | r => r)) = some rest ↔
      ∃ word ∈ ["api_key", "api-key", "apikey"], afterCaseless? word.toList cs = some rest := by
  have hline : "api_key".toList = "api".toList ++ (['_'] ++ "key".toList) := rfl
  have hdash : "api-key".toList = "api".toList ++ (['-'] ++ "key".toList) := rfl
  have hnone : "apikey".toList = "api".toList ++ "key".toList := rfl
  have hlineSign : ∀ {cs rest}, afterCaseless? ['_'] cs = some rest ↔ cs = '_' :: rest :=
    afterCaseless?_sign (.inl (by decide)) (by decide)
  have hdashSign : ∀ {cs rest}, afterCaseless? ['-'] cs = some rest ↔ cs = '-' :: rest :=
    afterCaseless?_sign (.inl (by decide)) (by decide)
  simp only [List.mem_cons, List.not_mem_nil, or_false, exists_eq_or_imp, exists_eq_left, hline,
    hdash, hnone, afterCaseless?_append, Option.bind_eq_some_iff, hlineSign, hdashSign]
  constructor
  · rintro ⟨more, hapi, hkey⟩
    split at hkey
    · exact .inl ⟨_, hapi, _, rfl, hkey⟩
    · exact .inr (.inl ⟨_, hapi, _, rfl, hkey⟩)
    · exact .inr (.inr ⟨_, hapi, hkey⟩)
  · rintro (⟨_, hapi, more, rfl, hkey⟩ | ⟨_, hapi, more, rfl, hkey⟩ | ⟨more, hapi, hkey⟩)
    · exact ⟨_, hapi, hkey⟩
    · exact ⟨_, hapi, hkey⟩
    · refine ⟨more, hapi, ?_⟩
      split
      · cases hkey
      · cases hkey
      · exact hkey

/-- No two of these words begin with the same letter, so that their order does not matter. -/
theorem afterPlainName?_eq_some_iff {rest : List Char} :
    (["password", "secret", "token"].findSome? fun w => afterCaseless? w.toList cs) = some rest ↔
      ∃ word ∈ ["password", "secret", "token"], afterCaseless? word.toList cs = some rest := by
  have hpassword : "password".toList = 'p' :: "assword".toList := rfl
  have hsecret : "secret".toList = 's' :: "ecret".toList := rfl
  have htoken : "token".toList = 't' :: "oken".toList := rfl
  simp only [List.findSome?_cons, List.findSome?_nil, List.mem_cons, List.not_mem_nil, or_false,
    exists_eq_or_imp, exists_eq_left, hpassword, hsecret, htoken]
  constructor
  · intro h
    split at h
    · rename_i hread
      exact .inl (hread.trans h)
    · split at h
      · rename_i hread
        exact .inr (.inl (hread.trans h))
      · split at h
        · rename_i hread
          exact .inr (.inr (hread.trans h))
        · cases h
  · rintro (h | h | h)
    · rw [h]
    · rw [afterCaseless?_eq_none (by decide) (by decide) (by decide) h, h]
    · rw [afterCaseless?_eq_none (by decide) (by decide) (by decide) h,
        afterCaseless?_eq_none (by decide) (by decide) (by decide) h, h]

/-- Where one of the other names is read, none of these is. -/
theorem afterPlainName?_eq_none {word : String} {rest : List Char}
    (hword : word ∈ ["api_key", "api-key", "apikey"])
    (h : afterCaseless? word.toList cs = some rest) :
    (["password", "secret", "token"].findSome? fun w => afterCaseless? w.toList cs) = none := by
  obtain ⟨w, hw⟩ : ∃ w, word.toList = 'a' :: w := by
    simp only [List.mem_cons, List.not_mem_nil, or_false] at hword
    rcases hword with rfl | rfl | rfl <;> exact ⟨_, rfl⟩
  rw [hw] at h
  refine List.findSome?_eq_none_iff.2 fun v hv => ?_
  simp only [List.mem_cons, List.not_mem_nil, or_false] at hv
  rcases hv with rfl | rfl | rfl
  all_goals exact afterCaseless?_eq_none (by decide) (by decide) (by decide) h

theorem mem_credentialNames_iff {word : String} : word ∈ credentialNames ↔
    word ∈ ["password", "secret", "token"] ∨ word ∈ ["api_key", "api-key", "apikey"] := by
  simp only [credentialNames, List.mem_cons, List.not_mem_nil, or_false]
  tauto

/-- **The name of a credential** is one of six words. -/
theorem afterCredentialName?_eq_some_iff {rest : List Char} :
    afterCredentialName? cs = some rest ↔
      ∃ name, cs = name ++ rest ∧ ∃ word ∈ credentialNames, SpelledAs word name := by
  have hnames : (∃ name, cs = name ++ rest ∧ ∃ word ∈ credentialNames, SpelledAs word name) ↔
      ∃ word ∈ credentialNames, afterCaseless? word.toList cs = some rest := by
    simp only [afterCaseless?_eq_some_iff, SpelledAs]
    constructor
    · rintro ⟨name, hcut, word, hword, hname⟩
      exact ⟨word, hword, name, hcut, hname⟩
    · rintro ⟨word, hword, name, hcut, hname⟩
      exact ⟨name, hcut, word, hword, hname⟩
  rw [hnames, afterCredentialName?, Option.or_eq_some_iff]
  refine (or_congr afterPlainName?_eq_some_iff
    (and_congr_right fun _ => afterApiKey?_eq_some_iff)).trans ?_
  constructor
  · rintro (⟨word, hword, hread⟩ | ⟨-, word, hword, hread⟩)
    · exact ⟨word, mem_credentialNames_iff.2 (.inl hword), hread⟩
    · exact ⟨word, mem_credentialNames_iff.2 (.inr hword), hread⟩
  · rintro ⟨word, hword, hread⟩
    rcases mem_credentialNames_iff.1 hword with hword | hword
    · exact .inl ⟨word, hword, hread⟩
    · exact .inr ⟨afterPlainName?_eq_none hword hread, word, hword, hread⟩

theorem isBlank_of_isSign {c : Char} (h : c = ':' ∨ c = '=') : isBlank c = false := by
  rcases h with rfl | rfl <;> decide

theorem isBlank_of_isQuote {c : Char} (h : (c == '\'' || c == '"') = true) :
    isBlank c = false := by
  simp only [Bool.or_eq_true, beq_iff_eq] at h
  rcases h with rfl | rfl <;> decide

theorem credential_eq_true_iff {previous : Option Char} : credential previous cs = true ↔
    ∃ name blanks sign blanks' quote rest,
      cs = name ++ (blanks ++ sign :: (blanks' ++ quote :: rest)) ∧
        (∃ word ∈ credentialNames, SpelledAs word name) ∧ isAllBlank blanks = true ∧
        (sign = ':' ∨ sign = '=') ∧ isAllBlank blanks' = true ∧ (quote = '\'' ∨ quote = '"') := by
  simp only [credential, Option.any_eq_true, afterCredentialName?_eq_some_iff]
  constructor
  · rintro ⟨more, ⟨name, rfl, hname⟩, h⟩
    split at h
    · rename_i sign rest hsign
      simp only [Bool.and_eq_true, Bool.or_eq_true, beq_iff_eq] at h
      obtain ⟨hwhich, hquote⟩ := h
      obtain ⟨blanks, rfl, hblanks⟩ :=
        (skipBlanks_eq_cons_iff (isBlank_of_isSign hwhich)).1 hsign
      obtain ⟨blanks', quote, rest, rfl, hblanks', hquote⟩ :=
        (startsWithChar_skipBlanks_iff fun _ => isBlank_of_isQuote).1 hquote
      exact ⟨name, blanks, sign, blanks', quote, rest, rfl, hname, hblanks, hwhich, hblanks',
        by simpa using hquote⟩
    · cases h
  · rintro ⟨name, blanks, sign, blanks', quote, rest, rfl, hname, hblanks, hwhich, hblanks', hquote⟩
    refine ⟨_, ⟨name, rfl, hname⟩, ?_⟩
    rw [(skipBlanks_eq_cons_iff (isBlank_of_isSign hwhich)).2 ⟨blanks, rfl, hblanks⟩]
    simp only [Bool.and_eq_true, Bool.or_eq_true, beq_iff_eq]
    refine ⟨hwhich, (startsWithChar_skipBlanks_iff fun _ => isBlank_of_isQuote).2 ?_⟩
    exact ⟨blanks', quote, rest, rfl, hblanks', by simpa using hquote⟩

theorem inLine_credential_iff : inLine credential line = true ↔ HoldsCredential line := by
  simp only [inLine_iff, credential_eq_true_iff, HoldsCredential, List.append_assoc,
    List.cons_append]
  constructor
  · rintro ⟨before, _, rfl, name, blanks, sign, blanks', quote, rest, rfl, h⟩
    exact ⟨before, name, blanks, sign, blanks', quote, rest, rfl, h⟩
  · rintro ⟨before, name, blanks, sign, blanks', quote, rest, rfl, h⟩
    exact ⟨before, _, rfl, name, blanks, sign, blanks', quote, rest, rfl, h⟩

theorem todoComment_eq_true_iff {previous : Option Char} : todoComment previous cs = true ↔
    ∃ sign blanks word rest, cs = '/' :: sign :: (blanks ++ (word ++ rest)) ∧
      (sign = '/' ∨ sign = '*') ∧ isAllBlank blanks = true ∧ SpelledAs "todo" word := by
  have hword : ∀ {word rest : List Char}, SpelledAs "todo" word →
      ∀ c ∈ (word ++ rest).head?, isBlank c = false := by
    rintro word rest hspelled c hc
    obtain ⟨d, word, hd, -, rfl⟩ := List.forall₂_cons_left_iff.1 hspelled
    obtain rfl : d = c := by simpa using hc
    exact isBlank_of_sameLetter (by decide) hd
  unfold todoComment
  split
  · rename_i sign rest
    simp only [Bool.and_eq_true, Bool.or_eq_true, beq_iff_eq, Option.isSome_iff_exists,
      afterCaseless?_eq_some_iff]
    constructor
    · rintro ⟨hsign, more, word, hskip, hspelled⟩
      obtain ⟨blanks, rfl, hblanks⟩ := (skipBlanks_eq_iff (hword hspelled)).1 hskip
      exact ⟨sign, blanks, word, more, rfl, hsign, hblanks, hspelled⟩
    · rintro ⟨sign', blanks, word, more, hcut, hsign, hblanks, hspelled⟩
      obtain ⟨rfl, rfl⟩ : sign = sign' ∧ rest = blanks ++ (word ++ more) := by simpa using hcut
      exact ⟨hsign, more, word,
        (skipBlanks_eq_iff (hword hspelled)).2 ⟨blanks, rfl, hblanks⟩, hspelled⟩
  · rename_i hslash
    refine iff_of_false Bool.false_ne_true ?_
    rintro ⟨sign, blanks, word, rest, rfl, -⟩
    exact hslash _ _ rfl

theorem inLine_todoComment_iff : inLine todoComment line = true ↔ AnnouncesWork line := by
  simp only [inLine_iff, todoComment_eq_true_iff, AnnouncesWork, List.append_assoc,
    List.cons_append]
  constructor
  · rintro ⟨before, _, rfl, sign, blanks, word, rest, rfl, h⟩
    exact ⟨before, sign, blanks, word, rest, rfl, h⟩
  · rintro ⟨before, sign, blanks, word, rest, rfl, h⟩
    exact ⟨before, _, rfl, sign, blanks, word, rest, rfl, h⟩

/-! ## Catch blocks

What is caught is all up to the next closing parenthesis, with no other closing one in it. -/

theorem dropWhile_ne_iff {c : Char} {rest : List Char} :
    cs.dropWhile (· != c) = c :: rest ↔ ∃ passed, cs = passed ++ c :: rest ∧ c ∉ passed := by
  constructor
  · intro h
    refine ⟨cs.takeWhile (· != c), ?_, fun hmem => ?_⟩
    · rw [← h, List.takeWhile_append_dropWhile]
    · simpa using List.mem_takeWhile_imp hmem
  · rintro ⟨passed, rfl, hpassed⟩
    have hall : ∀ d ∈ passed, (d != c) = true := by
      intro d hd
      rw [bne_iff_ne]
      rintro rfl
      exact hpassed hd
    rw [List.dropWhile_append_of_pos hall]
    exact List.dropWhile_cons_of_neg (by simp)

theorem catchOpening_eq_true_iff {previous : Option Char} : catchOpening previous cs = true ↔
    ∃ opening rest, cs = opening ++ rest ∧ IsCatchOpening opening := by
  have hparenthesis : isBlank '(' = false := by decide
  have hbrace : isBlank '\x7b' = false := by decide
  simp only [catchOpening, Option.any_eq_true, after?_eq_some_iff]
  constructor
  · rintro ⟨more, rfl, h⟩
    split at h
    · rename_i inside hinside
      split at h
      · rename_i behind hbehind
        obtain ⟨blanks, rfl, hblanks⟩ := (skipBlanks_eq_cons_iff hparenthesis).1 hinside
        obtain ⟨caught, rfl, hcaught⟩ := dropWhile_ne_iff.1 hbehind
        obtain ⟨blanks', _, rest, rfl, hblanks', hopen⟩ :=
          (startsWithChar_skipBlanks_iff fun _ => isBlank_eq_false_of_beq hbrace).1 h
        obtain rfl := beq_iff_eq.1 hopen
        exact ⟨_, rest, by simp, blanks, caught, blanks', rfl, hblanks, hcaught, hblanks'⟩
      · cases h
    · cases h
  · rintro ⟨_, rest, rfl, blanks, caught, blanks', rfl, hblanks, hcaught, hblanks'⟩
    refine ⟨blanks ++ '(' :: (caught ++ ')' :: (blanks' ++ '\x7b' :: rest)), by simp, ?_⟩
    rw [(skipBlanks_eq_cons_iff hparenthesis).2 ⟨blanks, rfl, hblanks⟩]
    simp only [dropWhile_ne_iff.2 ⟨caught, rfl, hcaught⟩]
    exact (startsWithChar_skipBlanks_iff fun _ => isBlank_eq_false_of_beq hbrace).2
      ⟨blanks', '\x7b', rest, rfl, hblanks', by decide⟩

theorem inLine_catchOpening_iff : inLine catchOpening line = true ↔ OpensCatch line := by
  simp only [inLine_iff, catchOpening_eq_true_iff, OpensCatch, List.append_assoc]
  constructor
  · rintro ⟨before, _, rfl, opening, rest, rfl, h⟩
    exact ⟨before, opening, rest, rfl, h⟩
  · rintro ⟨before, opening, rest, rfl, h⟩
    exact ⟨before, _, rfl, opening, rest, rfl, h⟩

/-! ## Rule by rule

`sought` lists the shapes in the order of the rules, so that a rule and its shape can be named
together. -/

theorem isLineComment_iff : isLineComment line = true ↔ IsCommentedOut line := by
  rw [isLineComment, startsWith, List.isPrefixOf_iff_prefix]
  exact exists_congr fun rest => eq_comm

/-- A pattern that leaves line comments alone. -/
theorem flagsCode_iff {pattern : Place} {shows : List Char → Prop}
    (h : ∀ line, inLine pattern line = true ↔ shows line) (path : String) (line : List Char)
    (following : List (List Char)) :
    flagsCode pattern path line following = true ↔ ¬ IsCommentedOut line ∧ shows line := by
  rw [flagsCode, Bool.and_eq_true, Bool.not_eq_true', ← Bool.not_eq_true, isLineComment_iff, h]

theorem isTypeScript_iff {path : String} :
    ([".ts", ".tsx"].any fun ending => endsWith ending.toList path.toList) = true ↔
      IsTypeScript path := by
  simp only [List.any_eq_true, IsTypeScript, endsWith, List.isPrefixOf_iff_prefix,
    List.reverse_prefix]
  exact exists_congr fun ending => and_congr_right fun _ => exists_congr fun stem => eq_comm

theorem flags_noEmptyCatch_iff {path : String} {following : List (List Char)} :
    noEmptyCatch.flags path line following = true ↔
      OpensCatch line ∧ ClosesBehind (isAllBlank · = true) following :=
  (Bool.and_eq_true _ _).to_iff.trans (and_congr inLine_catchOpening_iff closesNext_iff)

/-- What the rules of a review look for, each in its place: in the path of a file, in a line, and in
the lines that follow it. -/
def sought : List (String → List Char → List (List Char) → Prop) :=
  [fun _ line _ => CallsEval line,
    fun _ line _ => ¬ IsCommentedOut line ∧ LogsToConsole line,
    fun _ line _ => ¬ IsCommentedOut line ∧ Declares line,
    fun path line _ => IsTypeScript path ∧ ¬ IsCommentedOut line ∧ NamesAny line,
    fun _ line following => OpensCatch line ∧ ClosesBehind (isAllBlank · = true) following,
    fun _ line _ => ¬ IsCommentedOut line ∧ HoldsCredential line,
    fun _ line _ => AnnouncesWork line,
    fun _ line _ => ¬ IsCommentedOut line ∧ ∃ before rest, WordAt "debugger" line before rest]

/-- **A rule flags what it looks for,** and nothing else. -/
theorem flags_iff_sought : List.Forall₂ (fun r shows => ∀ path line following,
    r.flags path line following = true ↔ shows path line following) defaults sought := by
  refine .cons (fun _ _ _ => inLine_evalCall_iff) ?_
  refine .cons (flagsCode_iff fun _ => inLine_consoleLogCall_iff) ?_
  refine .cons (flagsCode_iff fun _ => isVarDeclaration_iff) ?_
  refine .cons (fun path line following => ?_) ?_
  · refine (Bool.and_eq_true _ _).to_iff.trans (and_congr isTypeScript_iff ?_)
    exact flagsCode_iff (fun _ => inLine_anyType_iff) path line following
  refine .cons (fun _ _ _ => flags_noEmptyCatch_iff) ?_
  refine .cons (flagsCode_iff fun _ => inLine_credential_iff) ?_
  refine .cons (fun _ _ _ => inLine_todoComment_iff) ?_
  exact .cons (flagsCode_iff fun _ => inLine_word_iff) .nil

end CodeReview.Rule
