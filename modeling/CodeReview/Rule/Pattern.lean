import CodeReview.Text.Blank
import CodeReview.Text.Search
import CodeReview.Text.Word

/-!
# What the rules look for in a line

Each pattern is a test of a place in a line: the character before it and the text from it on
(`Text.somewhere` asks whether any place of a line passes).  Where a pattern allows blanks between
two of its parts, it allows any number of them, none included, unless said otherwise.

Letters are compared exactly, but for the two patterns that ignore case.  Ignoring case also
admits the four letters outside ASCII that share an ASCII letter's other case: the long s, the
Kelvin sign, and the dotless and dotted i.
-/

set_option autoImplicit false

namespace CodeReview.Rule.Pattern

open CodeReview.Text

/-- A test of a place of a line. -/
abbrev Place := Option Char → List Char → Bool

/-- The text from its first character on that is no blank. -/
def skipBlanks (cs : List Char) : List Char := cs.dropWhile isBlank

/-- The text starts with this character. -/
def startsWithChar (test : Char → Bool) (cs : List Char) : Bool := cs.head?.any test

/-! ## Calls and words -/

/-- A name, blanks and an opening parenthesis. -/
def call (name : String) : Place := fun _ cs =>
  (after? name.toList cs).any fun rest => startsWithChar (· == '(') (skipBlanks rest)

/-- The pattern, where a word starts. -/
def atWordStart (pattern : Place) : Place := fun before cs =>
  opensWord before && pattern before cs

/-- A whole word. -/
def word (w : String) : Place := atWordStart fun _ cs => (after? w.toList cs).any closesWord

/-- A call of `eval`. -/
def evalCall : Place := atWordStart (call "eval")

/-- A call of `console.log`. -/
def consoleLogCall : Place := call "console.log"

/-- `console.log`, called or not. -/
def consoleLog : Place := fun _ cs => (after? "console.log".toList cs).isSome

/-- The word `debugger`. -/
def debuggerWord : Place := word "debugger"

/-- The word `var`. -/
def varWord : Place := word "var"

/-- The word `var`, at least one blank, and a word character. -/
def varDeclaration : Place := atWordStart fun _ cs =>
  (after? "var".toList cs).any fun rest =>
    startsWithChar isBlank rest && startsWithChar isWord (skipBlanks rest)

/-- A colon, blanks, and `any` at the end of a word. -/
def anyType : Place := fun _ cs =>
  match cs with
  | ':' :: rest => (after? "any".toList (skipBlanks rest)).any closesWord
  | _ => false

/-! ## Ignoring case -/

/-- The letters outside ASCII that count as a small ASCII letter when case is ignored. -/
def otherCases (letter : Char) : List Char :=
  if letter = 's' then ['\u017f']
  else if letter = 'k' then ['\u212a']
  else if letter = 'i' then ['\u0130', '\u0131']
  else []

/-- `c` is the small letter `letter`, case ignored. -/
def sameLetter (letter c : Char) : Bool :=
  c.toLower == letter || (otherCases letter).contains c

/-- What follows a word of small letters in a text that begins with it, case ignored. -/
def afterCaseless? : List Char → List Char → Option (List Char)
  | [], cs => some cs
  | _ :: _, [] => none
  | w :: ws, c :: cs => if sameLetter w c then afterCaseless? ws cs else none

/-- What follows a credential's name: `password`, `secret`, `token`, or `api` and `key` with at
most one underscore or hyphen between them. -/
def afterCredentialName? (cs : List Char) : Option (List Char) :=
  let plain := ["password", "secret", "token"].findSome? fun w => afterCaseless? w.toList cs
  plain.or do
    let rest ← afterCaseless? "api".toList cs
    let rest := match rest with
      | '_' :: r => r
      | '-' :: r => r
      | r => r
    afterCaseless? "key".toList rest

/-- A credential's name, a colon or an equals sign, and a quote. -/
def credential : Place := fun _ cs =>
  (afterCredentialName? cs).any fun rest =>
    match skipBlanks rest with
    | c :: rest =>
      (c == ':' || c == '=')
        && startsWithChar (fun q => q == '\'' || q == '"') (skipBlanks rest)
    | [] => false

/-- The start of a comment, and `TODO` with case ignored. -/
def todoComment : Place := fun _ cs =>
  match cs with
  | '/' :: c :: rest =>
    (c == '/' || c == '*') && (afterCaseless? "todo".toList (skipBlanks rest)).isSome
  | _ => false

/-! ## Blocks -/

/-- `catch`, a parenthesis that closes at the next closing one, and an opening brace. -/
def catchOpening : Place := fun _ cs =>
  (after? "catch".toList cs).any fun rest =>
    match skipBlanks rest with
    | '(' :: rest =>
      match rest.dropWhile (· != ')') with
      | ')' :: rest => startsWithChar (· == '\x7b') (skipBlanks rest)
      | _ => false
    | _ => false

/-- Some place of the line passes. -/
def inLine (pattern : Place) (line : List Char) : Bool := somewhere pattern none line

end CodeReview.Rule.Pattern
