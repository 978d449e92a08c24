/-!
# Looking for one text in another

The few searches the library needs, on lists of characters: what follows a given beginning, the
first place a text occurs, and whether some place of a text satisfies a test.  A test of a place
sees the character before it as well as everything after it, because rules about whole words look
both ways.
-/

set_option autoImplicit false

namespace CodeReview.Text

/-- `cs` starts with `start`. -/
def startsWith (start cs : List Char) : Bool := start.isPrefixOf cs

/-- `cs` ends with `ending`. -/
def endsWith (ending cs : List Char) : Bool := ending.reverse.isPrefixOf cs.reverse

/-- What follows `start` in a text that begins with it. -/
def after? : (start : List Char) → List Char → Option (List Char)
  | [], cs => some cs
  | _ :: _, [] => none
  | p :: ps, c :: cs => if p = c then after? ps cs else none

/-- The text before and the text after the first occurrence of `part`. -/
def splitAtFirst? (part : List Char) : List Char → Option (List Char × List Char)
  | [] => if part.isEmpty then some ([], []) else none
  | c :: cs =>
    match after? part (c :: cs) with
    | some rest => some ([], rest)
    | none => (splitAtFirst? part cs).map fun (before, rest) => (c :: before, rest)

/-- The text before the first `c`, and the text behind it, if there is one. -/
def cutAt (c : Char) (cs : List Char) : List Char × Option (List Char) :=
  match cs.dropWhile (· != c) with
  | [] => (cs, none)
  | _ :: rest => (cs.takeWhile (· != c), some rest)

/-- `part` occurs somewhere in `cs`. -/
def occursIn (part : List Char) : List Char → Bool
  | [] => part.isEmpty
  | c :: cs => startsWith part (c :: cs) || occursIn part cs

/-- Some place of the text passes the test; a place is the character before it (`none` at the
start) and the text from it on. -/
def somewhere (test : Option Char → List Char → Bool) : Option Char → List Char → Bool
  | before, [] => test before []
  | before, c :: cs => test before (c :: cs) || somewhere test (some c) cs

/-- The text with the first place that passes the test replaced: `length` characters from there
are replaced by `image`. -/
def replaceFirst (test : Option Char → List Char → Bool) (length : Nat) (image : List Char) :
    Option Char → List Char → List Char
  | _, [] => []
  | before, c :: cs =>
    if test before (c :: cs) then image ++ (c :: cs).drop length
    else c :: replaceFirst test length image (some c) cs

theorem eq_append_of_after? {start cs rest : List Char} (h : after? start cs = some rest) :
    cs = start ++ rest := by
  induction start generalizing cs with
  | nil => simpa [after?] using h
  | cons p ps ih =>
    cases cs with
    | nil => simp [after?] at h
    | cons c cs =>
      by_cases hc : p = c
      · subst hc
        rw [after?, if_pos rfl] at h
        rw [List.cons_append, ← ih h]
      · simp [after?, hc] at h

/-- **The cut is at an occurrence:** the two parts with `part` between them are the text. -/
theorem splitAtFirst?_eq {part cs before rest : List Char}
    (h : splitAtFirst? part cs = some (before, rest)) : cs = before ++ part ++ rest := by
  induction cs generalizing before with
  | nil =>
    cases part with
    | nil => simp_all [splitAtFirst?]
    | cons p ps => simp [splitAtFirst?] at h
  | cons c cs ih =>
    rw [splitAtFirst?] at h
    split at h
    · rename_i r hr
      obtain ⟨rfl, rfl⟩ : [] = before ∧ r = rest := by simpa using h
      simpa using eq_append_of_after? hr
    · obtain ⟨⟨b, r⟩, hb, heq⟩ := Option.map_eq_some_iff.1 h
      obtain ⟨rfl, rfl⟩ : c :: b = before ∧ r = rest := by simpa using heq
      simp [ih hb]

/-- **A text occurs in another** when the other is that text between two others. -/
theorem occursIn_iff {part cs : List Char} :
    occursIn part cs = true ↔ ∃ before rest, cs = before ++ part ++ rest := by
  induction cs with
  | nil => simp [occursIn]
  | cons c cs ih =>
    rw [occursIn, Bool.or_eq_true, ih, startsWith, List.isPrefixOf_iff_prefix]
    constructor
    · rintro (⟨rest, h⟩ | ⟨before, rest, h⟩)
      · exact ⟨[], rest, by simp [h]⟩
      · exact ⟨c :: before, rest, by simp [h]⟩
    · rintro ⟨before, rest, h⟩
      cases before with
      | nil => exact .inl ⟨rest, by simpa using h.symm⟩
      | cons b before =>
        have h' : cs = before ++ part ++ rest := by simpa using (List.cons.inj h).2
        exact .inr ⟨before, rest, h'⟩

end CodeReview.Text
