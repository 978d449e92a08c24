import CodeReview.Json.Reader

/-!
# Texts cut behind a brace, and what closes them

A reply that is cut off is cut once more, behind its last closing brace, and then closed by
brackets and braces.  Two properties of texts say what that leaves to reason about: the text before
the cut *ends in a brace* (`EndsInBrace`), and what is put behind it is *closing* (`IsClosing`):
brackets first and braces after them, and nothing else.

The brace is what makes a cut harmless.  A number cut in its digits is another number, a word cut
in its letters is none, and a name cut before its quote swallows what follows; but behind a brace
no number, no word and no escape is under way.  What can be under way is a literal, as braces may
stand in one, and the containers around.

So there are three things a reader can do with the text in front of the cut, whatever is put behind
it, and `ReadsCut` lists them.  It ends before the cut, and reads what it read before.  Or it does
not, and then finds fault with the closing characters; or reads something from it that stands in a
given relation to what it read before.  Which relation depends on what is read, so it is a
parameter; `ReadsCuts` is the property of a reader that the grammar is climbed with.
-/

set_option autoImplicit false

namespace CodeReview.Json

/-! ## Ending in a brace

A reader that has taken something stands behind it, and the rest of the text in front of the cut
still ends in a brace, unless that brace was taken too.  `EndsInBrace.exists_cons` is the step: a
character other than a brace, seen at the start of the whole text, stands in front of the cut. -/

/-- The last character is a closing brace. -/
def EndsInBrace (p : List Char) : Prop := p.getLast? = some '\x7d'

namespace EndsInBrace

variable {c : Char} {p t : List Char}

theorem ne_nil (h : EndsInBrace p) : p ≠ [] := by
  rintro rfl
  cases h

theorem exists_eq (h : EndsInBrace p) : ∃ a, p = a ++ ['\x7d'] :=
  List.getLast?_eq_some_iff.1 h

theorem append_brace (a : List Char) : EndsInBrace (a ++ ['\x7d']) := List.getLast?_concat

theorem cons (h : EndsInBrace p) (c : Char) : EndsInBrace (c :: p) := by
  obtain ⟨a, rfl⟩ := h.exists_eq
  exact append_brace (c :: a)

theorem of_append (h : EndsInBrace (t ++ p)) (hp : p ≠ []) : EndsInBrace p := by
  rw [EndsInBrace, List.getLast?_append, List.getLast?_eq_some_getLast hp] at h
  rw [EndsInBrace, List.getLast?_eq_some_getLast hp]
  simpa using h

/-- A text that ends in a brace goes on behind any other character. -/
theorem tail (h : EndsInBrace (c :: p)) (hc : c ≠ '\x7d') : EndsInBrace p := by
  refine of_append (t := [c]) h ?_
  rintro rfl
  exact hc (by simpa [EndsInBrace] using h)

/-- A text that ends in a brace has every other character that the text starts with which goes on
behind it. -/
theorem exists_cons {q cs : List Char} (h : EndsInBrace p) (hp : p ++ q = c :: cs)
    (hc : c ≠ '\x7d') : ∃ p', p = c :: p' ∧ EndsInBrace p' ∧ p' ++ q = cs := by
  match p, h, hp with
  | [], h, _ => exact absurd rfl h.ne_nil
  | d :: p, h, hp =>
    obtain ⟨rfl, rfl⟩ := List.cons.inj hp
    exact ⟨p, rfl, h.tail hc, rfl⟩

theorem skipSpace (h : EndsInBrace p) : EndsInBrace (skipSpace p) := by
  induction p with
  | nil => exact absurd rfl h.ne_nil
  | cons c p ih =>
    rw [Json.skipSpace, List.dropWhile_cons]
    split
    · rename_i hc
      refine ih (h.tail ?_)
      rintro rfl
      exact absurd hc (by decide)
    · exact h

/-- Blanks end before the brace does. -/
theorem skipSpace_append (h : EndsInBrace p) (q : List Char) :
    Json.skipSpace (p ++ q) = Json.skipSpace p ++ q := by
  induction p with
  | nil => exact absurd rfl h.ne_nil
  | cons c p ih =>
    rw [Json.skipSpace, List.cons_append, List.dropWhile_cons, Json.skipSpace,
      List.dropWhile_cons]
    split
    · rename_i hc
      refine ih (h.tail ?_)
      rintro rfl
      exact absurd hc (by decide)
    · rfl

end EndsInBrace

/-! ## Closing

All brackets come before all braces.  What is left of such a text when some of it was taken is such
a text again, and without brackets once a brace was taken (`IsClosing.not_mem_of_brace`).  That is
why an array around an object that is cut off is never closed: the object takes a brace, and the
bracket of the array would have to come behind it. -/

/-- Closing brackets and closing braces behind them. -/
def IsClosing (z : List Char) : Prop :=
  ∃ arrays objects, z = List.replicate arrays ']' ++ List.replicate objects '\x7d'

namespace IsClosing

variable {c : Char} {z : List Char}

theorem mem (h : IsClosing z) (hc : c ∈ z) : c = ']' ∨ c = '\x7d' := by
  obtain ⟨arrays, objects, rfl⟩ := h
  rw [List.mem_append, List.mem_replicate, List.mem_replicate] at hc
  exact hc.imp And.right And.right

theorem tail (h : IsClosing (c :: z)) : IsClosing z := by
  obtain ⟨arrays, objects, hz⟩ := h
  match arrays, objects, hz with
  | 0, 0, hz => cases hz
  | 0, objects + 1, hz => exact ⟨0, objects, (List.cons.inj hz).2⟩
  | arrays + 1, objects, hz => exact ⟨arrays, objects, (List.cons.inj hz).2⟩

/-- No bracket comes behind a brace. -/
theorem not_mem_of_brace (h : IsClosing ('\x7d' :: z)) : ']' ∉ z := by
  obtain ⟨arrays, objects, hz⟩ := h
  match arrays, objects, hz with
  | 0, 0, hz => cases hz
  | 0, objects + 1, hz => simp [(List.cons.inj hz).2]
  | arrays + 1, objects, hz => cases (List.cons.inj hz).1

theorem skipSpace_eq (h : IsClosing z) : skipSpace z = z := by
  match z, h with
  | [], _ => rfl
  | c :: z, h =>
    rw [skipSpace, List.dropWhile_cons, if_neg]
    rcases h.mem List.mem_cons_self with rfl | rfl <;> decide

theorem ne_comma (h : IsClosing (c :: z)) : c ≠ ',' := by
  rcases h.mem List.mem_cons_self with rfl | rfl <;> decide

end IsClosing

/-! ## Readings of a cut text

The relation `IsCut` also gets the closing characters that are left, as they tell what was closed
last: an array may leave brackets, an object cannot. -/

variable {α β : Type}

/-- The text departs from the grammar. -/
def Faulty (r : Except Stop α) : Prop := ∃ cause left, r = .error (.fault cause left)

theorem Faulty.map {r : Except Stop α} (f : α → β) (h : Faulty r) : Faulty (r.map f) := by
  obtain ⟨cause, left, rfl⟩ := h
  exact ⟨cause, left, rfl⟩

/-- A text was cut, `q` is what stood behind the cut, and `result z` is what is read where `z`
stands there.  With `q`, that was `a`, and `rest` was left. -/
def ReadsCut (IsCut : List Char → α → α → Prop) (result : List Char → Except Stop (α × List Char))
    (q : List Char) (a : α) (rest : List Char) : Prop :=
  (∃ r, rest = r ++ q ∧ ∀ z, result z = .ok (a, r ++ z)) ∨
    rest.length < q.length ∧ ∀ z, IsClosing z →
      Faulty (result z) ∨
        ∃ cut left, result z = .ok (cut, left) ∧ IsClosing left ∧ IsCut left cut a

theorem ReadsCut.map {IsCut : List Char → α → α → Prop} {IsCut' : List Char → β → β → Prop}
    {result : List Char → Except Stop (α × List Char)}
    {result' : List Char → Except Stop (β × List Char)} {q rest : List Char} {a : α} {f : α → β}
    (h : ReadsCut IsCut result q a rest)
    (hf : ∀ z, result' z = (result z).map fun p => (f p.1, p.2))
    (hcut : ∀ {left cut}, IsCut left cut a → IsCut' left (f cut) (f a)) :
    ReadsCut IsCut' result' q (f a) rest := by
  rcases h with ⟨r, hr, hz⟩ | ⟨hlt, hz⟩
  · exact .inl ⟨r, hr, fun z => by rw [hf, hz]; rfl⟩
  · refine .inr ⟨hlt, fun z hclosing => ?_⟩
    rw [hf]
    rcases hz z hclosing with hfault | ⟨cut, left, hok, hleft, hc⟩
    · exact .inl (hfault.map _)
    · exact .inr ⟨f cut, left, by rw [hok]; rfl, hleft, hcut hc⟩

/-- Where a text that ends in a brace is cut, the reader is in the relation to its earlier self
that `ReadsCut` describes. -/
def ReadsCuts (read : Reader α) (IsCut : List Char → α → α → Prop) : Prop :=
  ∀ ⦃p q rest a⦄, EndsInBrace p → read (p ++ q) = .ok (a, rest) →
    ReadsCut IsCut (fun z => read (p ++ z)) q a rest

end CodeReview.Json
