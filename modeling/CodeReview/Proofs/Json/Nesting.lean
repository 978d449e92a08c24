import CodeReview.Proofs.Json.Cut
import Mathlib.Data.List.Infix

/-!
# Open containers

Which containers are open behind a text?  To a reader of JSON the question makes sense only where
the text is JSON so far; and the repair of a reply does not read at all, it counts brackets.  So
the question is put to a scan that makes sense of every text.  It goes from one character to the
next, knows whether it is inside a string literal (`Spot`) and which containers are open (`Place`),
and looks at nothing but quotes, backslashes, brackets and braces.

Two facts about it carry the statement about the repair:

* `behind_eq_start_iff` — closing characters alone close what is open in *one* way, the innermost
  container first.  Whoever puts other brackets and braces there has no JSON.
* `Place.count_behind` — counting brackets and braces tells how many containers of either kind are
  open, if none of them stands inside a literal.  It does not tell their order.

So a repair that closes all arrays and then all objects is right exactly if that is the order in
which they have to be closed, and this is so if no object is open inside an array
(`closersOf_eq_iff`, `ObjectInArray`).
## What is here

* `Spot`, `literalChars` — the scan as far as literals matter, and what stands in them;
* `Place`, `Opens` — the scan, and texts that open containers wherever they stand;
* `Place.count_behind` — what counting tells;
* `Opens.close`, `Opens.enclose`, `behind_eq_start_iff` — closing what is open;
* `closersOf_eq_iff` — when brackets first and braces after them will do.
-/

set_option autoImplicit false

namespace CodeReview.Json

/-! ## Literals

For literals the containers do not matter, so the spot is a fold of its own.  `literalChars` has
the characters inside the literals of a text; what is not in it stands between literals. -/

/-- Where a scan is, as far as string literals matter. -/
inductive Spot where
  | between
  | within
  /-- inside a literal, behind a backslash -/
  | escaped
  deriving Repr, DecidableEq

namespace Spot

/-- The spot behind a character. -/
def after : Spot → Char → Spot
  | between, c => if c = '"' then within else between
  | within, c => if c = '"' then between else if c = '\\' then escaped else within
  | escaped, _ => within

/-- The spot behind a text. -/
def behind (spot : Spot) (cs : List Char) : Spot := cs.foldl after spot

theorem behind_append (spot : Spot) (cs ds : List Char) :
    spot.behind (cs ++ ds) = (spot.behind cs).behind ds := List.foldl_append

end Spot

/-- What stands inside the literals of a text, as it is written and with the quote at the end. -/
def literalChars : Spot → List Char → List Char
  | _, [] => []
  | .between, c :: cs => literalChars (Spot.between.after c) cs
  | spot, c :: cs => c :: literalChars (spot.after c) cs

theorem literalChars_append (spot : Spot) (cs ds : List Char) :
    literalChars spot (cs ++ ds) = literalChars spot cs ++ literalChars (spot.behind cs) ds := by
  induction cs generalizing spot with
  | nil => rfl
  | cons c cs ih =>
    cases spot with
    | between => exact ih _
    | within => exact congrArg (c :: ·) (ih _)
    | escaped => exact congrArg (c :: ·) (ih _)

/-- A character that does not stand between literals is in one. -/
theorem mem_literalChars {spot : Spot} {cs : List Char} (c : Char)
    (h : spot.behind cs ≠ .between) : c ∈ literalChars spot (cs ++ [c]) := by
  rw [literalChars_append, List.mem_append]
  right
  cases hspot : spot.behind cs with
  | between => exact absurd hspot h
  | within => exact List.mem_cons_self
  | escaped => exact List.mem_cons_self

/-! ## Containers

A closing character closes the innermost container or the scan ends.  `openedAfter` and
`Place.after` are functions into `Option` for that reason. -/

/-- The character that opens a container. -/
def Container.opener : Container → Char
  | array => '['
  | object => '\x7b'

/-- The character that closes a container. -/
def Container.closer : Container → Char
  | array => ']'
  | object => '\x7d'

/-- The containers that are open behind a character between literals, the innermost first; nothing
if it closes one that is not the innermost. -/
def openedAfter (opened : List Container) : Char → Option (List Container)
  | '[' => some (.array :: opened)
  | '\x7b' => some (.object :: opened)
  | ']' => match opened with
    | .array :: outer => some outer
    | _ => none
  | '\x7d' => match opened with
    | .object :: outer => some outer
    | _ => none
  | _ => some opened

/-- Where a scan is: its spot, and the containers that are open there, the innermost first. -/
structure Place where
  spot : Spot
  opened : List Container
  deriving Repr, DecidableEq

namespace Place

/-- The place behind a character. -/
def after (place : Place) (c : Char) : Option Place :=
  match place.spot with
  | .between => (openedAfter place.opened c).map fun opened => ⟨Spot.between.after c, opened⟩
  | spot => some ⟨spot.after c, place.opened⟩

/-- The place behind a text, if its brackets and braces match. -/
def behind (place : Place) (cs : List Char) : Option Place := cs.foldlM after place

/-- Where every scan starts. -/
def start : Place := ⟨.between, []⟩

theorem behind_cons (place : Place) (c : Char) (cs : List Char) :
    place.behind (c :: cs) = (place.after c).bind fun next => next.behind cs := List.foldlM_cons

theorem behind_append (place : Place) (cs ds : List Char) :
    place.behind (cs ++ ds) = (place.behind cs).bind fun next => next.behind ds :=
  List.foldlM_append

theorem spot_of_after {place next : Place} {c : Char} (h : place.after c = some next) :
    next.spot = place.spot.after c := by
  obtain ⟨spot, opened⟩ := place
  cases spot with
  | between =>
    obtain ⟨opened', -, rfl⟩ := Option.map_eq_some_iff.1 h
    rfl
  | within =>
    cases h
    rfl
  | escaped =>
    cases h
    rfl

/-- The containers do not matter for the spot. -/
theorem spot_of_behind {place next : Place} {cs : List Char} (h : place.behind cs = some next) :
    next.spot = place.spot.behind cs := by
  induction cs generalizing place with
  | nil =>
    cases h
    rfl
  | cons c cs ih =>
    rw [behind_cons] at h
    obtain ⟨mid, hmid, h⟩ := Option.bind_eq_some_iff.1 h
    rw [ih h, spot_of_after hmid]
    rfl

end Place

/-! ## Counting

The invariant is one equation: what was opened and what was open before is what was closed and what
is open now.  It holds of a character and, by induction, of a text. -/

theorem count_openedAfter {opened opened' : List Container} {c : Char}
    (h : openedAfter opened c = some opened') (container : Container) :
    [c].count container.opener + opened.count container =
      [c].count container.closer + opened'.count container := by
  unfold openedAfter at h
  split at h
  · cases h
    cases container <;> simp [Container.opener, Container.closer, Nat.add_comm]
  · cases h
    cases container <;> simp [Container.opener, Container.closer, Nat.add_comm]
  · split at h
    · cases h
      cases container <;> simp [Container.opener, Container.closer, Nat.add_comm]
    · cases h
  · split at h
    · cases h
      cases container <;> simp [Container.opener, Container.closer, Nat.add_comm]
    · cases h
  · rename_i h1 h2 h3 h4
    cases h
    have hcount {d : Char} (hd : c ≠ d) : [c].count d = 0 := by simp [hd]
    cases container with
    | array => exact congrArg (· + _) ((hcount h1).trans (hcount h3).symm)
    | object => exact congrArg (· + _) ((hcount h2).trans (hcount h4).symm)

namespace Place

variable {place next : Place} {container : Container}

/-- A character opens a container or closes one or neither, unless it is in a literal. -/
theorem count_after {c : Char} (h : place.after c = some next)
    (hopener : container.opener ∉ literalChars place.spot [c])
    (hcloser : container.closer ∉ literalChars place.spot [c]) :
    [c].count container.opener + place.opened.count container =
      [c].count container.closer + next.opened.count container := by
  obtain ⟨spot, opened⟩ := place
  have hinside (hopener : container.opener ∉ [c]) (hcloser : container.closer ∉ [c]) :
      [c].count container.opener = [c].count container.closer := by
    rw [List.count_eq_zero.2 hopener, List.count_eq_zero.2 hcloser]
  cases spot with
  | between =>
    obtain ⟨opened', hopened, rfl⟩ := Option.map_eq_some_iff.1 h
    exact count_openedAfter hopened container
  | within =>
    cases h
    rw [hinside hopener hcloser]
  | escaped =>
    cases h
    rw [hinside hopener hcloser]

/-- **Counting tells how many containers of a kind are open,** if none of the characters that open
and close them stands inside a literal. -/
theorem count_behind {cs : List Char} (h : place.behind cs = some next)
    (hopener : container.opener ∉ literalChars place.spot cs)
    (hcloser : container.closer ∉ literalChars place.spot cs) :
    cs.count container.opener + place.opened.count container =
      cs.count container.closer + next.opened.count container := by
  induction cs generalizing place with
  | nil =>
    cases h
    rfl
  | cons c cs ih =>
    rw [behind_cons] at h
    obtain ⟨mid, hmid, h⟩ := Option.bind_eq_some_iff.1 h
    have hspot : place.spot.behind [c] = mid.spot := (spot_of_after hmid).symm
    rw [← List.singleton_append, literalChars_append, List.mem_append, not_or, hspot]
      at hopener hcloser
    have hone := count_after hmid hopener.1 hcloser.1
    have hrest := ih h hopener.2 hcloser.2
    rw [← List.singleton_append, List.count_append, List.count_append]
    omega

end Place

/-! ## Texts that open containers

`Opens cs opened` is about every place that the text could stand at: the containers further out are
free, and the text leaves them as they are.  So texts that open containers can be put together
(`Opens.append`), and one that opens none can stand anywhere. -/

/-- Between literals, and whatever is open there, the text opens these containers, the innermost
first, and ends between literals. -/
def Opens (cs : List Char) (opened : List Container) : Prop :=
  ∀ outer, Place.behind ⟨.between, outer⟩ cs = some ⟨.between, opened ++ outer⟩

/-- The characters that close containers. -/
def closersOf (opened : List Container) : List Char := opened.map Container.closer

namespace Opens

variable {cs ds : List Char} {opened opened' : List Container}

theorem append (h : Opens cs opened) (h' : Opens ds opened') :
    Opens (cs ++ ds) (opened' ++ opened) := by
  intro outer
  rw [Place.behind_append, h, Option.bind_some, h', List.append_assoc]

/-- Behind a closed text nothing more is open. -/
theorem behind (h : Opens cs []) (h' : Opens ds opened) : Opens (cs ++ ds) opened := by
  simpa using h.append h'

theorem behind_start (h : Opens cs opened) :
    Place.start.behind cs = some ⟨.between, opened⟩ := by
  simpa [Place.start] using h []

theorem unique (h : Opens cs opened) (h' : Opens cs opened') : opened = opened' :=
  congrArg Place.opened (Option.some.inj (h.behind_start.symm.trans h'.behind_start))

theorem spot_eq (h : Opens cs opened) : Spot.between.behind cs = .between :=
  (Place.spot_of_behind (h [])).symm

theorem opener (container : Container) : Opens [container.opener] [container] := by
  intro outer
  cases container <;> rfl

/-- The innermost container is closed. -/
theorem close {container : Container} (h : Opens cs (container :: opened)) :
    Opens (cs ++ [container.closer]) opened := by
  intro outer
  rw [Place.behind_append, h]
  cases container <;> rfl

/-- **A container with a closed text in it** is closed. -/
theorem enclose (container : Container) (h : Opens cs []) :
    Opens (container.opener :: (cs ++ [container.closer])) [] := by
  have hopen : Opens ([container.opener] ++ cs) [container] := (opener container).append h
  exact hopen.close

end Opens

/-- **There is one way to close what is open** by closing characters alone. -/
theorem behind_eq_start_iff {opened : List Container} {z : List Char}
    (hz : ∀ c ∈ z, c = ']' ∨ c = '\x7d') :
    Place.behind ⟨.between, opened⟩ z = some Place.start ↔ z = closersOf opened := by
  constructor
  · intro h
    induction z generalizing opened with
    | nil =>
      obtain rfl : opened = [] := congrArg Place.opened (Option.some.inj h)
      rfl
    | cons c z ih =>
      rw [List.forall_mem_cons] at hz
      rw [Place.behind_cons] at h
      obtain ⟨next, hnext, h⟩ := Option.bind_eq_some_iff.1 h
      obtain ⟨outer, houter, rfl⟩ := Option.map_eq_some_iff.1 hnext
      rcases hz.1 with rfl | rfl
      · match opened, houter with
        | .array :: outer, rfl =>
          rw [ih hz.2 h]
          rfl
      · match opened, houter with
        | .object :: outer, rfl =>
          rw [ih hz.2 h]
          rfl
  · rintro rfl
    clear hz
    induction opened with
    | nil => rfl
    | cons container opened ih => cases container <;> exact ih

/-- An object is open inside an array that is open too. -/
def ObjectInArray (opened : List Container) : Prop := [Container.object, .array].Sublist opened

instance (opened : List Container) : Decidable (ObjectInArray opened) :=
  inferInstanceAs (Decidable (List.Sublist _ _))

theorem objectInArray_cons_array {opened : List Container} :
    ObjectInArray (.array :: opened) ↔ ObjectInArray opened := by
  simp [ObjectInArray, List.cons_sublist_cons']

theorem objectInArray_cons_object {opened : List Container} :
    ObjectInArray (.object :: opened) ↔ .array ∈ opened := by
  simp only [ObjectInArray, List.cons_sublist_cons', true_and, List.singleton_sublist]
  exact or_iff_right_of_imp fun h => h.subset (by simp)

/-- **Brackets first and braces after them** close what is open if no object is open inside an
array. -/
theorem closersOf_eq_iff {opened : List Container} :
    closersOf opened = List.replicate (opened.count .array) ']' ++
      List.replicate (opened.count .object) '\x7d' ↔ ¬ObjectInArray opened := by
  induction opened with
  | nil => simp [closersOf, ObjectInArray]
  | cons container opened ih =>
    cases container with
    | array =>
      rw [objectInArray_cons_array, ← ih, List.count_cons_self, List.count_cons_of_ne (by decide),
        List.replicate_succ, List.cons_append]
      exact List.cons_inj_right _
    | object =>
      rw [objectInArray_cons_object, List.count_cons_self, List.count_cons_of_ne (by decide)]
      by_cases harray : .array ∈ opened
      · obtain ⟨n, hn⟩ := Nat.exists_eq_add_one.2 (List.count_pos_iff.2 harray)
        rw [hn, List.replicate_succ, List.cons_append]
        refine iff_of_false (fun h => ?_) (not_not_intro harray)
        exact absurd (List.cons.inj h).1 (by decide)
      · have hinner := ih.2 fun h => harray (h.subset (by simp))
        rw [List.count_eq_zero.2 harray] at hinner ⊢
        exact iff_of_true (congrArg ('\x7d' :: ·) hinner) harray

/-! ## Quiet text

Text without any of the five characters does nothing to the scan. -/

/-- The scan does not look at the character between literals. -/
def isQuiet (c : Char) : Bool := !(['"', '[', ']', '\x7b', '\x7d'].contains c)

theorem opens_of_isQuiet {cs : List Char} (h : ∀ c ∈ cs, isQuiet c = true) : Opens cs [] := by
  intro outer
  induction cs with
  | nil => rfl
  | cons c cs ih =>
    rw [List.forall_mem_cons] at h
    have hc : c ≠ '"' ∧ c ≠ '[' ∧ c ≠ ']' ∧ c ≠ '\x7b' ∧ c ≠ '\x7d' := by simpa [isQuiet] using h.1
    have hopened : openedAfter outer c = some outer := by
      unfold openedAfter
      split <;> simp_all
    have hafter : Place.after ⟨.between, outer⟩ c = some ⟨.between, outer⟩ := by
      simp [Place.after, hopened, Spot.after, hc.1]
    rw [Place.behind_cons, hafter, Option.bind_some, ih h.2]

end CodeReview.Json
