import CodeReview.Proofs.Json.Closed
import CodeReview.Proofs.Json.Object

/-!
# Texts that are completed

A cut text that is closed by the right characters is JSON again, and this file says which
characters those are.  Let the cut be behind a brace that does not stand inside a literal.  That
brace ends an object, so what is open there is open behind a whole item or a whole field.  The
closing characters of the open containers, the innermost first, then complete the text
(`read_completed`).

This is the other half of what `Cut.lean` says.  There a closed text is read as a cut value *if* it
is read; here it *is* read, for one closing text at least.  That it is the only one of brackets and
braces follows from the scan (`behind_eq_start_iff`).

`Completes outer read` is the property that the grammar is climbed with.  `outer` are the
containers that the reader stands in and is itself to close: none for a value, one for the inside
of a container, which is read up to its closing character.  The text behind, `tail`, is arbitrary,
as the containers further out put their own closing characters there.
-/

set_option autoImplicit false

namespace CodeReview.Json

open CodeReview.Text

variable {α : Type}

/-- The reader stands inside the containers `outer`.  Where the text is cut behind a brace and
between literals, it opens some more containers, and the closing characters of them all complete
it. -/
def Completes (outer : List Container) (read : Reader α) : Prop :=
  ∀ ⦃p q rest a⦄, EndsInBrace p → Spot.between.behind p = .between →
    read (p ++ q) = .ok (a, rest) → rest.length < q.length →
      ∃ opened, Opens p opened ∧
        ∀ tail, ∃ a', read (p ++ (closersOf (opened ++ outer) ++ tail)) = .ok (a', tail)

/-- What is behind a closed text is between literals if the whole is. -/
theorem Opens.spot_behind {cs ds : List Char} (h : Opens cs [])
    (hspot : Spot.between.behind (cs ++ ds) = .between) : Spot.between.behind ds = .between := by
  rwa [Spot.behind_append, h.spot_eq] at hspot

/-! ## Sequences

The cut is inside an item, or behind one and before the next.  In the first case the item is
completed and the closing character follows it; in the second the closing character follows the
item that is whole, and the comma that stood there is not reached. -/

section Sequence

variable {item : Reader α} {IsCut : List Char → α → α → Prop} {missing : Cause}

theorem Container.skipSpace_closer (container : Container) (cs : List Char) :
    skipSpace (container.closer :: cs) = container.closer :: cs := by
  cases container <;> rfl

theorem readAll_of_closer (hitem : Takes item) (hnil : item [] = .error (.fault missing 0))
    {container : Container} {cs tail : List Char} {a : α}
    (h : item cs = .ok (a, container.closer :: tail)) :
    readAll item container.closer missing cs = .ok ([a], tail) := by
  rw [readAll_of_cons hitem hnil h (container.skipSpace_closer tail), if_pos rfl]

/-- **A sequence is completed** behind an item, or with one that is completed. -/
theorem completes_readAll (hitem : Takes item) (hnil : item [] = .error (.fault missing 0))
    (hcuts : ReadsCuts item IsCut) (hcloses : Closes item) (hcompletes : Completes [] item)
    (container : Container) :
    Completes [container] (readAll item container.closer missing) := by
  intro p q rest as hp hspot h hlt
  induction hlen : p.length using Nat.strongRecOn generalizing p as with | ind n ih
  obtain ⟨a, behind, hi, -⟩ := readAll_cases hitem hnil h
  have hcut := hcuts hp hi
  unfold ReadsCut at hcut
  rcases hcut with ⟨r, rfl, hz⟩ | ⟨hinside, -⟩
  · obtain ⟨taken, htaken, hclosed⟩ := hcloses (hz [])
    rw [List.append_nil, List.append_nil] at htaken
    by_cases hr : r = []
    · -- the cut is right behind the item
      subst hr
      rw [List.append_nil] at htaken
      refine ⟨[], htaken ▸ hclosed, fun tail => ⟨[a], ?_⟩⟩
      exact readAll_of_closer hitem hnil (hz _)
    · have hend : EndsInBrace r := (htaken ▸ hp).of_append hr
      have hshort := hitem.length_lt (hz [])
      rw [List.append_nil, List.append_nil] at hshort
      rcases readAll_behind_item hitem hnil hend hz h with
        ⟨r', rfl, -⟩ | ⟨r', as', hr', hend', rfl, hm, hz'⟩
      · rw [List.length_append] at hlt
        omega
      · have hle := length_skipSpace_le r
        have hle' := length_skipSpace_le r'
        rw [hr', List.length_cons] at hle
        obtain ⟨between, hbetween, hopens⟩ := (quietTo_separator (by decide) hr').opens
        have hbefore : Opens (taken ++ between) [] := hclosed.behind hopens
        have hsplit : p = taken ++ between ++ skipSpace r' := by
          rw [List.append_assoc, ← hbetween, htaken]
        rw [hsplit] at hspot
        obtain ⟨opened, hopened, hread⟩ :=
          ih _ (by omega) hend'.skipSpace (hbefore.spot_behind hspot) hm rfl
        refine ⟨opened, hsplit ▸ hbefore.behind hopened, fun tail => ?_⟩
        obtain ⟨more, hmore⟩ := hread tail
        exact ⟨a :: more, by rw [hz', hmore]; rfl⟩
  · obtain ⟨opened, hopened, hread⟩ := hcompletes hp hspot hi hinside
    refine ⟨opened, hopened, fun tail => ?_⟩
    obtain ⟨a', ha'⟩ := hread (container.closer :: tail)
    refine ⟨[a'], readAll_of_closer hitem hnil ?_⟩
    rw [← ha']
    simp [closersOf]

end Sequence

/-! ## Values

A literal has nothing to be completed with, but a cut inside one is not between literals
(`not_between_of_readString`), so this case does not arise.  Words and numbers end before a brace,
so none of them is cut. -/

variable [Spare] {value : Reader Value}

/-- **A cut inside a literal** is not between literals. -/
theorem not_between_of_readString {opening spelled p q rest : List Char} {s : String}
    (h : readString opening spelled (p ++ q) = .ok (s, rest)) (hlt : rest.length < q.length) :
    Spot.between.behind ('"' :: p) ≠ .between := by
  obtain ⟨body, hbody, hstays⟩ := readString_staysWithin h
  refine hstays.ne_between_of_prefix ?_
  have hlen := congrArg List.length hbody
  rw [List.length_append, List.length_append, List.length_cons] at hlen
  exact List.prefix_of_prefix_length_le (List.prefix_append p q) (hbody ▸ List.prefix_append body _)
    (by omega)

theorem completes_readField (hvalue : Completes [] value) : Completes [] (readField value) := by
  intro p q rest f hp hspot h hlt
  obtain ⟨name, v⟩ := f
  obtain ⟨text, more, behind, hcs, hs, hr, hv⟩ := readField_cases h
  obtain ⟨p, rfl, hp', rfl⟩ := hp.exists_cons hcs (by decide)
  rcases readString_cut hp' hs with ⟨r, -, hend, hz⟩ | ⟨hinside, -⟩
  · obtain ⟨r', hr', hend', hv, hz'⟩ := readField_behind_name hend hz h
    obtain ⟨body, hbody, hstays⟩ := readString_staysWithin (hz [] [])
    rw [List.append_nil, List.append_nil] at hbody
    obtain ⟨between, hbetween, hopens⟩ := (quietTo_separator (by decide) hr').opens
    have hbefore : Opens ('"' :: (body ++ ['"']) ++ between) [] := hstays.opens.behind hopens
    have hsplit : '"' :: p = '"' :: (body ++ ['"']) ++ between ++ skipSpace r' := by
      rw [List.append_assoc, ← hbetween, hbody]
      simp
    rw [hsplit] at hspot
    obtain ⟨opened, hopened, hread⟩ := hvalue hend'.skipSpace (hbefore.spot_behind hspot) hv hlt
    refine ⟨opened, hsplit ▸ hbefore.behind hopened, fun tail => ?_⟩
    obtain ⟨v', hv'⟩ := hread tail
    exact ⟨(name, v'), by rw [hz', hv']; rfl⟩
  · exact absurd hspot (not_between_of_readString hs hinside)

omit [Spare] in
theorem completes_readArray {IsCut : List Char → Value → Value → Prop} (hvalue : Takes value)
    (hnil : value [] = .error (.fault .valueExpected 0)) (hcuts : ReadsCuts value IsCut)
    (hcloses : Closes value) (hcompletes : Completes [] value) :
    Completes [.array] (readArray value) := by
  intro p q rest v hp hspot h hlt
  rcases readArray_before_cut hvalue hnil hp with ⟨r, hread⟩ | hread
  · rw [hread] at h
    obtain ⟨-, rfl⟩ := Prod.mk.inj (Except.ok.inj h)
    rw [List.length_append] at hlt
    omega
  · rw [hread] at h
    obtain ⟨items, ha, -⟩ := exists_of_map_eq_ok h
    obtain ⟨blanks, hblanks, hopens⟩ := (quietTo_skipSpace p).opens
    rw [hblanks] at hspot
    obtain ⟨opened, hopened, hmore⟩ :=
      completes_readAll hvalue hnil hcuts hcloses hcompletes .array hp.skipSpace
        (hopens.spot_behind hspot) ha hlt
    refine ⟨opened, hblanks ▸ hopens.behind hopened, fun tail => ?_⟩
    obtain ⟨items', hitems⟩ := hmore tail
    exact ⟨.arr items', by rw [hread]; exact congrArg _ hitems⟩

theorem completes_readWritten (hvalue : Takes value) (hcuts : ReadsCuts value IsCutValue)
    (hcloses : Closes value) (hcompletes : Completes [] value) :
    Completes [.object] (readWritten value) := by
  intro p q rest written hp hspot h hlt
  rcases readWritten_before_cut hvalue hp with ⟨r, hread⟩ | hread
  · rw [hread] at h
    obtain ⟨-, rfl⟩ := Prod.mk.inj (Except.ok.inj h)
    rw [List.length_append] at hlt
    omega
  · rw [hread] at h
    obtain ⟨blanks, hblanks, hopens⟩ := (quietTo_skipSpace p).opens
    rw [hblanks] at hspot
    obtain ⟨opened, hopened, hmore⟩ :=
      completes_readAll (takes_readField hvalue) (readField_nil value)
        (readsCuts_readField hvalue hcuts) (closes_readField hcloses)
        (completes_readField hcompletes) .object hp.skipSpace (hopens.spot_behind hspot) h hlt
    refine ⟨opened, hblanks ▸ hopens.behind hopened, fun tail => ?_⟩
    rw [hread]
    exact hmore tail

omit [Spare] in
/-- The container around what a reader completes is one that it opens itself. -/
theorem Completes.enclose {read : Reader α} {container : Container} (h : Completes [container] read)
    {p q rest : List Char} {a : α} (hp : EndsInBrace p)
    (hspot : Spot.between.behind (container.opener :: p) = .between)
    (hread : read (p ++ q) = .ok (a, rest)) (hlt : rest.length < q.length) :
    ∃ opened, Opens (container.opener :: p) (opened ++ [container]) ∧
      ∀ tail, ∃ a', read (p ++ (closersOf (opened ++ [container]) ++ tail)) = .ok (a', tail) := by
  have hopener : Spot.between.after container.opener = .between := by cases container <;> rfl
  rw [Spot.behind, List.foldl_cons, hopener] at hspot
  obtain ⟨opened, hopened, hmore⟩ := h hp hspot hread hlt
  exact ⟨opened, (Opens.opener container).append hopened, hmore⟩

/-- **A value is completed** by the closing characters of the containers that are open in it. -/
theorem completes_readValue (depth : Nat) : Completes [] (readValue depth) := by
  induction depth using Nat.strongRecOn with | ind depth ih
  intro p q rest v hp hspot h hlt
  obtain ⟨text, s, hcs, hs, -⟩ | ⟨inner, text, written, rfl, hcs, hw, -⟩ |
    ⟨inner, text, rfl, hcs, ha⟩ | ⟨c, text, -, -, -, -, hplain⟩ := readValue_cases h
  · obtain ⟨p, rfl, hp', rfl⟩ := hp.exists_cons hcs (by decide)
    exact absurd hspot (not_between_of_readString hs hlt)
  · obtain ⟨p, rfl, hp', rfl⟩ := hp.exists_cons hcs (by decide)
    have hinner := completes_readWritten (takes_readValue inner) (readsCuts_readValue inner)
      (closes_readValue inner) (ih inner (Nat.lt_succ_self inner))
    obtain ⟨opened, hopened, hmore⟩ := hinner.enclose hp' hspot hw hlt
    refine ⟨opened ++ [Container.object], hopened, fun tail => ?_⟩
    obtain ⟨written', hread⟩ := hmore tail
    refine ⟨.obj (Fields.ofWritten written'), ?_⟩
    rw [List.append_nil, List.cons_append, readValue_brace, hread]
    rfl
  · obtain ⟨p, rfl, hp', rfl⟩ := hp.exists_cons hcs (by decide)
    have hinner := completes_readArray (takes_readValue inner) (readValue_nil inner)
      (readsCuts_readValue inner) (closes_readValue inner) (ih inner (Nat.lt_succ_self inner))
    obtain ⟨opened, hopened, hmore⟩ := hinner.enclose hp' hspot ha hlt
    refine ⟨opened ++ [Container.array], hopened, fun tail => ?_⟩
    rw [List.append_nil, List.cons_append, readValue_bracket]
    exact hmore tail
  · -- a word or a number ends before the brace does
    obtain ⟨a, rfl⟩ := hp.exists_eq
    rw [List.append_assoc, List.singleton_append] at hplain
    obtain ⟨r, rfl, -⟩ := readPlain_append_brace hplain
    rw [List.length_append, List.length_cons] at hlt
    omega

/-! ## Whole texts

The object of a whole text is never complete in front of the cut, as the cut is inside it; so at
least one container is open. -/

/-- **A text that is read** leaves nothing open. -/
theorem opens_of_read {text : String} {v : Value} (h : read text = .ok v) :
    Opens text.toList [] := by
  obtain ⟨rest, hv, hnil⟩ := readChars_eq_ok (read_eq_ok.1 h)
  obtain ⟨blanks, hblanks, hopens⟩ := (quietTo_skipSpace text.toList).opens
  obtain ⟨taken, htaken, hclosed⟩ := closes_readValue maxDepth hv
  obtain ⟨blanks', hblanks', hopens'⟩ := (quietTo_skipSpace rest).opens
  rw [hnil, List.append_nil] at hblanks'
  rw [hblanks, htaken, hblanks']
  exact hopens.behind (hclosed.behind hopens')

/-- **An object that is cut off** between literals is open, and the closing characters of what is
open in it complete it. -/
theorem read_completed {p q rest : List Char} {written : Fields} (hp : EndsInBrace p)
    (hspot : Spot.between.behind ('\x7b' :: p) = .between)
    (h : readWritten (readValue (maxDepth - 1)) (p ++ (q ++ rest)) = .ok (written, rest))
    (hq : q ≠ []) :
    ∃ opened, opened ≠ [] ∧ Opens ('\x7b' :: p) opened ∧
      ∃ fields, readChars ('\x7b' :: p ++ closersOf opened) = .ok (.obj fields) := by
  have hcompletes := completes_readWritten (takes_readValue (maxDepth - 1))
    (readsCuts_readValue (maxDepth - 1)) (closes_readValue (maxDepth - 1))
    (completes_readValue (maxDepth - 1))
  have hlt : rest.length < (q ++ rest).length := by
    have := List.length_pos_iff.2 hq
    rw [List.length_append]
    omega
  obtain ⟨opened, hopened, hmore⟩ := hcompletes.enclose hp hspot h hlt
  obtain ⟨cut, hread⟩ := hmore []
  rw [List.append_nil] at hread
  refine ⟨opened ++ [Container.object], by simp, hopened, Fields.ofWritten cut, ?_⟩
  rw [List.cons_append, readChars_brace, hread]
  rfl

end CodeReview.Json
