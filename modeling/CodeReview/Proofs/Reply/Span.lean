import CodeReview.Proofs.Json.Closing
import CodeReview.Reply.Span
import Mathlib.Data.List.TakeWhile

/-!
# The span of a reply that is cut off

The span of a reply is the text from the first opening brace to the last closing one behind it.  If
the reply is cut off, its span is a part of the object that was cut, from its opening brace to *a*
closing one (`extract?_of_prefix`): the prose before the object has no opening brace, so the start
is the same, and what is behind the last brace that is left is lost.

Balancing such a span only puts closing characters behind it (`balance_eq`).  In general it also
trims the text and drops a comma at its end, but a text that ends in a brace has neither at its
end. How many closing characters there are is another question, which is left open here: the number
is a count over the whole span, and strings may have brackets in them.
-/

set_option autoImplicit false

namespace CodeReview.Reply.Span

open CodeReview.Text CodeReview.Json

variable {p : Char → Bool} {cs ds : List Char}

/-! ## Runs at the ends of a text

Both ends of a span are found by dropping characters up to a brace.  At the end this is done on the
reversed text, so each fact is proved once more for it. -/

theorem dropWhile_prefix_of_prefix (h : cs <+: ds) : cs.dropWhile p <+: ds.dropWhile p := by
  obtain ⟨rest, rfl⟩ := h
  induction cs with
  | nil => exact List.nil_prefix
  | cons c cs ih =>
    rw [List.cons_append, List.dropWhile_cons, List.dropWhile_cons]
    split
    · exact ih
    · exact List.prefix_append _ _

theorem dropWhile_append_of_not_mem {c : Char} (h : c ∉ cs) :
    (cs ++ ds).dropWhile (· != c) = ds.dropWhile (· != c) :=
  List.dropWhile_append_of_pos fun d hd => by
    rw [bne_iff_ne]
    rintro rfl
    exact h hd

theorem dropEndWhile_isPrefix (p : Char → Bool) (cs : List Char) : dropEndWhile p cs <+: cs :=
  ⟨_, dropEndWhile_append_self p cs⟩

theorem dropEndWhile_of_getLast? {c : Char} (h : cs.getLast? = some c) (hc : p c = false) :
    dropEndWhile p cs = cs := by
  rw [List.getLast?_eq_head?_reverse] at h
  rw [dropEndWhile]
  cases hr : cs.reverse with
  | nil => simp [hr] at h
  | cons d ds =>
    obtain rfl : d = c := by simpa [hr] using h
    rw [List.dropWhile_cons_of_neg (by simp [hc]), ← hr, List.reverse_reverse]

theorem dropEndWhile_append_of_all (h : ∀ c ∈ ds, p c = true) :
    dropEndWhile p (cs ++ ds) = dropEndWhile p cs := by
  rw [dropEndWhile, dropEndWhile, List.reverse_append,
    List.dropWhile_append_of_pos fun c hc => h c (List.mem_reverse.1 hc)]

theorem dropEndWhile_eq_nil_iff : dropEndWhile p cs = [] ↔ ∀ c ∈ cs, p c = true := by
  rw [dropEndWhile, List.reverse_eq_nil_iff, List.dropWhile_eq_nil_iff]
  simp only [List.mem_reverse]

/-- Nothing is dropped before what is left. -/
theorem dropEndWhile_append_of_ne_nil (h : dropEndWhile p ds ≠ []) :
    dropEndWhile p (cs ++ ds) = cs ++ dropEndWhile p ds := by
  rw [dropEndWhile, Ne, List.reverse_eq_nil_iff] at h
  rw [dropEndWhile, dropEndWhile, List.reverse_append, List.dropWhile_append,
    if_neg (by rwa [List.isEmpty_iff]), List.reverse_append, List.reverse_reverse]

/-- Nothing is dropped before a character that stays. -/
theorem dropEndWhile_append {c : Char} (h : cs.getLast? = some c) (hc : p c = false)
    (ds : List Char) : dropEndWhile p (cs ++ ds) = cs ++ dropEndWhile p ds := by
  by_cases hds : ∀ d ∈ ds, p d = true
  · rw [dropEndWhile_append_of_all hds, dropEndWhile_eq_nil_iff.2 hds, List.append_nil,
      dropEndWhile_of_getLast? h hc]
  · exact dropEndWhile_append_of_ne_nil fun hnil => hds (dropEndWhile_eq_nil_iff.1 hnil)

/-- What is dropped at the end of a text is a run of what may be dropped. -/
theorem exists_run (p : Char → Bool) (cs : List Char) :
    ∃ run, cs = dropEndWhile p cs ++ run ∧ ∀ c ∈ run, p c = true :=
  ⟨_, (dropEndWhile_append_self p cs).symm,
    fun _ hc => List.mem_takeWhile_imp (List.mem_reverse.1 hc)⟩

/-- What is left of a text behind its last brace is nothing, or it ends in the brace. -/
theorem endsInBrace_dropEndWhile (h : dropEndWhile (· != '\x7d') cs ≠ []) :
    EndsInBrace (dropEndWhile (· != '\x7d') cs) := by
  rw [EndsInBrace, dropEndWhile, List.getLast?_reverse]
  cases hr : cs.reverse.dropWhile (· != '\x7d') with
  | nil => exact absurd (by rw [dropEndWhile, hr, List.reverse_nil]) h
  | cons c rest =>
    have hc := List.head?_dropWhile_not (· != '\x7d') cs.reverse
    rw [hr, List.head?_cons] at hc
    simpa using hc

/-! ## The span

The prose behind the object matters when the reply is cut behind the object, and must have no
closing brace then. -/

/-- A part of a text from its start on that ends in a brace does not reach behind the last brace. -/
theorem prefix_of_endsInBrace (hcs : EndsInBrace cs) {rest : List Char} (hrest : '\x7d' ∉ rest)
    (h : cs <+: ds ++ rest) : cs <+: ds := by
  rcases List.prefix_or_prefix_of_prefix h (List.prefix_append ds rest) with hle | ⟨t, rfl⟩
  · exact hle
  · by_cases ht : t = []
    · simp only [ht, List.append_nil, List.prefix_rfl]
    · have hmem : '\x7d' ∈ t := List.mem_of_getLast? (hcs.of_append ht)
      exact absurd (((List.prefix_append_right_inj ds).1 h).subset hmem) hrest

section Reply

variable {start object rest : List Char}

theorem dropWhile_reply (hstart : '\x7b' ∉ start) (hobject : object.head? = some '\x7b') :
    (start ++ object ++ rest).dropWhile (· != '\x7b') = object ++ rest := by
  rw [List.append_assoc, dropWhile_append_of_not_mem hstart]
  cases object with
  | nil => cases hobject
  | cons c object =>
    obtain rfl : c = '\x7b' := by simpa using hobject
    rfl

/-- **The span of a cut reply** is a part of the object in the reply. -/
theorem extract?_of_prefix (hstart : '\x7b' ∉ start) (hobject : object.head? = some '\x7b')
    (hrest : '\x7d' ∉ rest) (h : cs <+: start ++ object ++ rest) :
    extract? cs = none ∨
      ∃ span, extract? cs = some span ∧ span <+: object ∧ EndsInBrace span := by
  have hdrop : cs.dropWhile (· != '\x7b') <+: object ++ rest :=
    dropWhile_reply hstart hobject ▸ dropWhile_prefix_of_prefix h
  rw [extract?]
  split
  · exact .inl rfl
  · rename_i hne
    have hend := endsInBrace_dropEndWhile hne
    have hprefix := (dropEndWhile_isPrefix (· != '\x7d') _).trans hdrop
    exact .inr ⟨_, rfl, prefix_of_endsInBrace hend hrest hprefix, hend⟩

/-- What is left of a text with a brace in it behind its last brace. -/
theorem exists_append_of_mem (h : '\x7d' ∈ cs) :
    EndsInBrace (dropEndWhile (· != '\x7d') cs) ∧
      ∃ lost, '\x7d' ∉ lost ∧ cs = dropEndWhile (· != '\x7d') cs ++ lost := by
  have hsplit := dropEndWhile_append_self (· != '\x7d') cs
  have hlost : '\x7d' ∉ (cs.reverse.takeWhile (· != '\x7d')).reverse := by
    intro hmem
    have hbrace := List.mem_takeWhile_imp (List.mem_reverse.1 hmem)
    exact absurd rfl (bne_iff_ne.1 hbrace)
  refine ⟨endsInBrace_dropEndWhile fun hnil => ?_, _, hlost, hsplit.symm⟩
  rw [← hsplit, hnil] at h
  exact hlost h

/-- The whole object is the span of the whole reply. -/
theorem extract?_eq_some (hstart : '\x7b' ∉ start) (hobject : object.head? = some '\x7b')
    (hend : EndsInBrace object) (hrest : '\x7d' ∉ rest) :
    extract? (start ++ object ++ rest) = some object := by
  rw [extract?, dropWhile_reply hstart hobject, dropEndWhile_append_of_all,
    dropEndWhile_of_getLast? hend (by decide)]
  · cases object with
    | nil => cases hobject
    | cons c object => rfl
  · intro c hc
    rw [bne_iff_ne]
    rintro rfl
    exact hrest hc

end Reply

/-- **The span of a reply that is cut inside its object** is the reply back to its last brace, less
what stands before the object. -/
theorem exists_span_of_cut {start object rest cut behind : List Char} (hstart : '\x7b' ∉ start)
    (hstart' : '\x7d' ∉ start) (hobject : object.head? = some '\x7b') (hrest : '\x7d' ∉ rest)
    (hsplit : cut ++ behind = start ++ object ++ rest) (hcut : '\x7d' ∈ cut)
    (hbehind : '\x7d' ∈ behind) :
    ∃ span q, dropEndWhile (· != '\x7d') cut = start ++ span ∧ EndsInBrace span ∧ q ≠ [] ∧
      object = span ++ q ∧ extract? cut = some span := by
  obtain ⟨hend, lost, hlost, hcutLost⟩ := exists_append_of_mem hcut
  generalize dropEndWhile (· != '\x7d') cut = kept at hend hcutLost
  subst hcutLost
  have hprefix : kept <+: start ++ object := by
    refine prefix_of_endsInBrace hend hrest ?_
    rw [← hsplit, List.append_assoc]
    exact List.prefix_append _ _
  rcases List.prefix_or_prefix_of_prefix hprefix (List.prefix_append start object) with
    hbefore | ⟨span, rfl⟩
  · exact absurd (hbefore.subset (List.mem_of_getLast? hend)) hstart'
  obtain ⟨q, rfl⟩ := (List.prefix_append_right_inj start).1 hprefix
  have hne : span ≠ [] := by
    rintro rfl
    rw [List.append_nil] at hend
    exact hstart' (List.mem_of_getLast? hend)
  have hq : q ≠ [] := by
    rintro rfl
    rw [List.append_nil, List.append_assoc, List.append_assoc, List.append_assoc] at hsplit
    have hrest' := List.append_cancel_left (List.append_cancel_left hsplit)
    exact hrest (hrest' ▸ List.mem_append_right lost hbehind)
  have hspan : EndsInBrace span := hend.of_append hne
  have hhead : span.head? = some '\x7b' := by
    obtain ⟨c, p, rfl⟩ := List.exists_cons_of_ne_nil hne
    exact hobject
  exact ⟨span, q, rfl, hspan, hq, rfl, extract?_eq_some hstart hhead hspan hlost⟩

/-! ## Balancing

What balancing appends is brackets and then braces, so it is closing in the sense of `IsClosing`. -/

theorem balance_of_endsInBrace (h : EndsInBrace cs) :
    balance cs = cs ++ (closers '[' ']' cs ++ closers '\x7b' '\x7d' cs) := by
  have hcomma : cs.getLast? ≠ some ',' := by
    rw [h]
    decide
  rw [balance, trimEnd, dropEndWhile_of_getLast? h (by decide), dropFinalComma, if_neg hcomma,
    List.append_assoc]

/-- **Balancing puts closing characters behind a span that ends in a brace.** -/
theorem balance_eq (h : EndsInBrace cs) : ∃ z, balance cs = cs ++ z ∧ IsClosing z :=
  ⟨_, balance_of_endsInBrace h, _, _, rfl⟩

end CodeReview.Reply.Span
