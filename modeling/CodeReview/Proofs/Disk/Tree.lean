import Mathlib.Data.List.Basic
import Mathlib.Data.List.Nodup
import CodeReview.Proofs.Disk.Outline

/-!
# Trees of files

There are two ways to say what is below a directory.  One goes by entries: an entry of the
directory, or one of a directory that is an entry of it, and so on (`Node.HasEntry`).  The other
goes by places: what is found when the names are followed one after the other (`Node.at?`).  The
search goes along entries, and paths lead to places, so the two have to be brought together.

They agree if no directory has two entries of one name (`Node.hasEntry_iff_at?`).  With two, the
second is an entry but at no place.  A disk never has that, and `Node.hasDistinctNames` asks it of
a tree.

The entries of a directory come in some order that nobody relies on.  Trees that differ in the
order of entries only (`Node.Relisted`) have the same at every place (`Node.Relisted.face_at?`), as
long as the entries themselves are not looked at.
-/

set_option autoImplicit false

namespace CodeReview.Disk

/-- A name that an entry of a directory can have. -/
def isFileName (name : String) : Bool :=
  !Path.isIdle name && name != ".." && !name.toList.contains '/'

namespace Node

/-- To show something of a node, it may be assumed of the nodes in it. -/
theorem induction {motive : Node → Prop} (file : ∀ bytes, motive (file bytes))
    (link : ∀ target, motive (link target))
    (dir : ∀ entries : Entries, (∀ e ∈ entries, motive e.2) → motive (dir entries)) :
    ∀ n, motive n
  | .file bytes => file bytes
  | .link target => link target
  | .dir entries => dir entries fun e he =>
      have : sizeOf e.2 < sizeOf (Node.dir entries) := by
        have hmem := List.sizeOf_lt_of_mem he
        have hsnd : sizeOf e.2 < sizeOf e := by
          cases e
          simp only [Prod.mk.sizeOf_spec]
          omega
        have hdir : sizeOf (Node.dir entries) = 1 + sizeOf entries := Node.dir.sizeOf_spec entries
        omega
      induction file link dir e.2
termination_by n => sizeOf n
decreasing_by exact this

/-! ## Names

Conditions on the names of a directory are asked of all directories at once.  They are computed, so
that they can be decided for a tree that is given. -/

mutual

/-- The names in every directory at or below a node pass a test. -/
def everyListing (test : List String → Bool) : Node → Bool
  | .dir entries => test (entries.map Prod.fst) && everyListingAmong test entries
  | _ => true

/-- The same for the nodes of some entries. -/
def everyListingAmong (test : List String → Bool) : List (String × Node) → Bool
  | [] => true
  | (_, n) :: rest => n.everyListing test && everyListingAmong test rest

end

/-- No directory has two entries of one name. -/
def hasDistinctNames (n : Node) : Bool := n.everyListing fun names => decide names.Nodup

/-- All entries have names that an entry can have. -/
def hasFileNames (n : Node) : Bool := n.everyListing fun names => names.all isFileName

variable {test : List String → Bool} {entries entries' : Entries} {n n' m : Node} {name : String}
  {dirs : List String}

theorem everyListingAmong_iff :
    everyListingAmong test entries = true ↔ ∀ e ∈ entries, e.2.everyListing test = true := by
  induction entries with
  | nil => simp [everyListingAmong]
  | cons e entries ih => rw [everyListingAmong, Bool.and_eq_true, ih, List.forall_mem_cons]

theorem everyListing_dir : (dir entries).everyListing test = true ↔
    test (entries.map Prod.fst) = true ∧ ∀ e ∈ entries, e.2.everyListing test = true := by
  rw [everyListing, Bool.and_eq_true, everyListingAmong_iff]

theorem hasDistinctNames_iff : n.hasDistinctNames = true ↔
    (n.entries.map Prod.fst).Nodup ∧ ∀ e ∈ n.entries, e.2.hasDistinctNames = true := by
  cases n with
  | dir entries => exact everyListing_dir.trans (and_congr_left fun _ => decide_eq_true_iff)
  | file bytes => exact iff_of_true rfl ⟨List.nodup_nil, nofun⟩
  | link target => exact iff_of_true rfl ⟨List.nodup_nil, nofun⟩

theorem hasFileNames_iff : n.hasFileNames = true ↔
    (∀ e ∈ n.entries, isFileName e.1 = true) ∧ ∀ e ∈ n.entries, e.2.hasFileNames = true := by
  cases n with
  | dir entries =>
    refine everyListing_dir.trans (and_congr_left fun _ => ?_)
    rw [List.all_eq_true, List.forall_mem_map]
    rfl
  | file bytes => exact iff_of_true rfl ⟨nofun, nofun⟩
  | link target => exact iff_of_true rfl ⟨nofun, nofun⟩

/-! ## Entries

The names on the way are the directories that lead to an entry, and its own name comes last. -/

/-- An entry below a node: the directories that lead to it, its name, and what it is. -/
inductive HasEntry : Node → List String → String → Node → Prop
  | here {n m : Node} {name : String} (h : (name, m) ∈ n.entries) : HasEntry n [] name m
  | inside {n k m : Node} {dir name : String} {dirs : List String} (h : (dir, k) ∈ n.entries)
      (rest : HasEntry k dirs name m) : HasEntry n (dir :: dirs) name m

theorem hasEntry_nil_iff : n.HasEntry [] name m ↔ (name, m) ∈ n.entries :=
  ⟨fun h => by cases h; assumption, .here⟩

theorem hasEntry_cons_iff {dir : String} : n.HasEntry (dir :: dirs) name m ↔
    ∃ k, (dir, k) ∈ n.entries ∧ k.HasEntry dirs name m :=
  ⟨fun h => by cases h; exact ⟨_, ‹_›, ‹_›⟩, fun ⟨_, h, rest⟩ => .inside h rest⟩

/-- Only a directory has entries. -/
theorem exists_eq_dir_of_mem {e : String × Node} (h : e ∈ n.entries) :
    ∃ entries, n = dir entries := by
  cases n with
  | dir entries => exact ⟨entries, rfl⟩
  | _ => cases h

theorem HasEntry.exists_eq_dir (h : n.HasEntry dirs name m) : ∃ entries, n = dir entries := by
  cases h with
  | here h => exact exists_eq_dir_of_mem h
  | inside h rest => exact exists_eq_dir_of_mem h

/-- **The names on the way to an entry** are names that an entry can have. -/
theorem HasEntry.isFileName (h : n.HasEntry dirs name m) (hnames : n.hasFileNames = true) :
    ∀ part ∈ dirs ++ [name], isFileName part = true := by
  induction h with
  | here h => exact List.forall_mem_singleton.2 ((hasFileNames_iff.1 hnames).1 _ h)
  | inside h rest ih =>
    obtain ⟨hhere, hinside⟩ := hasFileNames_iff.1 hnames
    exact List.forall_mem_cons.2 ⟨hhere _ h, ih (hinside _ h)⟩

theorem lookup_eq_some_iff_mem (h : (entries.map Prod.fst).Nodup) :
    entries.lookup name = some n ↔ (name, n) ∈ entries := by
  induction entries with
  | nil => simp
  | cons e entries ih =>
    obtain ⟨first, m⟩ := e
    rw [List.map_cons, List.nodup_cons] at h
    rw [List.lookup_cons, List.mem_cons, Prod.mk.injEq]
    by_cases hname : name = first
    · subst hname
      have hnew : (name, n) ∉ entries := fun hmem => h.1 (List.mem_map.2 ⟨_, hmem, rfl⟩)
      simp [hnew, eq_comm]
    · rw [beq_false_of_ne hname]
      simp [hname, ih h.2]

theorem lookup_perm (h : entries.Perm entries') (hnodup : (entries.map Prod.fst).Nodup)
    (name : String) : entries.lookup name = entries'.lookup name := by
  have hnodup' : (entries'.map Prod.fst).Nodup := (h.map Prod.fst).nodup_iff.1 hnodup
  refine Option.ext fun m => ?_
  rw [lookup_eq_some_iff_mem hnodup, lookup_eq_some_iff_mem hnodup', h.mem_iff]

/-- **An entry is what is at its place.** -/
theorem hasEntry_iff_at? (h : n.hasDistinctNames = true) :
    n.HasEntry dirs name m ↔ n.at? (dirs ++ [name]) = some m := by
  induction dirs generalizing n with
  | nil =>
    obtain ⟨hnodup, -⟩ := hasDistinctNames_iff.1 h
    rw [hasEntry_nil_iff, ← lookup_eq_some_iff_mem hnodup]
    show _ ↔ (n.child? name).bind some = some m
    rw [Option.bind_fun_some]
    rfl
  | cons dir dirs ih =>
    obtain ⟨hnodup, hinside⟩ := hasDistinctNames_iff.1 h
    rw [hasEntry_cons_iff, List.cons_append, at?, Option.bind_eq_some_iff]
    refine exists_congr fun k => ?_
    rw [← lookup_eq_some_iff_mem hnodup]
    refine and_congr_right fun hk => ih (hinside _ ((lookup_eq_some_iff_mem hnodup).1 hk))

theorem at?_append (n : Node) (place names : Place) :
    n.at? (place ++ names) = (n.at? place).bind fun m => m.at? names := by
  induction place generalizing n with
  | nil => rfl
  | cons name place ih =>
    rw [List.cons_append, at?, at?, Option.bind_assoc]
    exact congrArg _ (funext ih)

theorem hasDistinctNames_of_at? {place : Place} (h : n.hasDistinctNames = true)
    (hm : n.at? place = some m) : m.hasDistinctNames = true := by
  induction place generalizing n with
  | nil =>
    obtain rfl := Option.some.inj hm
    exact h
  | cons name place ih =>
    obtain ⟨hnodup, hinside⟩ := hasDistinctNames_iff.1 h
    obtain ⟨k, hk, hm⟩ := Option.bind_eq_some_iff.1 hm
    exact ih (hinside _ ((lookup_eq_some_iff_mem hnodup).1 hk)) hm

/-! ## The order of entries

`Relisted` is a relation of trees: one directory is reordered, somewhere, and this any number of
times. -/

/-- The tree with the entries of some directories in another order. -/
inductive Relisted : Node → Node → Prop
  | refl (n : Node) : Relisted n n
  | trans {n m k : Node} (h : Relisted n m) (h' : Relisted m k) : Relisted n k
  | perm {entries entries' : Entries} (h : entries.Perm entries') :
      Relisted (.dir entries) (.dir entries')
  | inside {n n' : Node} (h : Relisted n n') (before : Entries) (name : String) (behind : Entries) :
      Relisted (.dir (before ++ (name, n) :: behind)) (.dir (before ++ (name, n') :: behind))

theorem Relisted.hasDistinctNames (h : n.Relisted n') (hn : n.hasDistinctNames = true) :
    n'.hasDistinctNames = true := by
  induction h with
  | refl n => exact hn
  | trans _ _ ih ih' => exact ih' (ih hn)
  | perm h =>
    obtain ⟨hnodup, hinside⟩ := hasDistinctNames_iff.1 hn
    exact hasDistinctNames_iff.2
      ⟨(h.map Prod.fst).nodup_iff.1 hnodup, fun e he => hinside e (h.mem_iff.2 he)⟩
  | inside h before name behind ih =>
    obtain ⟨hnodup, hinside⟩ := hasDistinctNames_iff.1 hn
    refine hasDistinctNames_iff.2 ⟨?_, ?_⟩
    · simpa [Node.entries] using hnodup
    · simp only [Node.entries, List.forall_mem_append, List.forall_mem_cons] at hinside ⊢
      exact ⟨hinside.1, ih hinside.2.1, hinside.2.2⟩

/-- What is seen of a node, the entries of a directory left aside. -/
def face (n : Node) : Kind × Option ByteArray := (n.kind, n.bytes?)

/-- **The order of entries does not show** at any place. -/
theorem Relisted.face_at? (h : n.Relisted n') (hn : n.hasDistinctNames = true) (place : Place) :
    (n.at? place).map face = (n'.at? place).map face := by
  induction h generalizing place with
  | refl n => rfl
  | trans h _ ih ih' => exact (ih hn place).trans (ih' (h.hasDistinctNames hn) place)
  | perm h =>
    rename_i entries entries'
    obtain ⟨hnodup, -⟩ := hasDistinctNames_iff.1 hn
    cases place with
    | nil => rfl
    | cons name names =>
      rw [at?, at?, child?, child?, Node.entries, Node.entries, lookup_perm h hnodup]
  | inside h before name behind ih =>
    obtain ⟨-, hinside⟩ := hasDistinctNames_iff.1 hn
    cases place with
    | nil => rfl
    | cons other names =>
      rw [at?, at?, child?, child?, Node.entries, Node.entries, List.lookup_append,
        List.lookup_append, List.lookup_cons, List.lookup_cons]
      cases before.lookup other with
      | some m => rfl
      | none =>
        rw [Option.none_or, Option.none_or]
        cases other == name with
        | true => exact ih (hinside _ List.mem_append_cons_self) names
        | false => rfl

end Node
end CodeReview.Disk
