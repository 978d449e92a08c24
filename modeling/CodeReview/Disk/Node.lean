import CodeReview.Disk.Fault
import CodeReview.Disk.Path

/-!
# A tree of files

What is on a disk: files with their bytes, links with the path they lead to, and directories with
named entries.  A place in the tree is the list of names that lead to it from the root.
-/

set_option autoImplicit false

namespace CodeReview.Disk

/-- Something on a disk. -/
inductive Node where
  | file (bytes : ByteArray)
  | link (target : String)
  | dir (entries : List (String × Node))
  deriving Inhabited

/-- The entries of a directory. -/
abbrev Entries := List (String × Node)

/-- Names that lead to a place, from the root. -/
abbrev Place := List String

namespace Node

/-- A directory with nothing in it. -/
def empty : Node := dir []

/-- The entries of a directory; nothing else has any. -/
def entries : Node → Entries
  | dir es => es
  | _ => []

/-- The node is a directory. -/
def isDir : Node → Bool
  | dir _ => true
  | _ => false

/-- The node is a file. -/
def isFile : Node → Bool
  | file _ => true
  | _ => false

/-- The entry of a directory under a name. -/
def child? (n : Node) (name : String) : Option Node := n.entries.lookup name

/-- What is at a place; links lead nowhere. -/
def at? : Node → Place → Option Node
  | n, [] => some n
  | n, name :: names => (n.child? name).bind fun m => m.at? names

/-- Entries with the one under a name changed: added if there was none, removed if none is left. -/
def alterEntry (name : String) (f : Option Node → Option Node) : Entries → Entries
  | [] => (f none).elim [] fun n => [(name, n)]
  | (m, n) :: es =>
    if m = name then (f (some n)).elim es fun n => (m, n) :: es
    else (m, n) :: alterEntry name f es

/-- The tree with what is at a place changed.  Directories on the way that are missing are made, and
what is in the way is replaced. -/
def alter (f : Option Node → Option Node) : Place → Option Node → Option Node
  | [], n => f n
  | name :: names, n =>
    some (dir (alterEntry name (alter f names) (n.elim [] entries)))

/-- The tree with a node put at a place. -/
def insert (n : Node) (place : Place) (m : Node) : Node :=
  (alter (fun _ => some m) place n).getD empty

/-- The tree without what is at a place. -/
def erase (n : Node) (place : Place) : Node :=
  if (n.at? place).isSome then (alter (fun _ => none) place n).getD empty else n

/-- The entry after a change. -/
theorem lookup_alterEntry (name other : String) (f : Option Node → Option Node) (es : Entries)
    (hf : ∀ n, (f n).isSome) :
    (alterEntry name f es).lookup other
      = if other = name then f (es.lookup name) else es.lookup other := by
  induction es with
  | nil =>
    obtain ⟨m, hm⟩ := Option.isSome_iff_exists.1 (hf none)
    by_cases h : other = name
    · simp [alterEntry, hm, h]
    · simp [alterEntry, hm, h, List.lookup_cons, beq_false_of_ne h]
  | cons e es ih =>
    obtain ⟨k, n⟩ := e
    by_cases hk : k = name
    · obtain ⟨m, hm⟩ := Option.isSome_iff_exists.1 (hf (some n))
      by_cases h : other = name
      · simp [alterEntry, hk, hm, h]
      · simp [alterEntry, hk, hm, h, List.lookup_cons, beq_false_of_ne h]
    · by_cases h : other = k
      · simp [alterEntry, hk, h]
      · simp only [alterEntry, if_neg hk, List.lookup_cons, beq_false_of_ne h, ih]
        by_cases h' : other = name
        · subst h'
          simp [beq_false_of_ne h]
        · simp [h']

end Node
end CodeReview.Disk
