import CodeReview.Disk.Basic

/-!
# The outline of a disk

The outline of a disk is what is where: a file, a link to somewhere, a directory.  Paths are
followed along it, and no bytes of a file matter for that (`locate_congr`).  Putting other bytes
into a file leaves the outline as it is (`sameOutline_putAt`), so every path leads to where it led
before, and every other file has the bytes that it had (`bytesAt?_putAt`).

This is the frame of everything that is said about writing.  The obvious frame, that a write to one
*path* leaves what is read from other paths alone, is false: another path may lead to the same
file, through a link or by another spelling.  So files are told apart by the place their path leads
to (`fileOf?`), and where a list of paths has to have files of its own for each, it is asked that
the paths are `NamesApart`.

A path on which a file may be made is followed by another mode of the same function.  Where there
is a file already the two lead to the same place, or the second refuses it (`resolve_making`).
## What is here

* `Node.kind`, `SameOutline` — what is where, without bytes;
* `locate_congr`, `fileOf?_congr` — paths lead along the outline;
* `NamesApart` — different paths lead to different files;
* `sameOutline_putAt`, `bytesAt?_putAt` — what other bytes for a file change, and what not;
* `write_of_fileOf?` — a text for a file becomes its bytes, or is refused and leaves all as it was.
-/

set_option autoImplicit false

namespace CodeReview.Disk

/-! ## Nodes

`Node.kind` forgets the bytes of a file and the entries of a directory. -/

/-- What a node is, whatever is in it. -/
inductive Kind where
  | file
  | link (target : String)
  | dir
  deriving Repr, DecidableEq, Inhabited

namespace Node

/-- What the node is. -/
def kind : Node → Kind
  | file _ => .file
  | link target => .link target
  | dir _ => .dir

/-- The bytes of a file. -/
def bytes? : Node → Option ByteArray
  | file bytes => some bytes
  | _ => none

theorem isDir_eq_of_kind {n m : Node} (h : n.kind = m.kind) : n.isDir = m.isDir := by
  cases n <;> cases m <;> first | rfl | cases h

theorem isFile_eq_of_kind {n m : Node} (h : n.kind = m.kind) : n.isFile = m.isFile := by
  cases n <;> cases m <;> first | rfl | cases h

theorem at?_concat (n : Node) (place : Place) (name : String) :
    n.at? (place ++ [name]) = (n.at? place).bind fun m => m.child? name := by
  induction place generalizing n with
  | nil =>
    show (n.child? name).bind some = n.child? name
    exact Option.bind_fun_some _
  | cons p place ih =>
    rw [List.cons_append, at?, at?, Option.bind_assoc]
    exact congrArg _ (funext fun m => ih m)

/-! ## Other bytes for a file

Putting something at a place goes down the tree and rebuilds the directories on the way.  What is
seen at any other place is as before, if one does not look at the entries of a directory, which
have changed for those on the way. -/

theorem alter_some (n m : Node) (place : Place) :
    alter (fun _ => some m) place (some n) = some (n.insert place m) := by
  cases place <;> rfl

theorem isSome_alter (m : Node) (place : Place) (n : Option Node) :
    (alter (fun _ => some m) place n).isSome = true := by
  cases place <;> rfl

/-- The entry after something was put below a child. -/
theorem child?_insert {n c : Node} {name : String} (hc : n.child? name = some c) (names : Place)
    (m : Node) (other : String) :
    (n.insert (name :: names) m).child? other
      = if other = name then some (c.insert names m) else n.child? other := by
  show (alterEntry name (alter (fun _ => some m) names) n.entries).lookup other = _
  rw [lookup_alterEntry _ _ _ _ (isSome_alter m names)]
  have hlookup : n.entries.lookup name = some c := hc
  rw [hlookup, alter_some]
  rfl

variable {n : Node} {place : Place} {old : ByteArray}

theorem at?_insert_self {x : Node} (h : n.at? place = some x) (m : Node) :
    (n.insert place m).at? place = some m := by
  induction place generalizing n with
  | nil => rfl
  | cons name names ih =>
    obtain ⟨c, hc, hx⟩ := Option.bind_eq_some_iff.1 h
    rw [at?, child?_insert hc, if_pos rfl]
    exact ih hx

/-- What is seen of any other place, if the entries of directories are not seen. -/
theorem map_at?_insert {β : Type} {view : Node → β}
    (hview : ∀ entries entries', view (.dir entries) = view (.dir entries'))
    (h : n.at? place = some (.file old)) (new : ByteArray) {other : Place} (hother : other ≠ place) :
    ((n.insert place (.file new)).at? other).map view = (n.at? other).map view := by
  induction place generalizing n other with
  | nil =>
    -- a file has nothing below it
    obtain rfl : n = .file old := Option.some.inj h
    cases other with
    | nil => exact absurd rfl hother
    | cons name names => rfl
  | cons name names ih =>
    obtain ⟨c, hc, hold⟩ := Option.bind_eq_some_iff.1 h
    cases other with
    | nil =>
      cases n with
      | dir entries => exact congrArg some (hview _ _)
      | file bytes => cases hc
      | link target => cases hc
    | cons name' names' =>
      rw [at?, at?, child?_insert hc]
      by_cases hname : name' = name
      · subst hname
        rw [if_pos rfl, hc]
        exact ih hold fun hnames => hother (congrArg _ hnames)
      · rw [if_neg hname]

theorem kind_at?_insert (h : n.at? place = some (.file old)) (new : ByteArray) (other : Place) :
    ((n.insert place (.file new)).at? other).map kind = (n.at? other).map kind := by
  by_cases hother : other = place
  · rw [hother, at?_insert_self h, h]
    rfl
  · exact map_at?_insert (fun _ _ => rfl) h new hother

theorem bytes_at?_insert (h : n.at? place = some (.file old)) (new : ByteArray) (other : Place) :
    ((n.insert place (.file new)).at? other).bind bytes?
      = if other = place then some new else (n.at? other).bind bytes? := by
  by_cases hother : other = place
  · rw [if_pos hother, hother, at?_insert_self h]
    rfl
  · have hmap : ((n.insert place (.file new)).at? other).map bytes? = (n.at? other).map bytes? :=
      map_at?_insert (fun _ _ => rfl) h new hother
    rw [if_neg hother]
    simpa only [Option.bind_map, Function.id_comp] using congrArg (Option.bind · id) hmap

end Node

/-! ## Following paths

Following a path looks at nodes by tests that see their kind only. -/

/-- The bytes of the file at a place. -/
def bytesAt? (d : Disk) (place : Place) : Option ByteArray := (d.root.at? place).bind Node.bytes?

/-- Two disks are mounted alike and have the same outline. -/
structure SameOutline (d d' : Disk) : Prop where
  mount : d.mount = d'.mount
  kind : ∀ place, (d.root.at? place).map Node.kind = (d'.root.at? place).map Node.kind

variable {d d' : Disk}

theorem SameOutline.refl (d : Disk) : SameOutline d d := ⟨rfl, fun _ => rfl⟩

theorem SameOutline.trans {d'' : Disk} (h : SameOutline d d') (h' : SameOutline d' d'') :
    SameOutline d d'' :=
  ⟨h.mount.trans h'.mount, fun place => (h.kind place).trans (h'.kind place)⟩

/-- A test that sees only what a node is passes at the same places. -/
theorem SameOutline.any_at? (h : SameOutline d d') {test : Node → Bool}
    (htest : ∀ {n n' : Node}, n.kind = n'.kind → test n = test n') (place : Place) :
    (d.root.at? place).any test = (d'.root.at? place).any test := by
  have hkind := h.kind place
  cases hn : d.root.at? place with
  | none =>
    rw [hn] at hkind
    rw [Option.map_eq_none_iff.1 hkind.symm]
  | some n =>
    rw [hn] at hkind
    obtain ⟨n', hn', hkind⟩ := Option.map_eq_some_iff.1 hkind.symm
    rw [hn']
    exact htest hkind.symm

theorem advance_congr (h : SameOutline d d') (making : Bool) (here : Place) (ps : List String) :
    advance d.root making here ps = advance d'.root making here ps := by
  induction ps generalizing here with
  | nil => rfl
  | cons p ps ih =>
    have hhere := h.kind here
    have hnext := h.kind (here ++ [p])
    rw [Node.at?_concat, Node.at?_concat] at hnext
    rw [advance, advance]
    cases hn : d.root.at? here with
    | none =>
      rw [hn] at hhere
      rw [Option.map_eq_none_iff.1 hhere.symm]
    | some n =>
      rw [hn] at hhere hnext
      obtain ⟨n', hn', hkind⟩ := Option.map_eq_some_iff.1 hhere.symm
      rw [hn'] at hnext ⊢
      simp only [Option.bind_some, ih, ← Node.isDir_eq_of_kind hkind] at hnext ⊢
      cases hc : n.child? p with
      | none =>
        rw [hc] at hnext
        rw [Option.map_eq_none_iff.1 hnext.symm]
      | some c =>
        rw [hc] at hnext
        obtain ⟨c', hc', hkind'⟩ := Option.map_eq_some_iff.1 hnext.symm
        rw [hc']
        cases c <;> cases c' <;> cases hkind' <;> rfl

theorem follow_congr (h : SameOutline d d') (making : Bool) (links : Nat) (here : Place)
    (ps : List String) : d.follow making links here ps = d'.follow making links here ps := by
  induction links generalizing here ps with
  | zero =>
    rw [follow, follow, advance_congr h]
  | succ links ih =>
    have horigin : ∀ path, d.origin path = d'.origin path := fun path => by
      rw [origin, origin, mountPlace, mountPlace, h.mount]
    rw [follow, follow, advance_congr h]
    simp only [ih, horigin]

/-- **A path leads along the outline** of a disk. -/
theorem locate_congr (h : SameOutline d d') (path : String) : d.locate path = d'.locate path := by
  have horigin : d.origin path = d'.origin path := by
    rw [origin, origin, mountPlace, mountPlace, h.mount]
  rw [locate, locate, resolve, resolve]
  simp only [follow_congr h, horigin]

/-! ## The file at the end of a path

A path that leads nowhere, or to a directory, has no file; a list with such paths is still
`NamesApart`, as only those that lead to a file are compared. -/

/-- The place of the file that a path leads to. -/
def fileOf? (d : Disk) (path : String) : Option Place :=
  match d.locate (Path.tidy path) with
  | .ok place => if (d.root.at? place).any Node.isFile then some place else none
  | .error _ => none

theorem fileOf?_eq_some_iff {path : String} {place : Place} :
    d.fileOf? path = some place ↔ d.locate (Path.tidy path) = .ok place ∧
      ∃ bytes, d.root.at? place = some (.file bytes) := by
  have hany : ∀ place, (d.root.at? place).any Node.isFile = true ↔
      ∃ bytes, d.root.at? place = some (.file bytes) := fun place => by
    cases d.root.at? place with
    | none => simp
    | some n => cases n <;> simp [Node.isFile]
  rw [fileOf?]
  cases d.locate (Path.tidy path) with
  | error cause => simp
  | ok found =>
    simp only [Option.ite_none_right_eq_some, hany, Option.some_inj, Except.ok.injEq]
    constructor
    · rintro ⟨hfile, rfl⟩
      exact ⟨rfl, hfile⟩
    · rintro ⟨rfl, hfile⟩
      exact ⟨hfile, rfl⟩

/-- Files are where they are by the outline alone. -/
theorem fileOf?_congr (h : SameOutline d d') (path : String) : d.fileOf? path = d'.fileOf? path := by
  rw [fileOf?, fileOf?, locate_congr h]
  cases d'.locate (Path.tidy path) with
  | error cause => rfl
  | ok place => simp only [h.any_at? Node.isFile_eq_of_kind place]

/-- Different paths of a list lead to different files. -/
def NamesApart (d : Disk) (paths : List String) : Prop :=
  ∀ p ∈ paths, ∀ q ∈ paths, (d.fileOf? p).isSome → d.fileOf? p = d.fileOf? q → p = q

instance (d : Disk) (paths : List String) : Decidable (d.NamesApart paths) :=
  inferInstanceAs (Decidable (∀ p ∈ paths, ∀ q ∈ paths, _ → _ → _))

theorem NamesApart.mono {paths paths' : List String} (h : d.NamesApart paths')
    (hsub : paths ⊆ paths') : d.NamesApart paths :=
  fun p hp q hq => h p (hsub hp) q (hsub hq)

theorem NamesApart.congr {paths : List String} (hnames : d'.NamesApart paths)
    (h : SameOutline d d') : d.NamesApart paths := by
  intro p hp q hq
  rw [fileOf?_congr h, fileOf?_congr h]
  exact hnames p hp q hq

/-! ## Reading and writing

What was read is a file, so what is written there replaces its bytes and makes nothing new. -/

variable {path : String} {place : Place} {bytes old : ByteArray}

theorem sameOutline_putAt (h : d.root.at? place = some (.file old)) (bytes : ByteArray) :
    SameOutline (d.putAt place bytes) d :=
  ⟨rfl, Node.kind_at?_insert h bytes⟩

/-- **Putting bytes into a file** changes no other one. -/
theorem bytesAt?_putAt (h : d.root.at? place = some (.file old)) (bytes : ByteArray)
    (other : Place) :
    (d.putAt place bytes).bytesAt? other = if other = place then some bytes else d.bytesAt? other :=
  Node.bytes_at?_insert h bytes other

/-- What can be read is a file. -/
theorem exists_fileOf?_of_read {content : String} (h : d.read path = .ok content) :
    hasNul path = false ∧ ∃ place, d.fileOf? path = some place := by
  rw [read] at h
  cases hnul : hasNul path with
  | true =>
    rw [if_pos hnul] at h
    cases h
  | false =>
    rw [if_neg (by simp [hnul])] at h
    refine ⟨rfl, ?_⟩
    cases hlocate : d.locate (Path.tidy path) with
    | error cause =>
      simp only [hlocate] at h
      cases h
    | ok place =>
      simp only [hlocate] at h
      split at h
      · rename_i bytes hfile
        exact ⟨place, fileOf?_eq_some_iff.2 ⟨hlocate, bytes, hfile⟩⟩
      · cases h
      · cases h

/-- A path on which a file may be made leads to where it leads else, or is refused. -/
theorem advance_making (root : Node) (here : Place) (ps : List String) :
    advance root true here ps = advance root false here ps ∨
      advance root true here ps = .refused .isDirectory := by
  induction ps generalizing here with
  | nil => exact .inl rfl
  | cons p ps ih =>
    rw [advance, advance]
    cases root.at? here with
    | none => exact .inl rfl
    | some n =>
      dsimp only
      split
      · exact .inl rfl
      · split
        · exact ih here
        · split
          · exact ih here.dropLast
          · cases asksForDirectory ps with
            | true => exact .inr rfl
            | false =>
              simp only [Bool.and_false, Bool.false_eq_true, if_false]
              split
              · exact .inl rfl
              · split
                · exact .inl rfl
                · exact .inl rfl
                · exact ih _

theorem follow_making (d : Disk) (links : Nat) (here : Place) (ps : List String) :
    d.follow true links here ps = d.follow false links here ps ∨
      d.follow true links here ps = .error .isDirectory := by
  induction links generalizing here ps with
  | zero =>
    rw [follow, follow]
    rcases advance_making d.root here ps with h | h
    · exact .inl (by rw [h])
    · exact .inr (by rw [h])
  | succ links ih =>
    rw [follow, follow]
    rcases advance_making d.root here ps with h | h
    · rw [h]
      cases advance d.root false here ps with
      | arrived place => exact .inl rfl
      | absent directory name => exact .inl rfl
      | refused cause => exact .inl rfl
      | link directory target rest =>
        dsimp only
        by_cases htarget : target = ""
        · exact .inl (by rw [if_pos htarget, if_pos htarget])
        · rw [if_neg htarget, if_neg htarget]
          exact ih _ _
    · exact .inr (by rw [h])

theorem resolve_making (d : Disk) (path : String) :
    d.resolve true path = d.resolve false path ∨ d.resolve true path = .error .isDirectory := by
  rw [resolve, resolve]
  split
  · exact .inl rfl
  · split
    · exact .inl rfl
    · exact follow_making d maxLinks _ _

theorem locate_eq_ok : d.locate path = .ok place ↔ d.resolve false path = .ok (.found place) := by
  rw [locate]
  cases d.resolve false path with
  | error cause => simp
  | ok target => cases target <;> simp

/-- **Bytes for a file** are put in its place, or refused. -/
theorem writeBytes_of_fileOf? (h : d.fileOf? path = some place) (bytes : ByteArray) :
    d.writeBytes (Path.tidy path) bytes = .ok (d.putAt place bytes) ∨
      d.writeBytes (Path.tidy path) bytes = .error .isDirectory := by
  obtain ⟨hlocate, old, hfile⟩ := fileOf?_eq_some_iff.1 h
  rw [writeBytes]
  rcases resolve_making d (Path.tidy path) with hresolve | hresolve
  · rw [hresolve, locate_eq_ok.1 hlocate]
    refine .inl (if_neg ?_)
    rw [hfile]
    exact Bool.false_ne_true
  · rw [hresolve]
    exact .inr rfl

/-- **A text for a file** becomes its bytes, or is refused and leaves all as it was. -/
theorem write_of_fileOf? [Text.Spare] {text : String} (h : d.fileOf? path = some place)
    (hnul : hasNul path = false) (hbytes : Text.encode text = .ok bytes) :
    d.write path text = (.ok (), d.putAt place bytes) ∨
      ∃ cause, d.write path text = (.error (.refused cause (Path.tidy path)), d) := by
  rw [write, if_neg (by simp [hnul])]
  simp only [hbytes, overwrite]
  rcases writeBytes_of_fileOf? h bytes with hdone | hrefused
  · exact .inl (by rw [hdone])
  · exact .inr ⟨.isDirectory, by rw [hrefused]⟩

end CodeReview.Disk
