import CodeReview.Proofs.Disk.Joined
import CodeReview.Proofs.Disk.Outline

/-!
# What is found below a directory

The search of a directory meets an entry if every directory on the way to it is a real one whose
name is not left out, and the entry is no directory itself, nor a link to one (`Meets`).  This is
said of the tree as it is, without following the search: the way to an entry is a list of names,
and nothing depends on the order in which directories are listed.

The search returns paths, though, and the rest is asked of a path: its name, and the size of the
file it leads to.  A path is made of the root and the names on the way; it is made absolute, and
resolved again from the top, links included.  So it has to be shown that the name that is tested is
the name of the entry (`nameOf_pathOf`), and that making a path absolute leaves the way below the
root as it is (`normalize_pathOf`).  Both need that names are names: no slash in them, and neither
a point nor two.

`discover_exactly` puts this together, with the order of the list and its independence of the order
of entries.  The last is by way of `Alike`: none of it can tell two disks apart that look alike at
every place.
-/

set_option autoImplicit false

namespace CodeReview.Disk

/-! ## Entries that are met

The two directions are inductions over different things, the tree for what is found and the way to
an entry for what is met. -/

/-- The search below a directory meets an entry. -/
structure Meets (d : Disk) (here : Place) (n : Node) (dirs : List String) (name : String)
    (m : Node) : Prop where
  /-- it is an entry of the directory, or of one below it -/
  entry : n.HasEntry dirs name m
  /-- no directory on the way is left out -/
  searched : ∀ dir ∈ dirs, dir ∉ excludedDirs
  /-- it is no directory, and no link to one -/
  noDir : leadsToDir d (here ++ dirs) name m = false

/-- The path of what some names lead to, one after the other. -/
def pathOf (path : String) (names : List String) : String := names.foldl Path.join path

variable {d d' : Disk} {here : Place} {path p root name : String} {dirs : List String}
  {n m : Node} {entries : Entries} {extensions : List String} {maxBytes : Int}

theorem mem_filesAmong : p ∈ filesAmong d here path entries ↔
    ∃ name m, (name, m) ∈ entries ∧
      (leadsToDir d here name m = false ∧ p = Path.join path name ∨
        leadsToDir d here name m = true ∧ name ∉ excludedDirs ∧
          p ∈ filesIn d (here ++ [name]) (Path.join path name) m) := by
  induction entries with
  | nil => simp [filesAmong]
  | cons e entries ih =>
    obtain ⟨first, k⟩ := e
    rw [filesAmong, List.mem_append, ih]
    have hfirst : p ∈ (if leadsToDir d here first k then
          if excludedDirs.contains first then []
          else filesIn d (here ++ [first]) (Path.join path first) k
        else [Path.join path first]) ↔
        leadsToDir d here first k = false ∧ p = Path.join path first ∨
          leadsToDir d here first k = true ∧ first ∉ excludedDirs ∧
            p ∈ filesIn d (here ++ [first]) (Path.join path first) k := by
      cases leadsToDir d here first k <;> by_cases hout : first ∈ excludedDirs <;> simp [hout]
    constructor
    · rintro (h | ⟨name, m, hmem, h⟩)
      · exact ⟨first, k, List.mem_cons_self, hfirst.1 h⟩
      · exact ⟨name, m, List.mem_cons_of_mem _ hmem, h⟩
    · rintro ⟨name, m, hmem, h⟩
      rcases List.mem_cons.1 hmem with heq | hmem
      · cases heq
        exact .inl (hfirst.2 h)
      · exact .inr ⟨name, m, hmem, h⟩

theorem exists_meets_of_mem_filesIn (h : p ∈ filesIn d here path n) :
    ∃ dirs name m, d.Meets here n dirs name m ∧ p = pathOf path (dirs ++ [name]) := by
  induction n using Node.induction generalizing here path with
  | file bytes => cases h
  | link target => cases h
  | dir entries ih =>
    obtain ⟨name, m, hmem, ⟨hno, rfl⟩ | ⟨-, hout, h⟩⟩ := mem_filesAmong.1 h
    · exact ⟨[], name, m, ⟨.here hmem, nofun, by rwa [List.append_nil]⟩, rfl⟩
    · obtain ⟨dirs, last, k, hmeets, rfl⟩ := ih _ hmem h
      refine ⟨name :: dirs, last, k, ⟨.inside hmem hmeets.entry, ?_, ?_⟩, rfl⟩
      · exact List.forall_mem_cons.2 ⟨hout, hmeets.searched⟩
      · rw [List.append_cons]
        exact hmeets.noDir

theorem mem_filesIn_of_meets (h : d.Meets here n dirs name m) :
    pathOf path (dirs ++ [name]) ∈ filesIn d here path n := by
  obtain ⟨hentry, hdirs, hno⟩ := h
  induction hentry generalizing here path with
  | here hmem =>
    obtain ⟨entries, rfl⟩ := Node.exists_eq_dir_of_mem hmem
    rw [List.append_nil] at hno
    exact mem_filesAmong.2 ⟨_, _, hmem, .inl ⟨hno, rfl⟩⟩
  | inside hmem rest ih =>
    obtain ⟨entries, rfl⟩ := Node.exists_eq_dir_of_mem hmem
    obtain ⟨inside, rfl⟩ := rest.exists_eq_dir
    obtain ⟨hdir, hdirs⟩ := List.forall_mem_cons.1 hdirs
    rw [List.append_cons] at hno
    exact mem_filesAmong.2 ⟨_, _, hmem, .inr ⟨rfl, hdir, ih hdirs hno⟩⟩

/-- **The search looks through** the paths of what it meets. -/
theorem mem_filesIn : p ∈ filesIn d here path n ↔
    ∃ dirs name m, d.Meets here n dirs name m ∧ p = pathOf path (dirs ++ [name]) :=
  ⟨exists_meets_of_mem_filesIn, by
    rintro ⟨dirs, name, m, hmeets, rfl⟩
    exact mem_filesIn_of_meets hmeets⟩

/-! ## Names and paths

What is wanted of a name and of a size, said without the functions that test it. -/

theorem nameOf_pathOf (h : isFileName name = true) (path : String) (dirs : List String) :
    nameOf (pathOf path (dirs ++ [name])) = name := by
  rw [pathOf, List.foldl_concat]
  exact Path.nameOf_join h _

theorem normalize_pathOf {names : List String} (h : ∀ name ∈ names, isFileName name = true)
    (path : String) : Path.normalize (pathOf path names) = pathOf (Path.normalize path) names := by
  induction names generalizing path with
  | nil => rfl
  | cons name names ih =>
    obtain ⟨hname, hnames⟩ := List.forall_mem_cons.1 h
    rw [pathOf, List.foldl_cons, ← pathOf, ih hnames, Path.normalize_join hname]
    rfl

theorem isWanted_iff : isWanted extensions name = true ↔
    ¬ excludedEnding.toList <:+ name.toList ∧
      ∃ ext, Path.HasExtension name.toList ext ∧ String.ofList (Text.lower ext) ∈ extensions := by
  have hend : Text.endsWith excludedEnding.toList name.toList = true ↔
      excludedEnding.toList <:+ name.toList := by
    rw [Text.endsWith, List.isPrefixOf_iff_prefix, List.reverse_prefix]
  have hext : extensionOf name ∈ extensions ↔
      ∃ ext, Path.HasExtension name.toList ext ∧ String.ofList (Text.lower ext) ∈ extensions := by
    simp only [Path.hasExtension_iff, exists_eq_left]
    rfl
  rw [isWanted, Bool.and_eq_true, Bool.not_eq_true', ← Bool.not_eq_true, hend,
    List.contains_iff_mem, hext]

theorem fits_iff : d.fits maxBytes path = true ↔
    ∃ size, d.size? path = some size ∧ (size : Int) ≤ maxBytes := by
  rw [fits]
  cases d.size? path with
  | none => simp
  | some size => simp

/-- **What is discovered** are files that the search meets. -/
theorem mem_discoverBelow : path ∈ d.discoverBelow root extensions maxBytes ↔
    ∃ place tree dirs name m, d.locate root = .ok place ∧ d.root.at? place = some tree ∧
      d.Meets place tree dirs name m ∧ isWanted extensions (nameOf (pathOf root (dirs ++ [name]))) ∧
      path = Path.normalize (pathOf root (dirs ++ [name])) ∧ d.fits maxBytes path := by
  rw [discoverBelow]
  cases d.locate root with
  | error cause => simp
  | ok place =>
    cases htree : d.root.at? place with
    | none => simp [htree, mem_inOrder]
    | some tree =>
      simp only [htree, mem_inOrder, List.mem_filter, List.mem_map, Option.elim_some, mem_filesIn]
      constructor
      · rintro ⟨⟨_, ⟨⟨dirs, name, m, hmeets, rfl⟩, hwanted⟩, rfl⟩, hfits⟩
        exact ⟨place, tree, dirs, name, m, rfl, htree, hmeets, hwanted, rfl, hfits⟩
      · rintro ⟨_, _, dirs, name, m, hplace, htree', hmeets, hwanted, rfl, hfits⟩
        cases hplace
        obtain rfl := Option.some.inj (htree.symm.trans htree')
        exact ⟨⟨_, ⟨⟨dirs, name, m, hmeets, rfl⟩, hwanted⟩, rfl⟩, hfits⟩

/-! ## Disks that look alike

To look alike is about places: what is there is of the same kind and has the same bytes.  The
entries of a directory are left out of it, as their order may differ.  That an entry is met on one
disk if it is on the other needs names to be distinct, so that an entry is what is at its place. -/

/-- Two disks are mounted alike, and everything looks the same at every place. -/
structure Alike (d d' : Disk) : Prop where
  mount : d.mount = d'.mount
  face : ∀ place, (d.root.at? place).map Node.face = (d'.root.at? place).map Node.face

theorem Alike.symm (h : Alike d d') : Alike d' d := ⟨h.mount.symm, fun place => (h.face place).symm⟩

theorem Alike.outline (h : Alike d d') : SameOutline d d' :=
  ⟨h.mount, fun place => by
    have hface := congrArg (Option.map Prod.fst) (h.face place)
    rwa [Option.map_map, Option.map_map] at hface⟩

theorem Alike.bytesAt? (h : Alike d d') (place : Place) : d.bytesAt? place = d'.bytesAt? place := by
  have hbytes := congrArg (Option.bind · Prod.snd) (h.face place)
  rwa [Option.bind_map, Option.bind_map] at hbytes

theorem isDir_congr (h : SameOutline d d') (path : String) : d.isDir path = d'.isDir path := by
  rw [isDir, isDir, node?, node?, locate_congr h]
  cases d'.locate path with
  | error cause => rfl
  | ok place => simp only [h.any_at? Node.isDir_eq_of_kind place]

theorem leadsToDir_congr (h : SameOutline d d') {n n' : Node} (hkind : n.kind = n'.kind)
    (here : Place) (name : String) : leadsToDir d here name n = leadsToDir d' here name n' := by
  cases n <;> cases n' <;> cases hkind
  · rfl
  · rw [leadsToDir, leadsToDir, follow_congr h]
    cases d'.follow false maxLinks here [name] with
    | error cause => rfl
    | ok target =>
      cases target with
      | found place => exact h.any_at? Node.isDir_eq_of_kind place
      | free directory last => rfl
  · rfl

theorem size?_eq (d : Disk) (path : String) : d.size? path =
    if hasNul path then none
    else (d.locate path).toOption.bind fun place => (d.bytesAt? place).map ByteArray.size := by
  rw [size?, node?]
  cases d.locate path with
  | error cause => rfl
  | ok place =>
    simp only [bytesAt?, Except.toOption, Option.bind_some]
    cases d.root.at? place with
    | none => rfl
    | some n => cases n <;> rfl

/-- **The size of a file** is the same on disks that look alike. -/
theorem Alike.size?_eq (h : Alike d d') (path : String) : d.size? path = d'.size? path := by
  rw [Disk.size?_eq, Disk.size?_eq, locate_congr h.outline]
  simp only [h.bytesAt?]

theorem Alike.fits_eq (h : Alike d d') (maxBytes : Int) (path : String) :
    d.fits maxBytes path = d'.fits maxBytes path := by
  rw [fits, fits, h.size?_eq]

/-- **An entry that is met** is met on every disk that looks alike. -/
theorem Alike.meets (h : Alike d d') (hd : d.root.hasDistinctNames = true)
    (hd' : d'.root.hasDistinctNames = true) {tree tree' : Node}
    (htree : d.root.at? here = some tree) (htree' : d'.root.at? here = some tree')
    (hmeets : d.Meets here tree dirs name m) : ∃ m', d'.Meets here tree' dirs name m' := by
  obtain ⟨hentry, hdirs, hno⟩ := hmeets
  have hface := h.face (here ++ (dirs ++ [name]))
  rw [Node.at?_append, Node.at?_append, htree, htree', Option.bind_some, Option.bind_some,
    (Node.hasEntry_iff_at? (Node.hasDistinctNames_of_at? hd htree)).1 hentry] at hface
  obtain ⟨m', hm', hface⟩ := Option.map_eq_some_iff.1 hface.symm
  have hkind : m.kind = m'.kind := (congrArg Prod.fst hface).symm
  refine ⟨m', (Node.hasEntry_iff_at? (Node.hasDistinctNames_of_at? hd' htree')).2 hm', hdirs, ?_⟩
  rw [← leadsToDir_congr h.outline hkind, hno]

theorem Alike.mem_discoverBelow (h : Alike d d') (hd : d.root.hasDistinctNames = true)
    (hd' : d'.root.hasDistinctNames = true)
    (hpath : path ∈ d.discoverBelow root extensions maxBytes) :
    path ∈ d'.discoverBelow root extensions maxBytes := by
  obtain ⟨place, tree, dirs, name, m, hplace, htree, hmeets, hwanted, hpath, hfits⟩ :=
    Disk.mem_discoverBelow.1 hpath
  have hface := h.face place
  rw [htree] at hface
  obtain ⟨tree', htree', -⟩ := Option.map_eq_some_iff.1 hface.symm
  obtain ⟨m', hmeets'⟩ := h.meets hd hd' htree htree' hmeets
  rw [locate_congr h.outline] at hplace
  rw [h.fits_eq] at hfits
  exact Disk.mem_discoverBelow.2
    ⟨place, tree', dirs, name, m', hplace, htree', hmeets', hwanted, hpath, hfits⟩

/-- **Disks that look alike** have the same files to discover. -/
theorem Alike.discoverBelow_eq (h : Alike d d') (hd : d.root.hasDistinctNames = true)
    (hd' : d'.root.hasDistinctNames = true) :
    d.discoverBelow root extensions maxBytes = d'.discoverBelow root extensions maxBytes :=
  pairwise_discoverBelow.eq_of_mem_iff pairwise_discoverBelow fun _ =>
    ⟨h.mem_discoverBelow hd hd', h.symm.mem_discoverBelow hd' hd⟩

/-! ## What is discovered

The assumptions are those of a disk: directories have distinct names, and below the root only names
that an entry can have. -/

variable {place : Place} {tree : Node}

/-- **Discovery is exact.**  Below a directory it finds, in order and each once, the paths of just
those entries that the search meets, whose names do not end like minified code and have one of the
extensions, and whose size can be read and is not too large.  In whatever order the entries of
directories are listed, the same is found. -/
theorem discover_exactly (hroot : d.isDir root = true) (hplace : d.locate root = .ok place)
    (htree : d.root.at? place = some tree) (hnames : tree.hasFileNames = true)
    (hdistinct : d.root.hasDistinctNames = true) (hbytes : 0 < maxBytes) :
    ∃ paths, d.discover root extensions maxBytes = .ok paths ∧ paths.Pairwise (· < ·) ∧
      (∀ path, path ∈ paths ↔ ∃ dirs name node, d.Meets place tree dirs name node ∧
        ¬ excludedEnding.toList <:+ name.toList ∧
        (∃ ext, Path.HasExtension name.toList ext ∧
          String.ofList (Text.lower ext) ∈ extensions) ∧
        path = pathOf (Path.normalize root) (dirs ++ [name]) ∧
        ∃ size, d.size? path = some size ∧ (size : Int) ≤ maxBytes) ∧
      ∀ d' : Disk, d'.mount = d.mount → d.root.Relisted d'.root →
        d'.discover root extensions maxBytes = .ok paths := by
  refine ⟨d.discoverBelow root extensions maxBytes, discover_of_isDir hroot hbytes,
    pairwise_discoverBelow, fun path => ?_, fun d' hmount horder => ?_⟩
  · have hentry : ∀ {dirs name node}, d.Meets place tree dirs name node →
        nameOf (pathOf root (dirs ++ [name])) = name ∧
          Path.normalize (pathOf root (dirs ++ [name]))
            = pathOf (Path.normalize root) (dirs ++ [name]) := fun hmeets => by
      have hall := hmeets.entry.isFileName hnames
      exact ⟨nameOf_pathOf (hall _ List.mem_concat_self) root _, normalize_pathOf hall root⟩
    rw [mem_discoverBelow]
    constructor
    · rintro ⟨_, _, dirs, name, node, hplace', htree', hmeets, hwanted, hpath, hfits⟩
      obtain rfl := Except.ok.inj (hplace.symm.trans hplace')
      obtain rfl := Option.some.inj (htree.symm.trans htree')
      obtain ⟨hname, hnormal⟩ := hentry hmeets
      rw [hname] at hwanted
      obtain ⟨hend, hext⟩ := isWanted_iff.1 hwanted
      exact ⟨dirs, name, node, hmeets, hend, hext, hpath.trans hnormal, fits_iff.1 hfits⟩
    · rintro ⟨dirs, name, node, hmeets, hend, hext, hpath, hfits⟩
      obtain ⟨hname, hnormal⟩ := hentry hmeets
      refine ⟨place, tree, dirs, name, node, hplace, htree, hmeets, ?_, hpath.trans hnormal.symm,
        fits_iff.2 hfits⟩
      rw [hname]
      exact isWanted_iff.2 ⟨hend, hext⟩
  · have halike : Alike d d' := ⟨hmount.symm, horder.face_at? hdistinct⟩
    have hroot' : d'.isDir root = true := by rw [← isDir_congr halike.outline, hroot]
    rw [discover_of_isDir hroot' hbytes,
      halike.discoverBelow_eq hdistinct (horder.hasDistinctNames hdistinct)]

/-- A directory with a script and, in a directory of its own, a link to it; a link to a directory
and one to nothing; minified code, and a name with points in front only; and a directory that is
left out.  The whole has a name that would be left out anywhere else. -/
def assorted (library : Entries) : Disk :=
  let script := Node.file "f()\n".toUTF8
  ⟨"/build", .dir [("/", .dir [("build", .dir
    [("A.Ts", script), ("m.min.js", script), ("lib", .dir library),
      ("dist", .dir [("c.js", script)])])])]⟩

/-- The entries of that directory. -/
def library : Entries :=
  [("up.js", .link ".."), ("b.js", .link "../A.Ts"), ("gone.js", .link "nowhere"),
    ("..js", .file "f()\n".toUTF8)]

theorem discover_exactly_assorted :
    (assorted library).discover "/build" defaultExtensions 4
        = .ok ["/build/A.Ts", "/build/lib/b.js"] ∧
      (assorted library.reverse).discover "/build" defaultExtensions 4
        = .ok ["/build/A.Ts", "/build/lib/b.js"] := by
  have hroot : (assorted library).isDir "/build" = true := by decide +kernel
  have hplace : (assorted library).locate "/build" = .ok ["/", "build"] := by decide +kernel
  have hfound : (assorted library).discover "/build" defaultExtensions 4
      = .ok ["/build/A.Ts", "/build/lib/b.js"] :=
    discover_of_pairwise hroot (by decide) hplace (by decide +kernel) (by decide)
  have horder : (assorted library).root.Relisted (assorted library.reverse).root :=
    .inside (.inside (.inside (.perm library.reverse_perm.symm) [_, _] "lib" [_]) [] "build" [])
      [] "/" []
  obtain ⟨paths, hpaths, -, -, hany⟩ := discover_exactly hroot hplace rfl (by decide +kernel)
    (by decide +kernel) (by decide : (0 : Int) < 4)
  obtain rfl := Except.ok.inj (hfound.symm.trans hpaths)
  exact ⟨hfound, hany _ rfl horder⟩

end CodeReview.Disk
