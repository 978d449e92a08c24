import CodeReview.Disk.Discover
import CodeReview.Session.Basic

/-!
# Where the files are

What a run needs of a disk: whether something is there, the files below a place, the text of a
file, and a new text for it.  The last three may fail; what writing does to the state, even if it
fails, is up to who provides it.
-/

set_option autoImplicit false

namespace CodeReview

/-- A disk, as a run sees it.  `discover root extensions maxBytes` lists files to review; `isThere`
and `isFile` tell what is at the end of a path. -/
structure Storage (σ : Type) where
  isThere : String → σ → Bool
  isFile : String → σ → Bool
  discover : String → List String → Int → σ → Except Fault (List String)
  read : String → σ → Except Disk.Fault String
  write : String → String → σ → Except Disk.Fault Unit × σ

/-- The disk that is part of the state: `disk` and `setDisk` reach it there. -/
def Storage.ofDisk [Text.Spare] {σ : Type} (disk : σ → Disk) (setDisk : Disk → σ → σ) :
    Storage σ where
  isThere path s := (disk s).isThere path
  isFile path s := (disk s).isFile path
  discover root extensions maxBytes s := (disk s).discover root extensions maxBytes
  read path s := (disk s).read path
  write path text s :=
    let (written, d) := (disk s).write path text
    (written, setDisk d s)

namespace Run

variable {σ : Type}

/-- The files to review below a root. -/
def discover (storage : Storage σ) (root : String) (extensions : List String) (maxBytes : Int) :
    Run σ (List String) := fun s => ⟨[], s, storage.discover root extensions maxBytes s⟩

/-- The text of a file. -/
def readText (storage : Storage σ) (path : String) : Run σ String := fun s =>
  ⟨[], s, (storage.read path s).mapError .disk⟩

/-- A new text for a file. -/
def writeText (storage : Storage σ) (path text : String) : Run σ Unit := fun s =>
  match storage.write path text s with
  | (.ok (), s') => ⟨[.wrote path text], s', .ok ()⟩
  | (.error e, s') => ⟨[.unwritten path e], s', .error (.disk e)⟩

/-- A run that survives what a single file can do to it: the text of such a fault is its result. -/
def surviving {α : Type} (x : Run σ α) : Run σ (Except String α) := fun s =>
  let o := x s
  match o.result with
  | .ok a => ⟨o.events, o.state, .ok (.ok a)⟩
  | .error (.disk e) =>
    if e.isSurvivable then ⟨o.events, o.state, .ok (.error e.message)⟩
    else ⟨o.events, o.state, .error (.disk e)⟩
  | .error e => ⟨o.events, o.state, .error e⟩

end Run
end CodeReview
