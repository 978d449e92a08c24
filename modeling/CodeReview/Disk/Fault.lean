import CodeReview.Text.Encoding

/-!
# What can go wrong on a disk

The reasons an operation on a path fails (`Disk.Cause`), each with its wording, and what else a disk
refuses: bytes that are no text, texts that have no bytes.
-/

set_option autoImplicit false

namespace CodeReview.Disk

/-- Why an operation on a path fails. -/
inductive Cause where
  | noEntry
  | notDirectory
  | isDirectory
  | nameTooLong
  | tooManyLinks
  deriving Repr, DecidableEq, Inhabited

/-- The number and the words of a cause. -/
def Cause.describe : Cause → Nat × String
  | noEntry => (2, "No such file or directory")
  | notDirectory => (20, "Not a directory")
  | isDirectory => (21, "Is a directory")
  | nameTooLong => (36, "File name too long")
  | tooManyLinks => (40, "Too many levels of symbolic links")

/-- A failed operation on a disk. -/
inductive Fault where
  /-- the operating system refused, for this path -/
  | refused (cause : Cause) (path : String)
  /-- the bytes of the file are no text -/
  | undecodable (u : Text.Undecodable)
  /-- the text has no bytes -/
  | unencodable (u : Text.Unencodable)
  /-- the path holds a NUL and names nothing -/
  | nulInPath
  deriving Repr, DecidableEq, Inhabited

/-- The wording of a failed operation. -/
def Fault.message : Fault → String
  | refused cause path =>
    let (number, words) := cause.describe
    let shown := Text.quoted path
    s!"[Errno {number}] {words}: {shown}"
  | undecodable u => u.message
  | unencodable u => u.message
  | nulInPath => "embedded null byte"

/-- The faults of a single file that a run survives: a refusal and bytes that are no text. -/
def Fault.isSurvivable : Fault → Bool
  | refused _ _ => true
  | undecodable _ => true
  | _ => false

end CodeReview.Disk
