import CodeReview.Session.Scripted
import CodeReview.Session.Storage

/-!
# Rehearsals

A world to rehearse in: a disk, and the replies a service will give.  A prepared reply may remove
things from the disk and make directories before it is given, as if somebody else were at work.
-/

set_option autoImplicit false

namespace CodeReview

/-- What happens to a disk before a prepared reply is given: paths to remove, then directories to
make. -/
structure Disturbance where
  remove : List String
  makeDirs : List String
  deriving Repr, DecidableEq, Inhabited

/-- The disk after it. -/
def Disturbance.apply (x : Disturbance) (d : Disk) : Disk :=
  x.makeDirs.foldl Disk.makeDir (x.remove.foldl Disk.remove d)

/-- A disk and the replies still to come. -/
structure Rehearsal where
  disk : Disk
  script : Scripted.Script Disturbance

namespace Rehearsal

/-- The disk of a rehearsal as storage. -/
def storage [Text.Spare] : Storage Rehearsal :=
  .ofDisk (·.disk) (fun d s => { s with disk := d })

/-- The service that plays the prepared replies. -/
def service : Service Rehearsal :=
  Scripted.service (·.script) (fun script s => { s with script := script })
    (fun x s => { s with disk := x.apply s.disk })

end Rehearsal
end CodeReview
