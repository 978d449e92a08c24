import CodeReview.Disk.Basic

/-!
# All files of a disk

The files below a place with their bytes, under their paths from that place.  Links are not files.
-/

set_option autoImplicit false

namespace CodeReview.Disk

mutual

/-- The files at or below a node; `path` leads to the node. -/
def Node.listing (path : String) : Node → List (String × ByteArray)
  | .file bytes => [(path, bytes)]
  | .link _ => []
  | .dir entries => entriesListing path entries

/-- The files among and below the entries of a directory. -/
def entriesListing (path : String) : List (String × Node) → List (String × ByteArray)
  | [] => []
  | (name, node) :: rest =>
    node.listing (if path = "" then name else path ++ "/" ++ name) ++ entriesListing path rest

end

/-- The files below a path. -/
def filesBelow (d : Disk) (path : String) : List (String × ByteArray) :=
  ((d.root.at? (d.placeOf path)).elim [] fun n => n.listing "")

end CodeReview.Disk
