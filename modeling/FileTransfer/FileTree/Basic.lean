import FileTransfer.FileTree.Listing

namespace FileTransfer

/-!
# File trees

A file tree holds what the host stores: directories, regular files, symbolic
links and two devices, each at a location below the root, which is always a
directory.  `lookup?` and `put` obey the laws of a table: `lookup?_put_self`
and `lookup?_put_of_ne`.
-/

/-- The entries below the root, and the location that relative paths start from. -/
structure FileTree where
  root : Listing
  current : Location
  deriving Repr, DecidableEq

namespace FileTree

/-- A tree with nothing below its root. -/
def bare (current : Location) : FileTree where
  root := .empty
  current := current

/-- What stands at a location, if anything does. -/
def lookup? (tree : FileTree) (location : Location) : Option Entry :=
  if location = [] then some .directory else tree.root.find? location

/-- The tree with an entry set at a location below the root. -/
def put (location : Location) (entry : Entry) (tree : FileTree) : FileTree :=
  { tree with root := tree.root.set entry location }

/-- An entry stands where it was put. -/
theorem lookup?_put_self
    {location : Location}
    (entry : Entry)
    (tree : FileTree)
    (below : location ≠ []) :
    (tree.put location entry).lookup? location = some entry := by
  simp [lookup?, put, below, Listing.find?_set_self entry tree.root below]

/-- Putting an entry leaves the others alone. -/
theorem lookup?_put_of_ne
    {location other : Location}
    (entry : Entry)
    (tree : FileTree)
    (apart : other ≠ location) :
    (tree.put location entry).lookup? other = tree.lookup? other := by
  simp [lookup?, put, Listing.find?_set_of_ne entry tree.root apart]

/-- What stands below a location: the names that lead on from it, with the entry. -/
def below (directory : Location) (tree : FileTree) : List (Location × Entry) :=
  (tree.root.within directory).entries

end FileTree

end FileTransfer
