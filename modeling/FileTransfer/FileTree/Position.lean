import FileTransfer.FileTree.Basic

namespace FileTransfer

/-!
# Positions in a file tree

A position is a location together with what stands there and below, so that one
step from it looks at a single directory.  `enter_position` says that a step
leads to the position of the next location, and `parent_position` that the way
back leads to the one before.
-/

/-- A place in a file tree, and what is seen from there. -/
structure Position where
  /-- The names that lead here, the last one first. -/
  trail : List Bytes
  /-- What stands here, if anything does. -/
  entry : Option Entry
  listing : Listing

namespace FileTree

def position (tree : FileTree) (location : Location) : Position where
  trail := location.reverse
  entry := tree.lookup? location
  listing := tree.root.within location

end FileTree

namespace Position

/-- The names that lead to a position. -/
def location (position : Position) : Location :=
  position.trail.reverse

/-- The position of a name in the directory at a position. -/
def enter (name : Bytes) (position : Position) : Position :=
  match position.listing.child name with
  | (entry, listing) => ⟨name :: position.trail, entry, listing⟩

/-- The position above another one; the root is above itself. -/
def parent (tree : FileTree) (position : Position) : Position :=
  tree.position position.trail.tail.reverse

/-- A position has the location that it was made for. -/
@[simp] theorem location_position (tree : FileTree) (location : Location) :
    (tree.position location).location = location := by
  simp [Position.location, FileTree.position]

/-- What stands at a position is what the tree holds at its location. -/
@[simp] theorem entry_position (tree : FileTree) (location : Location) :
    (tree.position location).entry = tree.lookup? location := rfl

/-- Entering a name leads to the location with one more name. -/
@[simp] theorem enter_position (tree : FileTree) (location : Location) (name : Bytes) :
    (tree.position location).enter name = tree.position (location ++ [name]) := by
  simp [enter, FileTree.position, FileTree.lookup?, Listing.within_append_name,
    Listing.find?_append_name]

/-- The position above a location is that of the location without its last name. -/
@[simp] theorem parent_position (tree : FileTree) (location : Location) :
    (tree.position location).parent tree = tree.position location.dropLast := by
  simp [parent, FileTree.position, List.tail_reverse]

end Position

end FileTransfer
