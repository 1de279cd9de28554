import FileTransfer.FileTree.Position
import FileTransfer.HostError
import FileTransfer.Path

namespace FileTransfer

/-!
# What a path stands for

A path is walked part by part.  Every part but the last has to lead to a
directory; a symbolic link stands for its target, seen from the directory that
holds the link, and a walk follows at most forty of them.  A walk ends at an
entry, or at a free name in a directory.  `walk_nil` and `walk_cons` say in terms
of locations what a walk does.
-/

/-- One move of a walk. -/
inductive Path.Move where
  | here
  | up
  | enter (name : Bytes)
  /-- What was reached has to be a directory. -/
  | insist
  deriving Repr, DecidableEq

/-- The move that a nonempty part asks for. -/
def Path.moveOf (part : Bytes) : Path.Move :=
  if part = Path.selfName then .here
  else if part = Path.parentName then .up
  else .enter part

def Path.moves (path : Path) : List Path.Move :=
  (Path.names path).map Path.moveOf ++
    (if Path.endsInSlash path then [.insist] else [])

namespace FileTree

/-- Where a walk ends. -/
inductive Spot where
  /-- An entry, which is the root or stands in the tree. -/
  | entry (location : Location)
  /-- A name that is free in an existing directory. -/
  | vacant (directory : Location) (name : Bytes)
  deriving Repr, DecidableEq

def Spot.location : Spot → Location
  | .entry location => location
  | .vacant directory name => directory ++ [name]

/-- The longest name that an entry can have, in octets. -/
def nameLimit : Nat := 255

/-- The length from which on a path is too long, in octets. -/
def pathLimit : Nat := 4096

/-- The number of symbolic links that one walk follows. -/
def linkLimit : Nat := 40

/--
Walk on from a position.  A walk that may create an entry refuses a free or
taken name on whose being a directory the path insists.
-/
def walk
    (tree : FileTree)
    (creating : Bool)
    (links : Nat)
    (position : Position)
    (moves : List Path.Move) :
    Except Errno Spot :=
  match moves with
  | [] => .ok (.entry position.location)
  | move :: rest =>
      if position.entry = some .directory then
        match move with
        | .here => walk tree creating links position rest
        | .insist => walk tree creating links position rest
        | .up => walk tree creating links (position.parent tree) rest
        | .enter name =>
            if creating ∧ rest = [.insist] then .error .isDirectory
            else if nameLimit < name.length then .error .nameTooLong
            else
              match (position.enter name).entry with
              | none =>
                  if rest = [] then .ok (.vacant position.location name)
                  else .error .noEntry
              | some (.link target) =>
                  match links with
                  | 0 => .error .linkLoop
                  | fewer + 1 =>
                      walk tree creating fewer
                        (if Path.isAbsolute target then tree.position [] else position)
                        (Path.moves target ++ rest)
              | some _ => walk tree creating links (position.enter name) rest
      else .error .notDirectory
termination_by (links, moves.length)

/-- A walk without moves ends where it starts. -/
theorem walk_nil
    (tree : FileTree)
    (creating : Bool)
    (links : Nat)
    (location : Location) :
    tree.walk creating links (tree.position location) [] = .ok (.entry location) := by
  rw [walk, Position.location_position]

/-- One move of a walk from a location. -/
theorem walk_cons
    (tree : FileTree)
    (creating : Bool)
    (links : Nat)
    (location : Location)
    (move : Path.Move)
    (rest : List Path.Move) :
    tree.walk creating links (tree.position location) (move :: rest) =
      if tree.lookup? location = some .directory then
        match move with
        | .here => tree.walk creating links (tree.position location) rest
        | .insist => tree.walk creating links (tree.position location) rest
        | .up => tree.walk creating links (tree.position location.dropLast) rest
        | .enter name =>
            if creating ∧ rest = [.insist] then .error .isDirectory
            else if nameLimit < name.length then .error .nameTooLong
            else
              match tree.lookup? (location ++ [name]) with
              | none =>
                  if rest = [] then .ok (.vacant location name)
                  else .error .noEntry
              | some (.link target) =>
                  match links with
                  | 0 => .error .linkLoop
                  | fewer + 1 =>
                      tree.walk creating fewer
                        (if Path.isAbsolute target then tree.position []
                          else tree.position location)
                        (Path.moves target ++ rest)
              | some _ =>
                  tree.walk creating links (tree.position (location ++ [name])) rest
      else .error .notDirectory := by
  rw [walk.eq_def]
  simp only [Position.entry_position, Position.enter_position,
    Position.parent_position, Position.location_position]

/-- Where the walk of a path starts. -/
def origin (tree : FileTree) (path : Path) : Position :=
  tree.position (if Path.isAbsolute path then [] else tree.current)

/-- Refuse a path that the host does not take. -/
def checkPath (path : Path) : Except HostError Unit :=
  if path.contains 0 then .error .nulInPath
  else if path = [] then .error (.ofErrno .noEntry)
  else if pathLimit ≤ path.length then .error (.ofErrno .nameTooLong)
  else .ok ()

/-- The spot that a path stands for. -/
def resolve
    (tree : FileTree)
    (creating : Bool)
    (path : Path) :
    Except HostError Spot :=
  match checkPath path with
  | .error error => .error error
  | .ok () =>
      (tree.walk creating linkLimit (tree.origin path) (Path.moves path)).mapError
        .ofErrno

/-- The existing entry that a path stands for, with its location. -/
def find (tree : FileTree) (path : Path) : Except HostError (Location × Entry) :=
  match tree.resolve false path with
  | .error error => .error error
  | .ok spot =>
      match tree.lookup? spot.location with
      | some entry => .ok (spot.location, entry)
      | none => .error (.ofErrno .noEntry)

/-- Whether a path stands for an existing entry. -/
def isPresent (tree : FileTree) (path : Path) : Bool :=
  match tree.find path with
  | .ok _ => true
  | .error _ => false

/-- Whether a path stands for an existing directory. -/
def isDirectory (tree : FileTree) (path : Path) : Bool :=
  match tree.find path with
  | .ok (_, .directory) => true
  | _ => false

/-- The absolute path of a location, without links and idle parts. -/
def absolutePath (location : Location) : Path :=
  if location = [] then [Path.slash]
  else location.flatMap (Path.slash :: ·)

/-- The absolute path of what a path stands for. -/
def canonical (tree : FileTree) (path : Path) : Except HostError Path :=
  (tree.find path).map fun (location, _) => absolutePath location

end FileTree

end FileTransfer
