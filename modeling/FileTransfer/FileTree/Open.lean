import FileTransfer.FileTree.Walk
import FileTransfer.Stream.Inlet

namespace FileTransfer

/-!
# Opening files

A file is opened to be read, to be replaced, or to be continued.  A directory
can be opened for reading, but reading it fails.  What an opened output finally
holds is put into the tree by `store`; only a regular file keeps it.
-/

/-- An opened output. -/
inductive Sink where
  | file (location : Location)
  | device (device : Device)
  deriving Repr, DecidableEq

/-- How writing some octets to an opened output fails, if it does. -/
def Sink.refusal? (sink : Sink) (bytes : Bytes) : Option HostError :=
  match sink with
  | .device .full => if bytes = [] then none else some (.ofErrno .noSpace)
  | .device .null => none
  | .file _ => none

/-- What reading an entry delivers. -/
def Entry.inlet (limit : Option Nat) : Entry → Inlet
  | .file content => .ofBytes content limit
  | .directory => .failing (.ofErrno .isDirectory)
  | .link _ => .ofBytes [] limit
  | .device _ => .ofBytes [] limit

namespace FileTree

/-- Open what a path stands for, to be read. -/
def openInput
    (tree : FileTree)
    (limit : Option Nat)
    (path : Path) :
    Except HostError Inlet :=
  (tree.find path).map fun (_, entry) => entry.inlet limit

/-- The whole content of the file that a path stands for. -/
def contentOf (tree : FileTree) (path : Path) : Except HostError Bytes :=
  match tree.find path with
  | .error error => .error error
  | .ok (_, .file content) => .ok content
  | .ok (_, .directory) => .error (.ofErrno .isDirectory)
  | .ok (_, .link _) => .ok []
  | .ok (_, .device _) => .ok []

/--
Open what a path stands for, to be written.  A free name becomes an empty file;
`emptied` tells whether an existing file loses its content.
-/
def openSink
    (tree : FileTree)
    (emptied : Bool)
    (path : Path) :
    Except HostError (Sink × FileTree) :=
  match tree.resolve true path with
  | .error error => .error error
  | .ok spot =>
      let location := spot.location
      match tree.lookup? location with
      | none => .ok (.file location, tree.put location (.file []))
      | some (.file _) =>
          .ok (.file location,
            if emptied then tree.put location (.file []) else tree)
      | some (.device device) => .ok (.device device, tree)
      | some (.link _) => .error (.ofErrno .linkLoop)
      | some .directory => .error (.ofErrno .isDirectory)

/-- Open an output that starts out empty. -/
def create (tree : FileTree) (path : Path) : Except HostError (Sink × FileTree) :=
  tree.openSink true path

/-- Open an output that keeps what it holds. -/
def openAppend
    (tree : FileTree)
    (path : Path) :
    Except HostError (Sink × FileTree) :=
  tree.openSink false path

/-- The tree after an output that started out empty received its content. -/
def store (sink : Sink) (content : Bytes) (tree : FileTree) : FileTree :=
  match sink with
  | .file location => tree.put location (.file content)
  | .device _ => tree

/-- The tree after an output was continued. -/
def append (sink : Sink) (bytes : Bytes) (tree : FileTree) : FileTree :=
  match sink with
  | .file location =>
      match tree.lookup? location with
      | some (.file content) => tree.put location (.file (content ++ bytes))
      | _ => tree
  | .device _ => tree

/--
Make one directory in an existing one.  A last part that names no entry stands
for what already exists, once the directory before it has been found.
-/
def makeDirectory (tree : FileTree) (path : Path) : Except HostError FileTree :=
  match checkPath path with
  | .error error => .error error
  | .ok () =>
      let moves := (Path.moves path).filter (· ≠ .insist)
      match tree.walk false linkLimit (tree.origin path) moves.dropLast with
      | .error error => .error (.ofErrno error)
      | .ok spot =>
          match tree.lookup? spot.location, moves.getLast? with
          | none, _ => .error (.ofErrno .noEntry)
          | some .directory, some (.enter name) =>
              let location := spot.location ++ [name]
              if nameLimit < name.length then .error (.ofErrno .nameTooLong)
              else if (tree.lookup? location).isSome then
                .error (.ofErrno .alreadyExists)
              else .ok (tree.put location .directory)
          | some .directory, _ => .error (.ofErrno .alreadyExists)
          | some _, _ => .error (.ofErrno .notDirectory)

/-- The tree with a directory, which may already have been there. -/
def ensureDirectory
    (tree : FileTree)
    (path : Path) :
    Except HostError Unit × FileTree :=
  match tree.makeDirectory path with
  | .ok made => (.ok (), made)
  | .error error =>
      (if tree.isDirectory path then .ok () else .error error, tree)

/--
Make a directory whose enclosing directories are given, the nearest first, and
these too where they are missing.  What was made before a failure remains.
-/
def makeDirectories
    (tree : FileTree) :
    List Path → Except HostError Unit × FileTree
  | [] => (.error (.ofErrno .noEntry), tree)
  | path :: outer =>
      if path = [] then (.ok (), tree)
      else
        match tree.makeDirectory path with
        | .ok made => (.ok (), made)
        | .error error =>
            if error.kind = .notFound then
              match tree.makeDirectories outer with
              | (.ok (), made) => made.ensureDirectory path
              | (.error refusal, made) => (.error refusal, made)
            else tree.ensureDirectory path

end FileTree

end FileTransfer
