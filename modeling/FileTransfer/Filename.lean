import FileTransfer.Fault
import FileTransfer.Path

namespace FileTransfer

/-!
# Names of transferred files

A name that arrives from a peer becomes a path below the output directory, so
it has to be one plain name: text, not empty, without separators and without a
meaning of its own.  The name that a sender announces is the last part of the
source path.
-/

namespace Filename

/-- The octets that no name may hold: both slashes, the colon and NUL. -/
def forbidden : List UInt8 := [Path.slash, 0x5C, 0x3A, 0x00]

/-- Whether a name stands for exactly one entry of a directory. -/
def isSinglePart (name : Bytes) : Bool :=
  Path.components name = [.normal name]

/-- Whether octets that are a text make up a plain file name. -/
def isPlain (name : Bytes) : Bool :=
  name ≠ [] &&
    !name.any (forbidden.contains ·) &&
    name ≠ Path.selfName &&
    name ≠ Path.parentName &&
    isSinglePart name

/-- The plain file name that received octets spell. -/
def validate (raw : Bytes) : Except Fault String :=
  match raw.text? with
  | none => .error (.invalidFilename (Text.lossy raw))
  | some name =>
      if isPlain raw then .ok name else .error (.invalidFilename name)

/-- A received name together with the path it has below a directory. -/
def place (directory : Path) (raw : Bytes) : Except Fault (String × Path) :=
  (validate raw).map fun name => (name, Path.join directory raw)

/-- What follows the last slash of a local path. -/
def lastName (path : String) : String :=
  String.ofList (path.toList.reverse.takeWhile (· ≠ '/')).reverse

/-- The name under which the file at a local path is sent. -/
def ofPath (path : String) : Except Fault String :=
  let name := lastName path
  if name = "" then .error (.invalidPath path) else .ok name

end Filename

end FileTransfer
