namespace FileTransfer

/-!
# Errors that the host reports

Reading, writing, opening and connecting can fail for reasons that lie outside
the program.  A `HostError` keeps the three ways in which such a reason comes
to be known: a bare kind, a number of the operating system, or a kind with a
text of its own.
-/

/-- The kinds into which failures of the host fall. -/
inductive ErrorKind where
  | notFound
  | permissionDenied
  | connectionRefused
  | connectionReset
  | connectionAborted
  | notConnected
  | addressInUse
  | addressNotAvailable
  | networkUnreachable
  | hostUnreachable
  | brokenPipe
  | alreadyExists
  | wouldBlock
  | notADirectory
  | isADirectory
  | directoryNotEmpty
  | linkLoop
  | invalidInput
  | invalidData
  | invalidFilename
  | timedOut
  | writeZero
  | storageFull
  | interrupted
  | unsupported
  | unexpectedEof
  | outOfMemory
  | other
  | uncategorized
  deriving Repr, DecidableEq

/-- What a kind is called in a message. -/
def ErrorKind.description : ErrorKind → String
  | .notFound => "entity not found"
  | .permissionDenied => "permission denied"
  | .connectionRefused => "connection refused"
  | .connectionReset => "connection reset"
  | .connectionAborted => "connection aborted"
  | .notConnected => "not connected"
  | .addressInUse => "address in use"
  | .addressNotAvailable => "address not available"
  | .networkUnreachable => "network unreachable"
  | .hostUnreachable => "host unreachable"
  | .brokenPipe => "broken pipe"
  | .alreadyExists => "entity already exists"
  | .wouldBlock => "operation would block"
  | .notADirectory => "not a directory"
  | .isADirectory => "is a directory"
  | .directoryNotEmpty => "directory not empty"
  | .linkLoop => "filesystem loop or indirection limit (e.g. symlink loop)"
  | .invalidInput => "invalid input parameter"
  | .invalidData => "invalid data"
  | .invalidFilename => "invalid filename"
  | .timedOut => "timed out"
  | .writeZero => "write zero"
  | .storageFull => "no storage space"
  | .interrupted => "operation interrupted"
  | .unsupported => "unsupported"
  | .unexpectedEof => "unexpected end of file"
  | .outOfMemory => "out of memory"
  | .other => "other error"
  | .uncategorized => "uncategorized error"

/-- A number by which the operating system names a failure. -/
structure Errno where
  code : Nat
  deriving Repr, DecidableEq

namespace Errno

/-- No such file or directory. -/
def noEntry : Errno := ⟨2⟩
def wouldBlock : Errno := ⟨11⟩
def alreadyExists : Errno := ⟨17⟩
/-- A path goes through something that is no directory. -/
def notDirectory : Errno := ⟨20⟩
def isDirectory : Errno := ⟨21⟩
/-- A device has no room. -/
def noSpace : Errno := ⟨28⟩
/-- A path, or one name in it, is too long. -/
def nameTooLong : Errno := ⟨36⟩
/-- A path goes through too many symbolic links. -/
def linkLoop : Errno := ⟨40⟩
/-- Another socket holds the address. -/
def addressInUse : Errno := ⟨98⟩
/-- The address is none of this host's. -/
def addressNotAvailable : Errno := ⟨99⟩
/-- There is no route to the network. -/
def networkUnreachable : Errno := ⟨101⟩
/-- The peer did not answer. -/
def timedOut : Errno := ⟨110⟩

/-- The numbers with a meaning here, each with its kind and its text. -/
def table : List (Nat × ErrorKind × String) := [
  (1, .permissionDenied, "Operation not permitted"),
  (2, .notFound, "No such file or directory"),
  (4, .interrupted, "Interrupted system call"),
  (5, .uncategorized, "Input/output error"),
  (9, .uncategorized, "Bad file descriptor"),
  (11, .wouldBlock, "Resource temporarily unavailable"),
  (12, .outOfMemory, "Cannot allocate memory"),
  (13, .permissionDenied, "Permission denied"),
  (17, .alreadyExists, "File exists"),
  (20, .notADirectory, "Not a directory"),
  (21, .isADirectory, "Is a directory"),
  (22, .invalidInput, "Invalid argument"),
  (28, .storageFull, "No space left on device"),
  (32, .brokenPipe, "Broken pipe"),
  (36, .invalidFilename, "File name too long"),
  (39, .directoryNotEmpty, "Directory not empty"),
  (40, .linkLoop, "Too many levels of symbolic links"),
  (98, .addressInUse, "Address already in use"),
  (99, .addressNotAvailable, "Cannot assign requested address"),
  (101, .networkUnreachable, "Network is unreachable"),
  (103, .connectionAborted, "Software caused connection abort"),
  (104, .connectionReset, "Connection reset by peer"),
  (107, .notConnected, "Transport endpoint is not connected"),
  (110, .timedOut, "Connection timed out"),
  (111, .connectionRefused, "Connection refused"),
  (113, .hostUnreachable, "No route to host")]

def kind (errno : Errno) : ErrorKind :=
  match table.find? (·.1 = errno.code) with
  | some (_, kind, _) => kind
  | none => .uncategorized

/-- The text of a number, without the number itself. -/
def description (errno : Errno) : String :=
  match table.find? (·.1 = errno.code) with
  | some (_, _, description) => description
  | none => s!"Unknown error {errno.code}"

end Errno

/-- A failure that the host reports. -/
inductive HostError where
  | ofKind (kind : ErrorKind)
  | ofErrno (errno : Errno)
  | described (kind : ErrorKind) (text : String)
  deriving Repr, DecidableEq

namespace HostError

def kind : HostError → ErrorKind
  | .ofKind kind => kind
  | .ofErrno errno => errno.kind
  | .described kind _ => kind

/-- The text of a failure. -/
def message : HostError → String
  | .ofKind kind => kind.description
  | .ofErrno errno => s!"{errno.description} (os error {errno.code})"
  | .described _ text => text

/--
Whether a call was only interrupted.  An interrupted read or write moved
nothing and is made again.
-/
def isInterrupted (error : HostError) : Bool :=
  error.kind = .interrupted

/-- The failure of a path that holds a NUL octet. -/
def nulInPath : HostError :=
  .described .invalidInput "file name contained an unexpected NUL byte"

end HostError

end FileTransfer
