import FileTransfer.Bytes
import FileTransfer.Fault
import FileTransfer.Path

namespace FileTransfer

/-!
# Sessions

One connection is one session.  The receiving side passes through six phases;
a session that fails is remembered as an `Abort`, which names the phase it was
in, and one that succeeds as a `Receipt`.
-/

/-- How far the receiving side of a session has come. -/
inductive Phase where
  | awaitHeaderLength
  | awaitFilename
  | validateFilename
  | openOutput
  | receiveBody
  | done
  deriving Repr, DecidableEq

namespace Phase

/-- The phases in the order in which a session passes through them. -/
def all : List Phase :=
  [awaitHeaderLength, awaitFilename, validateFilename, openOutput, receiveBody,
    done]

/-- What a phase is called in a message. -/
def description : Phase → String
  | awaitHeaderLength => "header length"
  | awaitFilename => "filename"
  | validateFilename => "filename validation"
  | openOutput => "open output"
  | receiveBody => "body"
  | done => "done"

end Phase

/-- The end of a receiving session that failed. -/
structure Abort where
  phase : Phase
  fault : Fault
  deriving Repr, DecidableEq

/-- The text of an aborted session. -/
def Abort.message (aborted : Abort) : String :=
  s!"aborted during {aborted.phase.description}: {aborted.fault.message}"

/-- The two sides of a connection. -/
inductive Role where
  | client
  | server
  deriving Repr, DecidableEq

/-- What a side is called in a record. -/
def Role.word : Role → String
  | .client => "client"
  | .server => "server"

/-- A span of time: whole seconds and the nanoseconds beyond them. -/
structure Elapsed where
  seconds : Nat
  nanos : Nat
  deriving Repr, DecidableEq

def Elapsed.ofMilliseconds (milliseconds : Nat) : Elapsed :=
  ⟨milliseconds / 1000, milliseconds % 1000 * 1000000⟩

/-- The account of one completed transfer. -/
structure Receipt where
  /-- The side that gives the account. -/
  role : Role
  name : String
  /-- The local file that was read or written. -/
  path : Path
  /-- The number of octets after the header. -/
  bytes : Nat
  elapsed : Elapsed
  /-- The digest of these octets in hexadecimal, if one was asked for. -/
  digest : Option String
  deriving Repr, DecidableEq

end FileTransfer
