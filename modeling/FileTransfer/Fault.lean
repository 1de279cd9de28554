import FileTransfer.HostError
import FileTransfer.Text.Quoted

namespace FileTransfer

/-!
# Why a transfer fails

A transfer ends early for one of eight reasons.  Each has a text of its own;
only a failure of the host carries a deeper cause.
-/

/-- The reason why a transfer, or one step of it, failed. -/
inductive Fault where
  /-- The length field of a header lies outside the allowed range. -/
  | malformedFrame (length : Nat)
  /-- The peer closed the connection inside a field of known length. -/
  | unexpectedEof (got expected : Nat)
  /-- A received name is no plain file name. -/
  | invalidFilename (name : String)
  /-- A local path has no usable last name. -/
  | invalidPath (path : String)
  /-- A local name does not fit into a header. -/
  | nameTooLong (length : Nat)
  /-- A write moved nothing without failing. -/
  | connectionClosed
  /-- A step took longer than its deadline allows. -/
  | timeout (step : String) (milliseconds : Nat)
  | host (step : String) (error : HostError)
  deriving Repr, DecidableEq

namespace Fault

/-- The text of a fault. -/
def message : Fault → String
  | .malformedFrame length =>
      s!"malformed frame: filename length {length} outside 1..=255"
  | .unexpectedEof got expected =>
      s!"unexpected EOF: got {got} of {expected} bytes"
  | .invalidFilename name => "invalid filename " ++ Text.quoted name
  | .invalidPath path => "invalid path " ++ Text.quoted path
  | .nameTooLong length => s!"file name is {length} bytes, max 255"
  | .connectionClosed => "connection closed by peer"
  | .timeout step milliseconds => s!"{step} timed out after {milliseconds} ms"
  | .host step error => s!"{step}: {error.message}"

/-- The failure of the host behind a fault, if there is one. -/
def source? : Fault → Option HostError
  | .host _ error => some error
  | _ => none

end Fault

/-- Attach the name of a step to what the host answered. -/
def Fault.during
    {α : Type}
    (step : String) :
    Except HostError α → Except Fault α :=
  Except.mapError (.host step)

end FileTransfer
