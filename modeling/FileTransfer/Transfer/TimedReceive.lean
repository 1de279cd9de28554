import FileTransfer.Stream.TimedInlet
import FileTransfer.Transfer.Receive

namespace FileTransfer

/-!
# Receiving one file against a clock

The same session with a deadline on every step that waits for the peer: on the
length field, on the name, and on each read of content.  The output is written
behind the session's back, so a failure to write shows in the step after it.
-/

/-- The milliseconds that reading the length field or the name may take. -/
def headerAllowance (readDeadline : Option Nat) : Nat :=
  readDeadline.getD Limits.headerDeadline

/-- The milliseconds that one read of content may take. -/
def bodyAllowance (readDeadline : Option Nat) (room : Nat) : Nat :=
  readDeadline.getD (Limits.readDeadline room)

namespace Sink

/-- The most octets that are written behind at a time. -/
def writeBehindLimit : Nat := 2 * Limits.mebibyte

/--
Hand some octets to an output that is written behind.  A failure that is still
owed shows first; otherwise the first part is always taken, and a failure to
write it is owed.
-/
def writeBehind
    (sink : Sink)
    (owed : Option HostError)
    (bytes : Bytes) :
    Except HostError (Option HostError) :=
  match owed, sink.refusal? bytes with
  | some error, _ => .error error
  | none, none => .ok none
  | none, some error =>
      if bytes.length ≤ writeBehindLimit then .ok (some error) else .error error

end Sink

namespace TimedInlet

def readField
    (step : String)
    (milliseconds length : Nat)
    (inlet : TimedInlet) :
    Except Fault Bytes × TimedInlet :=
  within step milliseconds TimedInlet.clock (readExact? · length ·) inlet

/-- Read one piece of content under a deadline. -/
def readBody
    (milliseconds room : Nat)
    (inlet : TimedInlet) :
    Except Fault Bytes × TimedInlet :=
  within "read body" milliseconds TimedInlet.clock
    (fun latest inlet =>
      match inlet.readSome? latest room with
      | (reply, rest) => (reply.map (Fault.during "read body"), rest))
    inlet

/-- A piece of content that is not empty leaves less to be read. -/
theorem weight_readBody_ok
    {milliseconds room : Nat}
    {inlet rest : TimedInlet}
    {piece : Bytes}
    (delivered : inlet.readBody milliseconds room = (.ok piece, rest))
    (nonempty : piece ≠ []) :
    rest.weight < inlet.weight := by
  unfold readBody within at delivered
  split at delivered
  · rename_i reply after shape
    cases delivered
    simp only [Prod.mk.injEq, Option.map_eq_some_iff] at shape
    obtain ⟨⟨answer, replied, mapped⟩, rfl⟩ := shape
    cases answer with
    | error error => cases mapped
    | ok octets =>
        cases mapped
        have lighter := weight_readSome? (Prod.ext replied rfl)
        cases piece with
        | nil => exact absurd rfl nonempty
        | cons octet others =>
            exact lighter
  · cases delivered

/-- Read the octets of the name that a header announces. -/
def readName
    (milliseconds : Nat)
    (inlet : TimedInlet) :
    Except Abort Bytes × TimedInlet :=
  match inlet.readField "read header" milliseconds Limits.lengthFieldSize with
  | (.error fault, rest) => (.error ⟨.awaitHeaderLength, fault⟩, rest)
  | (.ok field, rest) =>
      match Header.nameLength field with
      | .error fault => (.error ⟨.awaitHeaderLength, fault⟩, rest)
      | .ok length =>
          match rest.readField "read filename" milliseconds length with
          | (.error fault, last) => (.error ⟨.awaitFilename, fault⟩, last)
          | (.ok raw, last) => (.ok raw, last)

end TimedInlet

/--
Move what a stream still delivers into an opened output, each piece within its
deadline; `owed` is a failure of the output that did not show yet.
-/
def receiveBodyTimed
    (milliseconds room : Nat)
    (sink : Sink)
    (owed : Option HostError)
    (tally : Tally)
    (inlet : TimedInlet) :
    (Except Fault Unit × Tally) × TimedInlet :=
  match _ : inlet.readBody milliseconds room with
  | (.error fault, rest) => ((.error fault, tally), rest)
  | (.ok [], rest) =>
      match owed with
      | some error => ((.error (.host "flush output" error), tally), rest)
      | none => ((.ok (), tally), rest)
  | (.ok (octet :: others), rest) =>
      match sink.writeBehind owed (octet :: others) with
      | .error error => ((.error (.host "write" error), tally), rest)
      | .ok debt =>
          receiveBodyTimed milliseconds room sink debt
            (tally.record (octet :: others)) rest
termination_by inlet.weight
decreasing_by exact TimedInlet.weight_readBody_ok ‹_› (by simp)

/--
Run one session with deadlines.  A read deadline of the configuration replaces
all default ones.
-/
def receiveFileTimed
    (options : TransferOptions)
    (readDeadline : Option Nat)
    (directory : Path)
    (tree : FileTree)
    (inlet : TimedInlet) :
    Reception × TimedInlet :=
  match inlet.readName (headerAllowance readDeadline) with
  | (.error aborted, rest) => (⟨.error aborted, tree⟩, rest)
  | (.ok raw, rest) =>
      match Output.open? directory tree raw with
      | .error aborted => (⟨.error aborted, tree⟩, rest)
      | .ok (output, opened) =>
          match
            receiveBodyTimed (bodyAllowance readDeadline options.room)
              options.room output.sink none (.start options.digesting) rest
          with
          | ((ended, tally), last) =>
              let elapsed := Elapsed.ofMilliseconds (last.clock - rest.clock)
              (output.close elapsed opened ended tally, last)

end FileTransfer
