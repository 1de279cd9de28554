import FileTransfer.Filename
import FileTransfer.Header
import FileTransfer.Transfer.Options

namespace FileTransfer

/-!
# Receiving one file

A session reads the header, checks the name, opens the output below the
directory, and then moves what the stream still delivers into the output.  A
fault ends the session in the phase it occurred in; content that was moved
before it stays in the output.
-/

/-- A session after its end. -/
structure Reception where
  outcome : Except Abort Receipt
  /-- The files after the session. -/
  tree : FileTree
  deriving Repr

/-- An output that was opened for the content of a transfer. -/
structure Output where
  name : String
  path : Path
  sink : Sink
  deriving Repr, DecidableEq

namespace Output

/-- Open the output that received octets name below a directory. -/
def open?
    (directory : Path)
    (tree : FileTree)
    (raw : Bytes) :
    Except Abort (Output × FileTree) :=
  match Filename.place directory raw with
  | .error fault => .error ⟨.validateFilename, fault⟩
  | .ok (name, path) =>
      match tree.create path with
      | .error error => .error ⟨.openOutput, .host "open output" error⟩
      | .ok (sink, opened) => .ok (⟨name, path, sink⟩, opened)

/-- The end of a session whose content was moved, or failed to be. -/
def close
    (output : Output)
    (elapsed : Elapsed)
    (opened : FileTree)
    (ended : Except Fault Unit)
    (tally : Tally) :
    Reception where
  outcome :=
    match ended with
    | .error fault => .error ⟨.receiveBody, fault⟩
    | .ok () => .ok (tally.finish .server output.name output.path elapsed)
  tree := opened.store output.sink tally.content

end Output

/-- Read the octets of the name that a header announces. -/
def Inlet.readName (inlet : Inlet) : Except Abort Bytes × Inlet :=
  match inlet.readExact Limits.lengthFieldSize with
  | (.error fault, rest) => (.error ⟨.awaitHeaderLength, fault⟩, rest)
  | (.ok field, rest) =>
      match Header.nameLength field with
      | .error fault => (.error ⟨.awaitHeaderLength, fault⟩, rest)
      | .ok length =>
          match rest.readExact length with
          | (.error fault, last) => (.error ⟨.awaitFilename, fault⟩, last)
          | (.ok raw, last) => (.ok raw, last)

/-- Move what a stream still delivers into an opened output. -/
def receiveBody
    (room : Nat)
    (sink : Sink)
    (tally : Tally)
    (inlet : Inlet) :
    (Except Fault Unit × Tally) × Inlet :=
  match _ : inlet.readSome room with
  | (.error error, rest) => ((.error (.host "read body" error), tally), rest)
  | (.ok [], rest) => ((.ok (), tally), rest)
  | (.ok (octet :: others), rest) =>
      match sink.refusal? (octet :: others) with
      | some error => ((.error (.host "write" error), tally), rest)
      | none => receiveBody room sink (tally.record (octet :: others)) rest
termination_by inlet.weight
decreasing_by exact Inlet.weight_readSome_ok ‹_› (by simp)

/-- Run one session that waits as long as it takes. -/
def receiveFile
    (options : TransferOptions)
    (directory : Path)
    (tree : FileTree)
    (inlet : Inlet) :
    Reception × Inlet :=
  match inlet.readName with
  | (.error aborted, rest) => (⟨.error aborted, tree⟩, rest)
  | (.ok raw, rest) =>
      match Output.open? directory tree raw with
      | .error aborted => (⟨.error aborted, tree⟩, rest)
      | .ok (output, opened) =>
          match
            receiveBody options.room output.sink (.start options.digesting) rest
          with
          | ((ended, tally), last) =>
              (output.close ⟨0, 0⟩ opened ended tally, last)

end FileTransfer
