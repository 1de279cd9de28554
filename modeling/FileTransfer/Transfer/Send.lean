import FileTransfer.Filename
import FileTransfer.Header
import FileTransfer.Stream.Outlet
import FileTransfer.Transfer.Options

namespace FileTransfer

/-!
# Sending one file

The name in the header is the last name of the source path.  The source is
opened before anything is written; then come the header, the content piece by
piece, and one flush.
-/

/-- A source that is ready to be sent. -/
structure Source where
  name : String
  header : Bytes
  /-- What reading the source delivers. -/
  inlet : Inlet
  deriving Repr, DecidableEq

/-- Prepare the file at a path; one read of it moves at most `limit` octets. -/
def Source.open?
    (limit : Option Nat)
    (tree : FileTree)
    (path : Path) :
    Except Fault Source := do
  let text ←
    match Bytes.text? path with
    | some text => .ok text
    | none => .error (.invalidPath (Path.display path))
  let name ← Filename.ofPath text
  let length := (Bytes.ofText name).length
  if length > Limits.maxNameLength then
    throw (.nameTooLong length)
  let inlet ← (tree.openInput limit path).mapError (.host "open source file")
  let header ← Header.encode name
  return ⟨name, header, inlet⟩

/-- Write what a source still delivers. -/
def sendBody
    (room : Nat)
    (source : Inlet)
    (tally : Tally)
    (outlet : Outlet) :
    (Except Fault Unit × Tally) × Outlet :=
  match _ : source.readSome room with
  | (.error error, _) => ((.error (.host "read body" error), tally), outlet)
  | (.ok [], _) => ((.ok (), tally), outlet)
  | (.ok (octet :: others), rest) =>
      match outlet.writeAll (octet :: others) with
      | (.error fault, after) => ((.error fault, tally), after)
      | (.ok (), after) =>
          sendBody room rest (tally.record (octet :: others)) after
termination_by source.weight
decreasing_by exact Inlet.weight_readSome_ok ‹_› (by simp)

/-- Write the header and the content of a source, and flush once. -/
def sendSource
    (options : TransferOptions)
    (path : Path)
    (source : Source)
    (outlet : Outlet) :
    Except Fault Receipt × Outlet :=
  match outlet.writeAll source.header with
  | (.error fault, after) => (.error fault, after)
  | (.ok (), after) =>
      match
        sendBody options.room source.inlet (.start options.digesting) after
      with
      | ((.error fault, _), last) => (.error fault, last)
      | ((.ok (), tally), last) =>
          match last.flush with
          | (.error error, flushed) => (.error (.host "flush" error), flushed)
          | (.ok (), flushed) =>
              (.ok (tally.finish .client source.name path ⟨0, 0⟩), flushed)

/-- Send the file at a path, waiting as long as it takes. -/
def sendFile
    (options : TransferOptions)
    (tree : FileTree)
    (path : Path)
    (outlet : Outlet) :
    Except Fault Receipt × Outlet :=
  match Source.open? none tree path with
  | .error fault => (.error fault, outlet)
  | .ok source => sendSource options path source outlet

end FileTransfer
