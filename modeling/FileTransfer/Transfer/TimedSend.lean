import FileTransfer.Stream.TimedOutlet
import FileTransfer.Transfer.Send

namespace FileTransfer

/-!
# Sending one file against a clock

The same transfer with a deadline on the header and on every piece of content;
the deadline of a buffer depends on its length.
-/

/-- The most octets that one read of a source moves while a clock runs. -/
def timedSourceLimit : Nat := 2 * Limits.mebibyte

def TimedOutlet.writeWithin
    (step : String)
    (buffer : Bytes)
    (outlet : TimedOutlet) :
    Except Fault Unit × TimedOutlet :=
  within step (Limits.writeDeadline buffer.length) TimedOutlet.clock
    (writeAll? · buffer ·) outlet

/-- Write what a source still delivers, each piece within its deadline. -/
def sendBodyTimed
    (room : Nat)
    (source : Inlet)
    (tally : Tally)
    (outlet : TimedOutlet) :
    (Except Fault Unit × Tally) × TimedOutlet :=
  match _ : source.readSome room with
  | (.error error, _) =>
      ((.error (.host "read source file" error), tally), outlet)
  | (.ok [], _) => ((.ok (), tally), outlet)
  | (.ok (octet :: others), rest) =>
      match outlet.writeWithin "write body" (octet :: others) with
      | (.error fault, after) => ((.error fault, tally), after)
      | (.ok (), after) =>
          sendBodyTimed room rest (tally.record (octet :: others)) after
termination_by source.weight
decreasing_by exact Inlet.weight_readSome_ok ‹_› (by simp)

/-- Write the header and the content of a source, and flush once. -/
def sendSourceTimed
    (options : TransferOptions)
    (path : Path)
    (source : Source)
    (outlet : TimedOutlet) :
    Except Fault Receipt × TimedOutlet :=
  match outlet.writeWithin "write header" source.header with
  | (.error fault, after) => (.error fault, after)
  | (.ok (), after) =>
      match
        sendBodyTimed options.room source.inlet (.start options.digesting) after
      with
      | ((.error fault, _), last) => (.error fault, last)
      | ((.ok (), tally), last) =>
          match last.flush with
          | (.error error, flushed) => (.error (.host "flush" error), flushed)
          | (.ok (), flushed) =>
              let elapsed := Elapsed.ofMilliseconds (flushed.clock - after.clock)
              (.ok (tally.finish .client source.name path elapsed), flushed)

/-- Send the file at a path with deadlines. -/
def sendFileTimed
    (options : TransferOptions)
    (tree : FileTree)
    (path : Path)
    (outlet : TimedOutlet) :
    Except Fault Receipt × TimedOutlet :=
  match Source.open? (some timedSourceLimit) tree path with
  | .error fault => (.error fault, outlet)
  | .ok source => sendSourceTimed options path source outlet

end FileTransfer
