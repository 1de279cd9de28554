import FileTransfer.Transfer.TimedReceive
import FileTransfer.Transfer.TimedSend
import Mathlib.Logic.Relation

namespace FileTransfer

/-!
# Two sides on one pipe

A sender and a receiver that run at the same time share a file tree and a pipe.
The pipe takes at least one octet of a write as long as it is not full, gives at
least one octet to a read as long as it is not empty, and ends once the sender
has finished and everything was read.

`Link.Step` is one step of either side.  Between two steps a side rests where it
waits for the pipe or for a file, so the steps of both sides may follow each
other in any order.
-/

/-- How far a sender has come with its source. -/
structure Progress where
  name : String
  /-- Where the source stands. -/
  place : Location
  /-- The number of octets that were read from it. -/
  offset : Nat
  /-- The account of these octets. -/
  tally : Tally
  deriving Repr, DecidableEq

/-- Where a sender rests. -/
inductive Sending where
  | opening
  /-- Some octets are left of a buffer that is being written. -/
  | writing (rest : Bytes) (progress : Progress)
  | reading (progress : Progress)
  | flushing (progress : Progress)
  | finished (outcome : Except Fault Receipt)

/-- Where a receiver rests. -/
inductive Receiving where
  | field (got : Bytes)
  | name (length : Nat) (got : Bytes)
  | opening (raw : Bytes)
  | content (output : Output) (owed : Option HostError) (tally : Tally)
  | finished (outcome : Except Abort Receipt)

/-- What two sides are asked for, and the capacity of the pipe between them. -/
structure Link where
  capacity : Nat
  sending : TransferOptions
  receiving : TransferOptions
  /-- The path of the source. -/
  path : Path
  /-- The directory of the output. -/
  directory : Path

/-- Both sides, what is between them, and what was moved so far. -/
structure Joint where
  tree : FileTree
  sender : Sending
  pipe : Bytes
  receiver : Receiving
  /-- How much the pipe took of each write, in order. -/
  written : List Nat
  /-- What each read got, in order. -/
  received : List Bytes

namespace Joint

/-- Both sides before their first step. -/
def start (tree : FileTree) : Joint where
  tree := tree
  sender := .opening
  pipe := []
  receiver := .field []
  written := []
  received := []

/-- The octets that the receiver has taken out of the pipe. -/
def consumed (joint : Joint) : Bytes :=
  joint.received.flatten

/-- Whether both sides have finished. -/
def Final (joint : Joint) : Prop :=
  ∃ sent received,
    joint.sender = .finished sent ∧ joint.receiver = .finished received

end Joint

/-!
## Sender
-/

namespace FileTree

/-- Where the entry stands that a path stands for. -/
def placeOf (tree : FileTree) (path : Path) : Location :=
  match tree.find path with
  | .ok (place, _) => place
  | .error _ => []

/-- What reading an open source delivers now, beyond what was read before. -/
def sourceAt (tree : FileTree) (place : Location) (offset : Nat) : Inlet :=
  match tree.lookup? place with
  | some (.file held) => .ofBytes (held.drop offset) (some timedSourceLimit)
  | some entry => entry.inlet (some timedSourceLimit)
  | none => .ofBytes [] (some timedSourceLimit)

end FileTree

namespace Link

/-- A sender that has read a piece of its source, or found its end. -/
def afterRead (progress : Progress) : Except HostError Bytes → Sending
  | .error error => .finished (.error (.host "read source file" error))
  | .ok [] => .flushing progress
  | .ok (octet :: others) =>
      .writing (octet :: others)
        { progress with
          offset := progress.offset + (octet :: others).length
          tally := progress.tally.record (octet :: others) }

/-- What a sender does next if it does not wait for the pipe. -/
def advance? (link : Link) (tree : FileTree) : Sending → Option Sending
  | .opening =>
      match Source.open? (some timedSourceLimit) tree link.path with
      | .error fault => some (.finished (.error fault))
      | .ok source =>
          some (.writing source.header
            ⟨source.name, tree.placeOf link.path, 0,
              .start link.sending.digesting⟩)
  | .writing [] progress => some (.reading progress)
  | .writing (_ :: _) _ => none
  | .reading progress =>
      let source := tree.sourceAt progress.place progress.offset
      some (afterRead progress (source.readSome link.sending.room).1)
  | .flushing progress =>
      some (.finished
        (.ok (progress.tally.finish .client progress.name link.path ⟨0, 0⟩)))
  | .finished _ => none

/-!
## Receiver
-/

/-- The octets that a receiver asks the pipe for. -/
def wants (link : Link) : Receiving → Nat
  | .field got => Limits.lengthFieldSize - got.length
  | .name length got => length - got.length
  | .opening _ => 0
  | .content _ _ _ => link.receiving.room
  | .finished _ => 0

/-- A receiver that has read all or a part of the length field. -/
def afterField (got : Bytes) : Receiving :=
  if got.length < Limits.lengthFieldSize then .field got
  else
    match Header.nameLength got with
    | .error fault => .finished (.error ⟨.awaitHeaderLength, fault⟩)
    | .ok length => .name length []

/-- A receiver that has read all or a part of the name. -/
def afterName (length : Nat) (got : Bytes) : Receiving :=
  if got.length < length then .name length got else .opening got

/-- A receiver, and the files, after a read that got some octets. -/
def afterPiece
    (tree : FileTree)
    (piece : Bytes) :
    Receiving → Receiving × FileTree
  | .field got => (afterField (got ++ piece), tree)
  | .name length got => (afterName length (got ++ piece), tree)
  | .opening raw => (.opening raw, tree)
  | .content output owed tally =>
      match output.sink.writeBehind owed piece with
      | .error error =>
          (.finished (.error ⟨.receiveBody, .host "write" error⟩), tree)
      | .ok debt =>
          (.content output debt (tally.record piece),
            tree.store output.sink (tally.record piece).content)
  | .finished outcome => (.finished outcome, tree)

/-- A receiver that has found the end of the pipe. -/
def afterEnd : Receiving → Receiving
  | .field got =>
      .finished (.error ⟨.awaitHeaderLength,
        .unexpectedEof got.length Limits.lengthFieldSize⟩)
  | .name length got =>
      .finished (.error ⟨.awaitFilename, .unexpectedEof got.length length⟩)
  | .opening raw => .opening raw
  | .content output none tally =>
      .finished
        (.ok (tally.finish .server output.name output.path ⟨0, 0⟩))
  | .content _ (some error) _ =>
      .finished (.error ⟨.receiveBody, .host "flush output" error⟩)
  | .finished outcome => .finished outcome

/-- A receiver, and the files, after it has opened its output. -/
def afterOpen
    (link : Link)
    (tree : FileTree)
    (raw : Bytes) :
    Receiving × FileTree :=
  match Output.open? link.directory tree raw with
  | .error aborted => (.finished (.error aborted), tree)
  | .ok (output, opened) =>
      (.content output none (.start link.receiving.digesting), opened)

/-!
## Steps
-/

/-- One step of either side. -/
inductive Step (link : Link) : Joint → Joint → Prop where
  /-- The sender does something that does not involve the pipe. -/
  | advance
      {joint : Joint}
      {next : Sending}
      (moves : link.advance? joint.tree joint.sender = some next) :
      Step link joint { joint with sender := next }
  /-- The pipe takes some octets of what is being written. -/
  | write
      {joint : Joint}
      {rest : Bytes}
      {progress : Progress}
      {count : Nat}
      (offers : joint.sender = .writing rest progress)
      (positive : 0 < count)
      (most : count ≤ rest.length)
      (free : joint.pipe.length + count ≤ link.capacity) :
      Step link joint
        { joint with
          sender := .writing (rest.drop count) progress
          pipe := joint.pipe ++ rest.take count
          written := joint.written ++ [count] }
  /-- The receiver gets some octets out of the pipe. -/
  | read
      {joint : Joint}
      {count : Nat}
      (positive : 0 < count)
      (most : count ≤ joint.pipe.length)
      (fits : count ≤ link.wants joint.receiver) :
      Step link joint
        { joint with
          tree :=
            (afterPiece joint.tree (joint.pipe.take count) joint.receiver).2
          pipe := joint.pipe.drop count
          receiver :=
            (afterPiece joint.tree (joint.pipe.take count) joint.receiver).1
          received := joint.received ++ [joint.pipe.take count] }
  /-- The receiver finds the end of the pipe. -/
  | finish
      {joint : Joint}
      {outcome : Except Fault Receipt}
      (drained : joint.pipe = [])
      (dropped : joint.sender = .finished outcome)
      (asks : 0 < link.wants joint.receiver) :
      Step link joint { joint with receiver := afterEnd joint.receiver }
  /-- The receiver opens its output. -/
  | create
      {joint : Joint}
      {raw : Bytes}
      (named : joint.receiver = .opening raw) :
      Step link joint
        { joint with
          tree := (link.afterOpen joint.tree raw).2
          receiver := (link.afterOpen joint.tree raw).1 }

/-- What can be reached by steps of both sides in any order. -/
def Reaches (link : Link) : Joint → Joint → Prop :=
  Relation.ReflTransGen link.Step

end Link

end FileTransfer
