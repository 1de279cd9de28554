import FileTransfer.Journal.JsonValue
import FileTransfer.Rate

namespace FileTransfer

/-!
# What happened, and how it is recorded

A server that begins to listen, and every session, leave events behind.  An
event is written as one line of plain text or as one JSON object, each with the
time at which it was written.
-/

/-- Something worth recording. -/
inductive Event where
  /-- A server waits for peers on an address. -/
  | listening (address : String) (directory : Path)
  /-- A connection was made. -/
  | start (peer : String)
  /-- A session moved its file. -/
  | done (peer : String) (receipt : Receipt)
  /-- A session, or waiting for one, failed. -/
  | error (peer message : String)
  deriving Repr, DecidableEq

/-- A receipt as a value of a record, if its path is a text. -/
def Receipt.json? (receipt : Receipt) : Option JsonValue :=
  (Bytes.text? receipt.path).map fun path =>
    .object [
      ("role", .text receipt.role.word),
      ("name", .text receipt.name),
      ("path", .text path),
      ("bytes", .integer receipt.bytes),
      ("elapsed", .fraction receipt.elapsed.inSeconds),
      ("digest",
        match receipt.digest with
        | some digest => .text digest
        | none => .null)]

namespace Event

/-- The word for an event in a line of text. -/
def word : Event → String
  | listening .. => "LISTEN"
  | start .. => "CONNECT"
  | done .. => "DONE"
  | error .. => "ERROR"

/-- What a line of text says of an event after its word. -/
def details : Event → String
  | listening address directory =>
      s!"bind={address} dir={Path.display directory}"
  | start peer => s!"peer={peer}"
  | done peer receipt =>
      let seconds := Decimal.fixed 3 receipt.elapsed.inSeconds
      let digest :=
        match receipt.digest with
        | some digest => s!" blake3={digest}"
        | none => ""
      s!"peer={peer} name={receipt.name} path={Path.display receipt.path}" ++
        s!" bytes={receipt.bytes} seconds={seconds}{digest}"
  | error peer message => s!"peer={peer} msg={message}"

def line (stamp : String) (event : Event) : String :=
  s!"[{stamp}] {event.word} {event.details}\n"

def key : Event → String
  | listening .. => "listen"
  | start .. => "connect"
  | done .. => "done"
  | error .. => "error"

/-- What a record says of an event, if all its paths are texts. -/
def body? : Event → Option JsonValue
  | listening address directory =>
      (Bytes.text? directory).map fun directory =>
        .object [("bind", .text address), ("dir", .text directory)]
  | start peer => some (.object [("peer", .text peer)])
  | done peer receipt =>
      receipt.json?.map fun receipt =>
        .object [("peer", .text peer), ("report", receipt)]
  | error peer message =>
      some (.object [("peer", .text peer), ("msg", .text message)])

/--
An event as one record on a line of its own.  A record breaks off after its key
when a path in it is not a text.
-/
def record (stamp : String) (event : Event) : String :=
  match event.body? with
  | some body =>
      JsonValue.render (.object [("timestamp", .text stamp), (event.key, body)]) ++ "\n"
  | none =>
      let stamped := JsonValue.render (.object [("timestamp", .text stamp)])
      String.ofList
        (stamped.toList.dropLast ++ ',' :: JsonValue.quotedChars event.key)

end Event

end FileTransfer
