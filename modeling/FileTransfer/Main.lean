import FileTransfer.Journal.Stamp
import FileTransfer.Program.Run
import Std.Async.DNS
import Std.Async.TCP
import Std.Async.Timer

namespace FileTransfer

/-!
# The program

The program looks at the files that a run may touch and at what the network
does, lets `Program.run` decide, and carries out on the disk and on the consoles
what was decided.
-/

namespace Main

open Std.Async
open Std.Net

/-! ## The disk -/

/-- The location of the working directory. -/
def here : IO Location := do
  return Path.names (Bytes.ofText (← IO.currentDir).toString)

/-- The location that a path spells from a working directory. -/
def spelled (current : Location) (path : Path) : Location :=
  (Path.names path).foldl
    (fun location name =>
      if name = Path.selfName then location
      else if name = Path.parentName then location.dropLast
      else location ++ [name])
    (if Path.isAbsolute path then [] else current)

/-- The device with a name, if it is one of those that a tree can hold. -/
def deviceNamed? (name : String) : Option Device :=
  if name = "/dev/null" then some .null
  else if name = "/dev/full" then some .full
  else none

/-- What the disk holds at a path, and where it really stands. -/
def found? (path : Path) : IO (Option (Location × Entry)) := do
  try
    let place ← IO.FS.realPath (Path.display path)
    let location := Path.names (Bytes.ofText place.toString)
    match deviceNamed? place.toString, (← place.metadata).type with
    | some device, _ => return some (location, .device device)
    | none, .dir => return some (location, .directory)
    | none, .file =>
        return some (location, .file (← IO.FS.readBinFile place).toList)
    | none, _ => return none
  catch _ => return none

/-- A tree with an entry and with the directories that enclose it. -/
def withEntry (location : Location) (entry : Entry) (tree : FileTree) : FileTree :=
  (List.range location.length).foldl
    (fun tree count =>
      let reached := location.take (count + 1)
      tree.put reached (if reached = location then entry else .directory))
    tree

/-- A tree with what the disk holds at a path and above it. -/
def observed (tree : FileTree) (path : Path) : IO FileTree := do
  let mut known := tree
  for place in path :: Path.ancestors path do
    match ← found? place with
    | none => pure ()
    | some (real, entry) =>
        known := withEntry real entry known
        let location := spelled tree.current place
        if location ≠ real ∧ Path.parentName ∉ Path.names place then
          known := known.put location (.link (FileTree.absolutePath real))
  return known

/-- The files at some paths. -/
def observedAll (paths : List Path) : IO FileTree := do
  let current ← here
  let mut tree ← observed (.bare current) (FileTree.absolutePath current)
  for path in paths do
    tree ← observed tree path
  return tree

/-- Bring what a run changed in a tree to the disk. -/
def carryOut (before after : FileTree) : IO Unit := do
  for (location, entry) in after.below [] do
    if before.lookup? location ≠ some entry then
      let place := Path.display (FileTree.absolutePath location)
      match entry with
      | .directory => IO.FS.createDirAll place
      | .file content => IO.FS.writeBinFile place content.toByteArray
      | .link _ => pure ()
      | .device _ => pure ()

/-- The time of the present moment. -/
def stamp : IO String := do
  let moment ← Std.Time.Timestamp.now
  let nanos := moment.toNanosecondsSinceUnixEpoch.val.toNat
  return Stamp.ofMoment (nanos / 1000000000) (nanos % 1000000000)

/-! ## The network -/

/-- The number of the operating system in an error, if it has one. -/
def errno? : IO.Error → Option Nat
  | .alreadyExists _ code _ => some code.toNat
  | .otherError code _ => some code.toNat
  | .resourceBusy code _ => some code.toNat
  | .resourceVanished code _ => some code.toNat
  | .unsupportedOperation code _ => some code.toNat
  | .hardwareFault code _ => some code.toNat
  | .unsatisfiedConstraints code _ => some code.toNat
  | .illegalOperation code _ => some code.toNat
  | .protocolError code _ => some code.toNat
  | .timeExpired code _ => some code.toNat
  | .interrupted _ code _ => some code.toNat
  | .noFileOrDirectory _ code _ => some code.toNat
  | .invalidArgument _ code _ => some code.toNat
  | .permissionDenied _ code _ => some code.toNat
  | .resourceExhausted _ code _ => some code.toNat
  | .inappropriateType _ code _ => some code.toNat
  | .noSuchThing _ code _ => some code.toNat
  | .unexpectedEof => none
  | .userError _ => none

/-- A number without its sign, which the host sometimes keeps in its top bit. -/
def magnitude (code : Nat) : Nat :=
  if 2147483648 ≤ code then 4294967296 - code else code

def hostError (error : IO.Error) : HostError :=
  match errno? error with
  | some code => .ofErrno ⟨magnitude code⟩
  | none => .described .other (toString error)

/-- The socket addresses of a host and a port. -/
def socketAddress (host : String) (port : Nat) : Async SocketAddress := do
  let found ← DNS.getAddrInfo host (toString port)
  match found.toList with
  | .v4 address :: _ => return .v4 ⟨address, port.toUInt16⟩
  | .v6 address :: _ => return .v6 ⟨address, port.toUInt16⟩
  | [] => throw (IO.userError "no address")

/-- A stream that takes everything, unless its first write fails. -/
def taking (failure : Option HostError) : TimedOutlet :=
  .ofSteps (failure.map fun error => .now (.failure error)).toList none none none

/-- A network in which every attempt to connect has a given answer. -/
def networkOf (attempt : Attempt TimedOutlet) : Network where
  attempt _ _ := attempt
  obstacle? _ := none
  arrivals := []

/-- Connect to a server, send it some octets, and tell what became of that. -/
def transmit (plan : ClientPlan) (wire : Bytes) : IO (Attempt TimedOutlet) := do
  let start ← IO.monoMsNow
  let socket ← TCP.Socket.Client.mk
  let connecting : Async Unit := do
    socket.connect (← socketAddress plan.host plan.port)
  match ← connecting.block.toBaseIO with
  | .error error => return .refused (hostError error)
  | .ok () =>
      let waited := (← IO.monoMsNow) - start
      let sending : Async Unit := do
        socket.send wire.toByteArray
        socket.shutdown
      match ← sending.block.toBaseIO with
      | .error error => return .answered waited (.ok (taking (hostError error)))
      | .ok () => return .answered waited (.ok (taking none))

/-- The next octets from a peer, unless it is silent for too long. -/
def piece
    (peer : TCP.Socket.Client)
    (limit : Nat) :
    Async (Option (Option ByteArray)) := do
  let patience ← Selector.sleep (Std.Time.Millisecond.Offset.ofNat limit)
  Selectable.one #[
    .case (peer.recvSelector 65536) (fun found => return some found),
    .case patience (fun _ => return none)]

/-- What a peer sends until it closes, fails, or is silent for too long. -/
def gathered (peer : TCP.Socket.Client) (limit : Nat) : IO TimedInlet := do
  let mut steps : Array (Timed Inlet.Step) := #[]
  let mut going := true
  while going do
    match ← (piece peer limit).block.toBaseIO with
    | .ok (some (some bytes)) => steps := steps.push (.now (.data bytes.toList))
    | .ok (some none) => going := false
    | .ok none =>
        steps := steps.push .stall
        going := false
    | .error error =>
        steps := steps.push (.now (.failure (hostError error)))
        going := false
  return .ofSteps steps.toList none

/-! ## Runs -/

/-- Print what a run printed, and leave with its status. -/
def finish (before : FileTree) (ending : Ending) : IO UInt32 := do
  carryOut before ending.tree
  IO.print ending.output
  IO.eprint ending.notices
  return ending.status.toUInt32

def client
    (commandLine : List Bytes)
    (plan : ClientPlan)
    (surroundings : Program.Surroundings) :
    IO UInt32 := do
  let rehearsal :=
    Program.run commandLine
      { surroundings with network := networkOf (.answered 0 (.ok (taking none))) }
  let attempt ← transmit plan rehearsal.wire
  finish surroundings.tree
    (Program.run commandLine
      { surroundings with network := networkOf attempt })

/-- The path of the file that a stream names, if it names one. -/
def named? (directory : Path) (bytes : Bytes) : Option Path :=
  match Header.nameLength (bytes.take Limits.lengthFieldSize) with
  | .error _ => none
  | .ok length =>
      match
        Filename.place directory
          ((bytes.drop Limits.lengthFieldSize).take length) with
      | .error _ => none
      | .ok (_, path) => some path

def delivered (inlet : TimedInlet) : Bytes :=
  (Timed.instant inlet.steps).flatMap fun step =>
    match step with
    | .data bytes => bytes
    | .failure _ => []
    | .close => []

def takeTurns
    (plan : Plan)
    (server : ServerPlan)
    (journal : Journal)
    (socket : TCP.Socket.Server) :
    IO Unit := do
  let limit := server.readDeadline.getD (Limits.readDeadline server.chunkSize)
  while true do
    let arrival : Arrival TimedInlet ←
      match ← (socket.accept).block.toBaseIO with
      | .error error => pure (.failure (.host "accept" (hostError error)))
      | .ok peer =>
          let address ← peer.getPeerName
          pure (.connection (toString address) (← gathered peer limit))
    let path? :=
      match arrival with
      | .connection _ inlet => named? server.directory (delivered inlet)
      | .failure _ => none
    let tree ←
      observedAll (server.directory :: path?.toList ++ plan.logFile.toList)
    let turn := Program.turn server plan.timed (← stamp) journal tree arrival
    carryOut tree turn.tree
    IO.eprint (Program.lines turn.notices)

def server
    (plan : Plan)
    (server : ServerPlan)
    (surroundings : Program.Surroundings) :
    IO UInt32 := do
  let opened := Program.opened plan surroundings.tree
  let socket ← TCP.Socket.Server.mk
  let binding : Async Unit := do
    socket.bind (← socketAddress server.host server.port)
    socket.listen 128
  let obstacle? :=
    match ← binding.block.toBaseIO with
    | .ok () => none
    | .error error => some (hostError error)
  let network := { surroundings.network with obstacle? := fun _ => obstacle? }
  match
    Program.listening server plan.timed opened
      { surroundings with network := network } with
  | .error complaint =>
      finish surroundings.tree (.failed opened.warning complaint opened.tree)
  | .ok begun => do
      carryOut surroundings.tree begun.tree
      IO.print begun.output
      (← IO.getStdout).flush
      IO.eprint begun.notices
      takeTurns plan begun.plan opened.journal socket
      return 0

/-- The paths that a plan names. -/
def pathsOf (plan : Plan) : List Path :=
  plan.logFile.toList ++
    match plan.task with
    | .serve server => [server.directory]
    | .send client => [client.file]

def run (commandLine : List Bytes) : IO UInt32 := do
  let configuration :=
    match CommandLine.parse commandLine with
    | .ok arguments => arguments.configuration.toList
    | .error _ => []
  let network := networkOf (.answered 0 (.ok (taking none)))
  let first ← observedAll configuration
  match Program.planned first commandLine with
  | .error _ => finish first (Program.run commandLine ⟨first, network, ← stamp⟩)
  | .ok plan =>
      let tree ← observedAll (configuration ++ pathsOf plan)
      let surroundings : Program.Surroundings := ⟨tree, network, ← stamp⟩
      match plan.task with
      | .serve serverPlan => server plan serverPlan surroundings
      | .send clientPlan => client commandLine clientPlan surroundings

end Main

end FileTransfer

/-- Run with the arguments of the process. -/
def main (arguments : List String) : IO UInt32 :=
  FileTransfer.Main.run (arguments.map FileTransfer.Bytes.ofText)
