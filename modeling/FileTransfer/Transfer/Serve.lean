import FileTransfer.Plan
import FileTransfer.Transfer.TimedReceive

namespace FileTransfer

/-!
# Serving sessions one after another

A server accepts one connection at a time and runs its session to the end.  A
session that fails is recorded and does not end the server; neither does a
failure to accept, which is recorded for the peer `-`.
-/

/-- What waiting for a peer leads to. -/
inductive Arrival (σ : Type) where
  | connection (peer : String) (inlet : σ)
  | failure (fault : Fault)
  deriving Repr

/-- One turn of a server, after its end. -/
structure Turn where
  /-- The end of the session, unless there was none. -/
  outcome : Except Fault (Except Abort Receipt)
  /-- What the journal saw, in order. -/
  events : List Event
  /-- What the console shows, line by line. -/
  notices : List String
  /-- The files after the turn. -/
  tree : FileTree

namespace ServerPlan

/-- How the content of a session is moved. -/
def options (plan : ServerPlan) : TransferOptions :=
  ⟨plan.chunkSize, plan.digesting⟩

/-- The milliseconds that replace the default read deadlines, if any. -/
def readDeadline (plan : ServerPlan) : Option Nat :=
  plan.readTimeout.map milliseconds

end ServerPlan

/-- What the console shows of a digest. -/
def digestNotice (receipt : Receipt) : List String :=
  match receipt.digest with
  | some digest => [s!"  blake3 {digest}"]
  | none => []

def receivedNotice (receipt : Receipt) : String :=
  s!"received {receipt.name} ({receipt.bytes} bytes)"

/-- The notice of a received file that also tells where it is and how fast it came. -/
def verboseNotice (receipt : Receipt) : String :=
  let rate := Decimal.fixed 1 receipt.throughput
  s!"received {Path.display receipt.path} ({receipt.bytes} bytes, {rate} MB/s)"

/-- What the console shows after a session of the blocking server. -/
def sessionNotices
    (verbose : Bool)
    (peer : String) :
    Except Abort Receipt → List String
  | .ok receipt =>
      (if verbose then verboseNotice receipt else receivedNotice receipt) ::
        (digestNotice receipt ++
          (if verbose then
            [s!"session from {peer} {Phase.done.description}"]
          else []))
  | .error aborted => [s!"session from {peer} {aborted.message}"]

/-- What the console shows after a session of the server with deadlines. -/
def timedSessionNotices
    (peer : String) :
    Except Abort Receipt → List String
  | .ok receipt => [receivedNotice receipt]
  | .error aborted => [s!"session from {peer} {aborted.message}"]

/-- What the journal sees of a session. -/
def sessionEvents (peer : String) : Except Abort Receipt → List Event
  | .ok receipt => [.start peer, .done peer receipt]
  | .error aborted => [.start peer, .error peer aborted.message]

namespace Turn

/-- A turn by given ways of receiving a file and of showing how it ended. -/
def take
    {σ : Type}
    (receive : FileTree → σ → Reception × σ)
    (notices : String → Except Abort Receipt → List String)
    (tree : FileTree) :
    Arrival σ → Turn
  | .failure fault => ⟨.error fault, [], [], tree⟩
  | .connection peer inlet =>
      match receive tree inlet with
      | (reception, _) =>
          { outcome := .ok reception.outcome
            events := sessionEvents peer reception.outcome
            notices :=
              s!"client connected: {peer}" :: notices peer reception.outcome
            tree := reception.tree }

/-- A turn of a server that goes on, which records a failure to accept. -/
def carryOn (turn : Turn) : Turn :=
  match turn.outcome with
  | .ok _ => turn
  | .error fault =>
      { turn with
        events := turn.events ++ [.error "-" fault.message]
        notices := turn.notices ++ [s!"accept error: {fault.message}"] }

end Turn

/-- One turn of the server that waits as long as it takes. -/
def acceptOne (plan : ServerPlan) (tree : FileTree) : Arrival Inlet → Turn :=
  Turn.take (receiveFile plan.options plan.directory)
    (sessionNotices plan.verbose) tree

/-- One turn of the server with deadlines. -/
def acceptOneTimed
    (plan : ServerPlan)
    (tree : FileTree) :
    Arrival TimedInlet → Turn :=
  Turn.take (receiveFileTimed plan.options plan.readDeadline plan.directory)
    timedSessionNotices tree

/-- A number of turns, each on the files that the one before it left. -/
def turns
    {σ : Type}
    (turn : FileTree → Arrival σ → Turn) :
    FileTree → List (Arrival σ) → List Turn
  | _, [] => []
  | tree, arrival :: more =>
      let now := turn tree arrival
      now :: turns turn now.tree more

/-- The files after some turns. -/
def finalTree (tree : FileTree) (done : List Turn) : FileTree :=
  match done.getLast? with
  | none => tree
  | some turn => turn.tree

/-- The turns of a server that never stops serving. -/
def serve
    (plan : ServerPlan)
    (tree : FileTree)
    (arrivals : List (Arrival Inlet)) :
    List Turn :=
  turns (fun tree arrival => (acceptOne plan tree arrival).carryOn) tree arrivals

end FileTransfer
