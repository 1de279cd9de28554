import FileTransfer.Network.Address
import FileTransfer.Network.Attempt
import FileTransfer.Stream.TimedOutlet
import FileTransfer.Transfer.Serve

namespace FileTransfer

/-!
# The network

A program sees of the network what becomes of its attempts to connect, whether
an address can be listened on, and which peers come.  A server that blocks can
limit how long one read waits; the limit is set when a connection is accepted,
and a limit of no time at all makes accepting fail.
-/

/-- The network as one program sees it. -/
structure Network where
  /-- What becomes of an attempt to connect to a host and a port. -/
  attempt : String → Nat → Attempt TimedOutlet
  /-- Why an address cannot be listened on, if it cannot. -/
  obstacle? : Address → Option HostError
  /-- The peers that come, in order. -/
  arrivals : List (Arrival TimedInlet)

namespace Network

def listen (network : Network) (text : String) : Except HostError Address :=
  match Address.ofText text with
  | .error error => .error error
  | .ok address =>
      match network.obstacle? address with
      | some error => .error error
      | none => .ok address

end Network

/-- The failure of a read that waited for too long. -/
def waitedTooLong : HostError :=
  .ofErrno .wouldBlock

/-- A script for a reader that waits at most `limit` milliseconds at a time. -/
def impatient
    (limit waited : Nat) :
    List (Timed Inlet.Step) → List Inlet.Step
  | [] => []
  | .now step :: rest => step :: impatient limit 0 rest
  | .delay milliseconds :: rest =>
      if limit < waited + milliseconds then [.failure waitedTooLong]
      else impatient limit (waited + milliseconds) rest
  | .stall :: _ => [.failure waitedTooLong]

/-- A stream as a reader sees it that waits at most so many milliseconds. -/
def TimedInlet.blocking (limit : Option Nat) (inlet : TimedInlet) : Inlet :=
  match limit with
  | none => inlet.untimed
  | some most => { inlet.untimed with steps := impatient most 0 inlet.steps }

/-- What a blocking server accepts, when reads are limited to some milliseconds. -/
def Arrival.accepted
    (limit : Option Nat) :
    Arrival TimedInlet → Arrival Inlet
  | .failure fault => .failure fault
  | .connection peer inlet =>
      if limit = some 0 then
        .failure (.host "set read timeout" Attempt.zeroDuration)
      else .connection peer (inlet.blocking limit)

end FileTransfer
