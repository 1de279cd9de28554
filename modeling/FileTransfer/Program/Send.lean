import FileTransfer.Program.Surroundings
import FileTransfer.Transfer.Deliver

namespace FileTransfer.Program

/-!
# A run that sends

A client dials, delivers its file, and tells how that ended.  Its journal has
an entry for the connection before the file is read.
-/

/-- What a client tells about a file that it sent. -/
def sentNotice (receipt : Receipt) : String :=
  let seconds := Decimal.fixed 2 receipt.elapsed.inSeconds
  s!"sent {receipt.name} ({receipt.bytes} bytes in {seconds}s)\n" ++
    lines (digestNotice receipt)

/-- What is said about a delivery that failed. -/
def deliveryComplaint (plan : ClientPlan) (fault : Fault) : Complaint :=
  .ofFault s!"send {Path.display plan.file} to {plan.address}" fault

def dial
    (plan : ClientPlan)
    (network : Network)
    (host : String)
    (port : Nat) :
    Except Fault Outlet :=
  ((network.attempt host port).dial
    (plan.connectTimeout.map (· * 1000))).map TimedOutlet.untimed

/-- What a client with deadlines gets for its dialing. -/
def dialTimed
    (plan : ClientPlan)
    (network : Network)
    (host : String)
    (port : Nat) :
    Except Fault TimedOutlet :=
  (network.attempt host port).dialTimed plan.connectAllowance

/-- The end of a client, by a given way of delivering and what it sent. -/
def delivered
    {σ : Type}
    (plan : ClientPlan)
    (opened : Opened)
    (stamp : String)
    (accepted : σ → Bytes)
    (dialed : Except Fault σ)
    (delivery : FileTree → Delivery σ) :
    Ending :=
  match dialed with
  | .error fault =>
      .failed opened.warning (deliveryComplaint plan fault) opened.tree
  | .ok _ =>
      let begun :=
        recorded stamp opened.journal [.start plan.address] opened.tree
      let done := delivery begun
      let after := recorded stamp opened.journal (done.events.drop 1) begun
      let wire := (done.connection.map accepted).getD []
      match done.outcome with
      | .error fault =>
          { Ending.failed opened.warning (deliveryComplaint plan fault) after with
            wire := wire }
      | .ok receipt => ⟨0, sentNotice receipt, opened.warning, wire, after⟩

/-- The end of a client. -/
def send
    (plan : ClientPlan)
    (timed : Bool)
    (opened : Opened)
    (surroundings : Surroundings) :
    Ending :=
  let network := surroundings.network
  if timed then
    delivered plan opened surroundings.stamp TimedOutlet.accepted
      (dialTimed plan network plan.host plan.port)
      (deliverTimed plan · (dialTimed plan network))
  else
    delivered plan opened surroundings.stamp Outlet.accepted
      (dial plan network plan.host plan.port)
      (deliver plan · (dial plan network))

end FileTransfer.Program
