import FileTransfer.Plan
import FileTransfer.Transfer.Progress
import FileTransfer.Transfer.TimedSend

namespace FileTransfer

/-!
# Delivering one file

A client dials once, sends its file, and closes the connection for writing.
Its journal sees the start of a session that got a connection, and then exactly
one verdict, which is also the outcome.
-/

/-- What a client did beside sending: whom it dialed, and what it told its journal. -/
structure Trail where
  dialed : List (String × Nat)
  /-- What the journal saw, in order. -/
  events : List Event

namespace Trail

/-- The trail of a client that has not done anything. -/
def empty : Trail := ⟨[], []⟩

def dial
    {σ : Type}
    (dialer : String → Nat → Except Fault σ)
    (host : String)
    (port : Nat)
    (trail : Trail) :
    Except Fault σ × Trail :=
  (dialer host port, { trail with dialed := trail.dialed ++ [(host, port)] })

/-- Tell the journal what happened. -/
def tell (event : Event) (trail : Trail) : Trail :=
  { trail with events := trail.events ++ [event] }

end Trail

/-- A delivery after its end. -/
structure Delivery (σ : Type) extends Trail where
  outcome : Except Fault Receipt
  connection : Option σ

namespace ClientPlan

/-- How the content of a delivery is moved. -/
def options (plan : ClientPlan) : TransferOptions :=
  ⟨plan.chunkSize, plan.digesting⟩

/-- The milliseconds that connecting may take. -/
def connectAllowance (plan : ClientPlan) : Nat :=
  (plan.connectTimeout.map milliseconds).getD Limits.connectDeadline

end ClientPlan

/-- A delivery by given ways of sending and of closing a connection. -/
def Delivery.run
    {σ : Type}
    (plan : ClientPlan)
    (dialer : String → Nat → Except Fault σ)
    (send : σ → Except Fault Receipt × σ)
    (finish : σ → Except HostError Unit × σ) :
    Delivery σ :=
  match Trail.empty.dial dialer plan.host plan.port with
  | (.error fault, trail) => ⟨trail, .error fault, none⟩
  | (.ok connection, trail) =>
      let begun := trail.tell (.start plan.address)
      match send connection with
      | (.ok receipt, sent) =>
          match finish sent with
          | (.ok (), last) =>
              ⟨begun.tell (.done plan.address receipt), .ok receipt, some last⟩
          | (.error error, last) =>
              let fault := Fault.host "shutdown" error
              ⟨begun.tell (.error plan.address fault.message), .error fault, some last⟩
      | (.error fault, last) =>
          ⟨begun.tell (.error plan.address fault.message), .error fault, some last⟩

/-- Send the file of a plan, behind a progress bar if the plan asks for one. -/
def ClientPlan.send
    {β : Type}
    (plan : ClientPlan)
    (bar : ProgressBar β)
    (tree : FileTree)
    (outlet : Outlet) :
    Except Fault Receipt × Outlet :=
  if plan.progress then bar.sendFile plan.options tree plan.file outlet
  else sendFile plan.options tree plan.file outlet

/-- Deliver a file; a plan can ask for a progress bar. -/
def deliverShowing
    {β : Type}
    (bar : ProgressBar β)
    (plan : ClientPlan)
    (tree : FileTree)
    (dialer : String → Nat → Except Fault Outlet) :
    Delivery Outlet :=
  Delivery.run plan dialer (plan.send bar tree) Outlet.finish

/-- Deliver a file with a bar that counts. -/
def deliver
    (plan : ClientPlan)
    (tree : FileTree)
    (dialer : String → Nat → Except Fault Outlet) :
    Delivery Outlet :=
  deliverShowing .counting plan tree dialer

/-- Deliver a file with deadlines. -/
def deliverTimed
    (plan : ClientPlan)
    (tree : FileTree)
    (dialer : String → Nat → Except Fault TimedOutlet) :
    Delivery TimedOutlet :=
  Delivery.run plan dialer (sendFileTimed plan.options tree plan.file)
    TimedOutlet.finish

end FileTransfer
