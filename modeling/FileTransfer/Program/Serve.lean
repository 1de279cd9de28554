import FileTransfer.Program.Surroundings

namespace FileTransfer.Program

/-!
# A run that serves

A server finds its directory, listens, and takes one turn after another.  It
goes on until no more peers come and it is interrupted.
-/

/-- A turn whose start is recorded before it, and everything else after it. -/
def recordedTurn
    {σ : Type}
    (stamp : String)
    (journal : Journal)
    (turn : FileTree → Arrival σ → Turn)
    (tree : FileTree)
    (arrival : Arrival σ) :
    Turn :=
  let opening : List Event :=
    match arrival with
    | .connection peer _ => [.start peer]
    | .failure _ => []
  let done := turn (recorded stamp journal opening tree) arrival
  { done with
    tree :=
      recorded stamp journal (done.events.drop opening.length) done.tree }

def turn
    (plan : ServerPlan)
    (timed : Bool)
    (stamp : String)
    (journal : Journal)
    (tree : FileTree)
    (arrival : Arrival TimedInlet) :
    Turn :=
  if timed then
    recordedTurn stamp journal
      (fun tree arrival => (acceptOneTimed plan tree arrival).carryOn)
      tree arrival
  else
    recordedTurn stamp journal
      (fun tree arrival => (acceptOne plan tree arrival).carryOn)
      tree (arrival.accepted (plan.readTimeout.map (· * 1000)))

/-- What the server that blocks prints when it listens. -/
def listeningOutput (plan : ServerPlan) : String :=
  s!"listening on {Path.display plan.directory} port {plan.port}...\n" ++
    match plan.readTimeout with
    | some seconds => s!"  read timeout: {seconds}s\n"
    | none => ""

/-- What the server with deadlines prints when it listens. -/
def listeningNotice (plan : ServerPlan) : String :=
  s!"hf async server listening on {plan.address}" ++
    s!" dir={Path.display plan.directory}\n"

/-- What is printed when the user interrupts a server. -/
def interruptNotice : String :=
  "\nInterrupted. Exiting (Ctrl-C)...\n"

/-- A server that listens, and what it printed at that. -/
structure Listening where
  plan : ServerPlan
  output : String
  notices : String
  tree : FileTree

/-- What is said about an address that cannot be listened on. -/
def listenComplaint
    (plan : ServerPlan)
    (timed : Bool)
    (error : HostError) :
    Complaint :=
  let headline := s!"bind {plan.address}"
  if timed then ⟨headline, [error.message]⟩
  else .ofFault headline (.host "bind" error)

/-- Find the directory of a server and listen on its address. -/
def listening
    (plan : ServerPlan)
    (timed : Bool)
    (opened : Opened)
    (surroundings : Surroundings) :
    Except Complaint Listening :=
  match outputDirectory opened.tree plan.directory with
  | .error complaint => .error complaint
  | .ok directory =>
      match surroundings.network.listen plan.address with
      | .error error => .error (listenComplaint plan timed error)
      | .ok _ =>
          let settled := { plan with directory := directory }
          .ok
            { plan := settled
              output := if timed then "" else listeningOutput settled
              notices :=
                opened.warning ++ if timed then listeningNotice settled else ""
              tree :=
                recorded surroundings.stamp opened.journal
                  [.listening plan.address directory] opened.tree }

/-- The end of a server. -/
def serve
    (plan : ServerPlan)
    (timed : Bool)
    (opened : Opened)
    (surroundings : Surroundings) :
    Ending :=
  match listening plan timed opened surroundings with
  | .error complaint => .failed opened.warning complaint opened.tree
  | .ok begun =>
      let done :=
        turns (turn begun.plan timed surroundings.stamp opened.journal)
          begun.tree surroundings.network.arrivals
      { status := Ending.interruption
        output := begun.output
        notices :=
          begun.notices ++ lines (done.flatMap Turn.notices) ++ interruptNotice
        wire := []
        tree := finalTree begun.tree done }

end FileTransfer.Program
