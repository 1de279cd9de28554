import FileTransfer.Network.Basic
import FileTransfer.Program.Start

namespace FileTransfer.Program

/-!
# What a run finds around it

The files, the network and the time are all that a run depends on besides its
command line.
-/

/-- What a run finds around it. -/
structure Surroundings where
  tree : FileTree
  network : Network
  /-- How the time of an event is written. -/
  stamp : String

def recorded
    (stamp : String)
    (journal : Journal)
    (events : List Event)
    (tree : FileTree) :
    FileTree :=
  journal.recordAll (events.map (stamp, ·)) tree

def lines (notices : List String) : String :=
  String.join (notices.map (· ++ "\n"))

end FileTransfer.Program
