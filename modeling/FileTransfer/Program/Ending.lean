import FileTransfer.CommandLine.Parse
import FileTransfer.Fault
import FileTransfer.FileTree.Basic

namespace FileTransfer

/-!
# How a run of the program ends

A run leaves a status, what it printed on its two consoles, and the files.  A
run that fails tells what was going on and why, the nearest cause first.
-/

/-- Why a run failed. -/
structure Complaint where
  /-- What was going on. -/
  headline : String
  causes : List String
  deriving Repr, DecidableEq

namespace Complaint

/-- A complaint about a fault. -/
def ofFault (headline : String) (fault : Fault) : Complaint where
  headline := headline
  causes := fault.message :: (fault.source?.map HostError.message).toList

/-- The lines of causes with numbers, from a first one on. -/
def numbered (first : Nat) : List String → String
  | [] => ""
  | cause :: rest => s!"    {first}: {cause}\n" ++ numbered (first + 1) rest

/-- The lines of the causes; one that is alone has no number. -/
def causeLines : List String → String
  | [] => ""
  | [cause] => s!"\nCaused by:\n    {cause}\n"
  | causes => "\nCaused by:\n" ++ numbered 0 causes

def text (complaint : Complaint) : String :=
  s!"Error: {complaint.headline}\n" ++ causeLines complaint.causes

end Complaint

/-- What a run leaves. -/
structure Ending where
  status : Nat
  /-- What was printed on the console. -/
  output : String
  /-- What was printed on the console for errors. -/
  notices : String
  /-- The octets that the peer of a client took. -/
  wire : Bytes
  tree : FileTree

namespace Ending

/-- The status of a run that failed. -/
def failure : Nat := 1

/-- The status of a run that the user interrupted. -/
def interruption : Nat := 130

/-- The end of a run whose command line was refused. -/
def refused (refusal : CommandLine.Refusal) (tree : FileTree) : Ending where
  status := refusal.status
  output := if refusal.status = 0 then refusal.message else ""
  notices := if refusal.status = 0 then "" else s!"error: {refusal.message}\n"
  wire := []
  tree := tree

/-- The end of a run that failed after some notices. -/
def failed (notices : String) (complaint : Complaint) (tree : FileTree) : Ending where
  status := failure
  output := ""
  notices := notices ++ complaint.text
  wire := []
  tree := tree

end Ending

end FileTransfer
