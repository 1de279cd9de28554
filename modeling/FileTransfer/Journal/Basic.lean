import FileTransfer.FileTree.Open
import FileTransfer.Journal.Event

namespace FileTransfer

/-!
# The journal

A journal appends an entry to its file for every event.  Opening it makes the
directories that its path names; what cannot be written is lost without notice.
-/

/-- The two forms of entries. -/
inductive JournalFormat where
  | text
  | jsonl
  deriving Repr, DecidableEq

namespace JournalFormat

/-- What a form is called in a configuration. -/
def word : JournalFormat → String
  | text => "text"
  | jsonl => "jsonl"

/-- The form that a word names, if it names one. -/
def ofWord? (word : String) : Option JournalFormat :=
  if word = "text" then some text
  else if word = "jsonl" then some jsonl
  else none

def entry (format : JournalFormat) (stamp : String) (event : Event) : String :=
  match format with
  | text => event.line stamp
  | jsonl => event.record stamp

end JournalFormat

/-- Where events are recorded, if they are at all. -/
inductive Journal where
  | silent
  | writing (format : JournalFormat) (sink : Sink)
  deriving Repr, DecidableEq

namespace Journal

/--
Open the journal at a path, and make the directories that lead to it.  They
remain when the journal cannot be opened.
-/
def openAt
    (format : JournalFormat)
    (path : Path)
    (tree : FileTree) :
    Except HostError Journal × FileTree :=
  let prepared :=
    match Path.ancestors path with
    | [] => tree
    | nearest :: outer => (tree.makeDirectories (nearest :: outer)).2
  match prepared.openAppend path with
  | .ok (sink, opened) => (.ok (.writing format sink), opened)
  | .error error => (.error error, prepared)

/-- The files after an event was recorded. -/
def record
    (stamp : String)
    (event : Event)
    (journal : Journal)
    (tree : FileTree) :
    FileTree :=
  match journal with
  | .silent => tree
  | .writing format sink =>
      tree.append sink (Bytes.ofText (format.entry stamp event))

/-- The files after some events were recorded in order, each with its time. -/
def recordAll
    (entries : List (String × Event))
    (journal : Journal)
    (tree : FileTree) :
    FileTree :=
  entries.foldl (fun tree (stamp, event) => journal.record stamp event tree) tree

end Journal

end FileTransfer
