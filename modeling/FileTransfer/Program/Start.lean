import FileTransfer.Configuration.Read
import FileTransfer.Program.Ending

namespace FileTransfer.Program

/-!
# How a run starts

A run first settles what it is to do, from its command line and its
configuration, and then opens its journal.  A journal that cannot be opened is
only warned about; a server also needs a directory that exists.
-/

/-- Why a run does not come to do anything. -/
inductive Obstacle where
  | refused (refusal : CommandLine.Refusal)
  | failed (complaint : Complaint)
  deriving Repr, DecidableEq

/-- What is said about a configuration that was not loaded. -/
def loadComplaint (path : Path) (failure : Configuration.LoadFailure) : Complaint :=
  ⟨failure.context path, [failure.cause]⟩

/-- The configuration that arguments name. -/
def configured
    (tree : FileTree)
    (arguments : Arguments) :
    Except Complaint Configuration :=
  match arguments.configuration with
  | none => .ok .empty
  | some path => (Configuration.load tree path).mapError (loadComplaint path)

/-- What a run is to do. -/
def planned (tree : FileTree) (commandLine : List Bytes) : Except Obstacle Plan :=
  match CommandLine.parse commandLine with
  | .error refusal => .error (.refused refusal)
  | .ok arguments =>
      match configured tree arguments with
      | .error complaint => .error (.failed complaint)
      | .ok configuration =>
          match Plan.resolve? arguments configuration with
          | none => .error (.failed ⟨Plan.modeMessage, []⟩)
          | some plan => .ok plan

/-- A journal, the files after it was opened, and what was warned about. -/
structure Opened where
  journal : Journal
  tree : FileTree
  warning : String

def journalWarning (path : Path) (error : HostError) : String :=
  s!"warning: cannot open log file {Path.display path}: {error.message}\n"

/-- Open the journal of a plan, or do without one. -/
def opened (plan : Plan) (tree : FileTree) : Opened :=
  match plan.logFile with
  | none => ⟨.silent, tree, ""⟩
  | some path =>
      match Journal.openAt plan.logFormat path tree with
      | (.ok journal, after) => ⟨journal, after, ""⟩
      | (.error error, after) => ⟨.silent, after, journalWarning path error⟩

def outputDirectory (tree : FileTree) (path : Path) : Except Complaint Path :=
  let shown := Path.display path
  if tree.isPresent path = false then
    .error ⟨s!"output directory does not exist: {shown}", []⟩
  else if tree.isDirectory path = false then
    .error ⟨s!"output path is not a directory: {shown}", []⟩
  else
    (tree.canonical path).mapError fun error =>
      ⟨s!"failed to canonicalize output directory: {shown}", [error.message]⟩

end FileTransfer.Program
