import FileTransfer.Journal.Basic
import FileTransfer.Limits

namespace FileTransfer

/-!
# Plans

What a run is to do comes from its arguments, from a configuration file, and
from defaults, in this order of precedence.  `Plan.resolve` merges them into
one value with which both transports work.
-/

/-- What a server needs to know. -/
structure ServerPlan where
  directory : Path
  host : String
  port : Nat
  /-- The seconds that one read may take, if they are limited. -/
  readTimeout : Option Nat
  chunkSize : Nat
  digesting : Bool
  verbose : Bool
  deriving Repr, DecidableEq

/-- What a client needs to know. -/
structure ClientPlan where
  file : Path
  host : String
  port : Nat
  /-- The seconds that connecting may take, if they are limited. -/
  connectTimeout : Option Nat
  chunkSize : Nat
  digesting : Bool
  progress : Bool
  deriving Repr, DecidableEq

/-- The address of every interface of the host. -/
def anyHost : String := "0.0.0.0"

def ServerPlan.address (plan : ServerPlan) : String :=
  s!"{plan.host}:{plan.port}"

def ClientPlan.address (plan : ClientPlan) : String :=
  s!"{plan.host}:{plan.port}"

/-- A server for a directory with everything else left open. -/
def ServerPlan.standard (directory : Path) : ServerPlan where
  directory := directory
  host := anyHost
  port := Limits.defaultPort
  readTimeout := none
  chunkSize := Limits.defaultChunkSize
  digesting := false
  verbose := false

/-- A client for a file with everything else left open. -/
def ClientPlan.standard (file : Path) : ClientPlan where
  file := file
  host := Limits.defaultHost
  port := Limits.defaultPort
  connectTimeout := none
  chunkSize := Limits.defaultChunkSize
  digesting := false
  progress := false

/-- The milliseconds of a timeout in seconds, as a word of sixty-four bits. -/
def milliseconds (seconds : Nat) : Nat :=
  seconds * 1000 % (Limits.maxWord + 1)

/-- What a configuration file can set. -/
structure Configuration where
  port : Option Nat
  host : Option String
  readTimeout : Option Nat
  logFile : Option Path
  logFormat : Option JournalFormat
  digesting : Bool
  chunkSize : Option Nat
  deriving Repr, DecidableEq

namespace Configuration

/-- The configuration that sets nothing. -/
def empty : Configuration where
  port := none
  host := none
  readTimeout := none
  logFile := none
  logFormat := none
  digesting := false
  chunkSize := none

/-- The chunk size that a configuration asks for, within the supported range. -/
def effectiveChunkSize (configuration : Configuration) : Nat :=
  match configuration.chunkSize with
  | some size => Limits.clampChunkSize size
  | none => Limits.defaultChunkSize

end Configuration

/-- What the arguments of a run ask for. -/
structure Arguments where
  server : Option Path
  client : Option Path
  host : Option String
  port : Option Nat
  configuration : Option Path
  logFile : Option Path
  logFormat : Option JournalFormat
  timeout : Option Nat
  digesting : Bool
  progress : Bool
  timed : Bool
  verbose : Bool
  deriving Repr, DecidableEq

/-- Arguments that ask for nothing. -/
def Arguments.empty : Arguments where
  server := none
  client := none
  host := none
  port := none
  configuration := none
  logFile := none
  logFormat := none
  timeout := none
  digesting := false
  progress := false
  timed := false
  verbose := false

/-- What a run does. -/
inductive Task where
  | serve (plan : ServerPlan)
  | send (plan : ClientPlan)
  deriving Repr, DecidableEq

/-- A run with all choices made. -/
structure Plan where
  task : Task
  logFile : Option Path
  logFormat : JournalFormat
  /-- Whether the transport with deadlines is used. -/
  timed : Bool
  deriving Repr, DecidableEq

namespace Plan

/-- The text of the refusal to run without a mode, or with two. -/
def modeMessage : String :=
  "exactly one of --server or --client is required"

def task?
    (arguments : Arguments)
    (configuration : Configuration) :
    Option Task :=
  let port := (arguments.port.or configuration.port).getD Limits.defaultPort
  let timeout := arguments.timeout.or configuration.readTimeout
  let digesting := arguments.digesting || configuration.digesting
  match arguments.server, arguments.client with
  | some directory, none =>
      some (.serve { ServerPlan.standard directory with
        port := port
        readTimeout := timeout
        chunkSize := configuration.effectiveChunkSize
        digesting := digesting
        verbose := arguments.verbose })
  | none, some file =>
      some (.send { ClientPlan.standard file with
        host :=
          (arguments.host.or configuration.host).getD Limits.defaultHost
        port := port
        connectTimeout := timeout
        chunkSize := configuration.effectiveChunkSize
        digesting := digesting
        progress := arguments.progress })
  | _, _ => none

/-- Merge arguments over a configuration. -/
def resolve?
    (arguments : Arguments)
    (configuration : Configuration) :
    Option Plan :=
  (task? arguments configuration).map fun task =>
    { task := task
      logFile := arguments.logFile.or configuration.logFile
      logFormat := (arguments.logFormat.or configuration.logFormat).getD .text
      timed := arguments.timed }

end Plan

end FileTransfer
