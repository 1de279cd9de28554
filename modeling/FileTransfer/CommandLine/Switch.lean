import FileTransfer.Bytes

namespace FileTransfer

/-!
# The switches of the command line

Every argument belongs to a switch.  A switch has a long name, sometimes a
letter, and either takes one value or none.  A few switches exclude each other,
which `rivals` tells in both directions: `mem_rivals_comm`.
-/

/-- What can be asked for on the command line. -/
inductive Switch where
  | server
  | client
  | host
  | port
  | configuration
  | logFile
  | logFormat
  | timeout
  | digest
  | progress
  | timed
  | verbose
  | help
  | version
  deriving Repr, DecidableEq

namespace Switch

/-- The switches in the order in which they are explained. -/
def all : List Switch :=
  [server, client, host, port, configuration, logFile, logFormat, timeout,
    digest, progress, timed, verbose, help, version]

/-- Every switch is explained. -/
theorem mem_all (switch : Switch) : switch ∈ all := by
  cases switch <;> decide

/-- The name that follows two dashes. -/
def long : Switch → String
  | server => "server"
  | client => "client"
  | host => "ip"
  | port => "port"
  | configuration => "config"
  | logFile => "log-file"
  | logFormat => "log-format"
  | timeout => "timeout"
  | digest => "digest"
  | progress => "progress"
  | timed => "async"
  | verbose => "verbose"
  | help => "help"
  | version => "version"

def letter? : Switch → Option Char
  | server => some 's'
  | client => some 'c'
  | host => some 'i'
  | port => some 'p'
  | verbose => some 'v'
  | help => some 'h'
  | version => some 'V'
  | _ => none

/-- What the value of a switch is called, if it takes one. -/
def placeholder? : Switch → Option String
  | server => some "DIR"
  | client => some "FILE"
  | host => some "IP"
  | port => some "PORT"
  | configuration => some "FILE"
  | logFile => some "FILE"
  | logFormat => some "LOG_FORMAT"
  | timeout => some "SECS"
  | _ => none

def takesValue (switch : Switch) : Bool :=
  switch.placeholder?.isSome

/-- How a switch is written in a message. -/
def shown (switch : Switch) : String :=
  match switch.placeholder? with
  | some placeholder => s!"--{switch.long} <{placeholder}>"
  | none => s!"--{switch.long}"

/-- The switch with a long name. -/
def ofLong? (name : Bytes) : Option Switch :=
  all.find? fun switch => Bytes.ofText switch.long = name

/-- The switch whose letter is a given octet. -/
def ofLetter? (octet : UInt8) : Option Switch :=
  all.find? fun switch => switch.letter?.map Char.toUInt8 = some octet

/-- The switches that cannot be used together with a switch. -/
def rivals : Switch → List Switch
  | server => [client, host, progress]
  | client => [server]
  | host => [server]
  | progress => [server]
  | _ => []

/-- Of two switches each excludes the other, or neither does. -/
theorem mem_rivals_comm (first second : Switch) :
    first ∈ second.rivals ↔ second ∈ first.rivals := by
  cases first <;> cases second <;> decide

end Switch

end FileTransfer
