import FileTransfer.CommandLine.Help
import FileTransfer.CommandLine.Occurrence
import FileTransfer.Plan
import FileTransfer.Text.Natural

namespace FileTransfer.CommandLine

/-!
# From a command line to arguments

The switches of a command line are settled one after another: each needs its
value, may be used once, and has a value that fits.  Only then are switches
that exclude each other refused, and last a command line without a mode.
-/

/-- A text value. -/
def textual (bytes : Bytes) : Except Refusal String :=
  match Bytes.text? bytes with
  | some text => .ok text
  | none => .error .notText

/-- A number from one to `most`. -/
def positive (switch : Switch) (most : Nat) (bytes : Bytes) : Except Refusal Nat :=
  match textual bytes with
  | .error refusal => .error refusal
  | .ok text =>
      match Text.natural? text with
      | some value =>
          if 1 ≤ value ∧ value ≤ most then .ok value
          else .error (.invalid switch text)
      | none => .error (.invalid switch text)

/-- A number that was read lies in its range. -/
theorem positive_bounds
    {switch : Switch}
    {most value : Nat}
    {bytes : Bytes}
    (read : positive switch most bytes = .ok value) :
    1 ≤ value ∧ value ≤ most := by
  unfold positive at read
  split at read
  · cases read
  · split at read
    · split at read
      · next fits => cases read; exact fits
      · cases read
    · cases read

def path (switch : Switch) (bytes : Bytes) : Except Refusal Path :=
  if bytes = [] then .error (.unfit switch "") else .ok bytes

def form (switch : Switch) (bytes : Bytes) : Except Refusal JournalFormat :=
  match (Bytes.text? bytes).bind JournalFormat.ofWord? with
  | some format => .ok format
  | none => .error (.unfit switch (Text.lossy bytes))

/-- Arguments with one more switch settled, of which the value is given. -/
def withSwitch
    (arguments : Arguments)
    (switch : Switch)
    (value : Bytes) :
    Except Refusal Arguments :=
  match switch with
  | .server =>
      (path switch value).map fun directory =>
        { arguments with server := some directory }
  | .client =>
      (path switch value).map fun file => { arguments with client := some file }
  | .host =>
      (textual value).map fun host => { arguments with host := some host }
  | .port =>
      (positive switch Limits.maxPort value).map fun port =>
        { arguments with port := some port }
  | .configuration =>
      (path switch value).map fun file =>
        { arguments with configuration := some file }
  | .logFile =>
      (path switch value).map fun file => { arguments with logFile := some file }
  | .logFormat =>
      (form switch value).map fun format =>
        { arguments with logFormat := some format }
  | .timeout =>
      (positive switch Limits.maxWord value).map fun seconds =>
        { arguments with timeout := some seconds }
  | .digest => .ok { arguments with digesting := true }
  | .progress => .ok { arguments with progress := true }
  | .timed => .ok { arguments with timed := true }
  | .verbose => .ok { arguments with verbose := true }
  | .help => .error .help
  | .version => .error .version

def settle
    (used : List Switch)
    (arguments : Arguments) :
    List Occurrence → Except Refusal Arguments
  | [] => .ok arguments
  | ⟨switch, value⟩ :: rest =>
      if switch.takesValue ∧ value = none then .error (.unfit switch "")
      else if switch ∈ used then .error (.conflict switch [switch])
      else
        match withSwitch arguments switch (value.getD []) with
        | .error refusal => .error refusal
        | .ok extended => settle (used ++ [switch]) extended rest

/-- The first switch that others exclude, if there is one. -/
def conflict? (used : List Switch) : Option Refusal :=
  used.findSome? fun switch =>
    match used.filter (· ∈ switch.rivals) with
    | [] => none
    | others => some (.conflict switch others)

/-- The arguments that a command line gives. -/
def parse (commandLine : List Bytes) : Except Refusal Arguments :=
  let reading := Reading.ofArguments commandLine
  match settle [] .empty reading.occurrences with
  | .error refusal => .error refusal
  | .ok arguments =>
      match reading.stop.or (conflict? reading.switches) with
      | some refusal => .error refusal
      | none =>
          if arguments.server = none ∧ arguments.client = none then
            .error .modeMissing
          else .ok arguments

/-- What is said about a command line that is refused. -/
def Refusal.message : Refusal → String
  | .help => helpText
  | .version => versionText
  | .unknown argument => s!"unexpected argument {Text.quoted argument}"
  | .surplus switch value =>
      s!"unexpected value {Text.quoted value} for {switch.shown}"
  | .unfit switch value =>
      s!"no fitting value for {switch.shown}: {Text.quoted value}"
  | .invalid switch value =>
      s!"invalid value for {switch.shown}: {Text.quoted value}"
  | .notText => "an argument is not well-formed UTF-8"
  | .conflict switch others =>
      s!"{switch.shown} cannot be used with " ++
        ", ".intercalate (others.map Switch.shown)
  | .modeMissing => s!"one of {modes} is required"

/-- The status with which a command line that does not run is left. -/
def Refusal.status : Refusal → Nat
  | .help => 0
  | .version => 0
  | _ => 2

end FileTransfer.CommandLine
