import FileTransfer.CommandLine.Switch
import FileTransfer.Text.Lossy

namespace FileTransfer.CommandLine

/-!
# What a command line is made of

Arguments are split into marks: switches that stand for themselves, switches
that wait for a value, and values.  `Reading.ofMarks` then pairs the switches
with their values.  A mark that belongs nowhere ends the reading, and a switch
that was still waiting, or had its value only just before, is then forgotten.
-/

/-- Why a command line is refused, or answered without running. -/
inductive Refusal where
  /-- The explanation of all switches is asked for. -/
  | help
  | version
  /-- An argument has no meaning where it stands. -/
  | unknown (argument : String)
  /-- A switch without a value got one. -/
  | surplus (switch : Switch) (value : String)
  /-- A value is missing or is none of those that are allowed. -/
  | unfit (switch : Switch) (value : String)
  /-- A number is malformed or out of its range. -/
  | invalid (switch : Switch) (value : String)
  /-- A value that has to be a text is none. -/
  | notText
  /-- A switch is used with others that exclude it. -/
  | conflict (switch : Switch) (others : List Switch)
  /-- Nothing tells whether to serve or to send. -/
  | modeMissing
  deriving Repr, DecidableEq

/-- A switch that was used, with its value. -/
structure Occurrence where
  switch : Switch
  value : Option Bytes
  deriving Repr, DecidableEq

/-- One mark on a command line. -/
inductive Mark where
  /-- A switch with everything that belongs to it. -/
  | complete (occurrence : Occurrence)
  /-- A switch whose value has to follow. -/
  | waiting (switch : Switch)
  | value (bytes : Bytes)
  /-- Something without a meaning. -/
  | refused (refusal : Refusal)
  deriving Repr, DecidableEq

def dash : UInt8 := 0x2D

/-- The octet that joins a switch and its value. -/
def equalsSign : UInt8 := 0x3D

namespace Mark

/-- The mark of a switch by its long name, with what follows the first equals sign. -/
def ofLong (name : Bytes) (value : Option Bytes) : Mark :=
  match Switch.ofLong? name with
  | none => .refused (.unknown ("--" ++ Text.lossy name))
  | some switch =>
      match switch.takesValue, value with
      | true, none => .waiting switch
      | true, some bytes => .complete ⟨switch, some bytes⟩
      | false, none => .complete ⟨switch, none⟩
      | false, some bytes => .refused (.surplus switch (Text.lossy bytes))

/-- The first character of a run, or the whole run if it does not begin with one. -/
def leadingText (bytes : Bytes) : String :=
  match Text.leading? bytes with
  | some char => String.singleton char
  | none => Text.lossy bytes

/--
The marks of letters that share a dash.  A letter of a switch that takes a
value ends them, and what follows it is the value.
-/
def ofLetters : Bytes → List Mark
  | [] => []
  | octet :: rest =>
      match Switch.ofLetter? octet with
      | none => [.refused (.unknown ("-" ++ leadingText (octet :: rest)))]
      | some switch =>
          if switch.takesValue then
            match rest with
            | [] => [.waiting switch]
            | first :: others =>
                [.complete
                  ⟨switch, some (if first = equalsSign then others else rest)⟩]
          else .complete ⟨switch, none⟩ :: ofLetters rest

def ofArgument (argument : Bytes) : List Mark :=
  match argument with
  | first :: second :: rest =>
      if first ≠ dash then [.value argument]
      else if second ≠ dash then ofLetters (second :: rest)
      else
        [ofLong (rest.takeWhile (· ≠ equalsSign))
          (if equalsSign ∈ rest then
            some ((rest.dropWhile (· ≠ equalsSign)).drop 1)
          else none)]
  | _ => [.value argument]

/-- The argument after which no switches are expected. -/
def divider : Bytes := [dash, dash]

/-- The marks of a command line. -/
def ofArguments : List Bytes → List Mark
  | [] => []
  | argument :: rest =>
      if argument = divider then
        rest.map fun value => .refused (.unknown (Text.lossy value))
      else ofArgument argument ++ ofArguments rest

end Mark

/-- The switches that were used, up to where reading stopped. -/
structure Reading where
  occurrences : List Occurrence
  /-- What ended the reading before the end of the command line. -/
  stop : Option Refusal
  deriving Repr, DecidableEq

namespace Reading

/-- A reading with more in front of it. -/
def after (front : List Occurrence) (reading : Reading) : Reading :=
  { reading with occurrences := front ++ reading.occurrences }

/-- The reading that ends at a mark without a meaning. -/
def stopped (refusal : Refusal) : Reading :=
  ⟨[], some refusal⟩

/-- The reading of marks after a switch that is not settled yet. -/
def ofMarks (last : Option Occurrence) : List Mark → Reading
  | [] => ⟨last.toList, none⟩
  | .complete occurrence :: rest =>
      (ofMarks none rest).after (last.toList ++ [occurrence])
  | .waiting switch :: rest =>
      (ofMarks (some ⟨switch, none⟩) rest).after last.toList
  | .value bytes :: rest =>
      match last with
      | some ⟨switch, none⟩ => ofMarks (some ⟨switch, some bytes⟩) rest
      | _ => stopped (.unknown (Text.lossy bytes))
  | .refused refusal :: _ => stopped refusal

/-- The reading of a command line. -/
def ofArguments (arguments : List Bytes) : Reading :=
  ofMarks none (Mark.ofArguments arguments)

def switches (reading : Reading) : List Switch :=
  reading.occurrences.map Occurrence.switch

end Reading

end FileTransfer.CommandLine
