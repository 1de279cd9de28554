import FileTransfer.Stream.Inlet
import FileTransfer.Stream.Timed

namespace FileTransfer

/-!
# Reading against a clock

A timed inlet is the script of a stream with delays, and the moment at which
it has arrived.  Its operations are those of an inlet with a latest moment;
one that would complete later does not complete, and the clock then stands at
that moment.
-/

/-- The reading end of a stream with delays. -/
structure TimedInlet where
  steps : List (Timed Inlet.Step)
  /-- The most octets that one read moves, if there is such a limit. -/
  limit : Option Nat
  /-- The number of reads that were completed. -/
  calls : Nat
  /-- The number of octets that were read. -/
  consumed : Nat
  /-- The milliseconds that have passed. -/
  clock : Nat
  deriving Repr, DecidableEq

namespace TimedInlet

/-- An inlet that nothing was read from yet, at the beginning of time. -/
def ofSteps (steps : List (Timed Inlet.Step)) (limit : Option Nat) : TimedInlet where
  steps := steps
  limit := limit
  calls := 0
  consumed := 0
  clock := 0

/-- An inlet that delivers some octets at once and then ends. -/
def ofBytes (bytes : Bytes) (limit : Option Nat) : TimedInlet :=
  ofSteps [.now (.data bytes)] limit

/-- The same inlet without delays and without a clock. -/
def untimed (inlet : TimedInlet) : Inlet where
  steps := Timed.instant inlet.steps
  limit := inlet.limit
  calls := inlet.calls
  consumed := inlet.consumed

/-- The waits and reads that one entry of a script can answer. -/
def stepWeight : Timed Inlet.Step → Nat
  | .now step => step.weight
  | .delay _ => 1
  | .stall => 1

/-- The waits and reads that a script can answer before it runs out. -/
def weightOf : List (Timed Inlet.Step) → Nat
  | [] => 0
  | step :: more => stepWeight step + weightOf more

/-- The waits and reads that an inlet can answer before it runs out. -/
def weight (inlet : TimedInlet) : Nat :=
  weightOf inlet.steps

/-- A reply, the moment of it, and the rest of the script. -/
structure Reading where
  reply : Except HostError Bytes
  moment : Nat
  rest : List (Timed Inlet.Step)

/-- What one read finds if it completes in time. -/
def readSteps?
    (latest : Option Nat)
    (amount moment : Nat) :
    List (Timed Inlet.Step) → Option Reading
  | [] => some ⟨.ok [], moment, []⟩
  | .delay milliseconds :: more =>
      if isLate latest (moment + milliseconds) then none
      else readSteps? latest amount (moment + milliseconds) more
  | .stall :: _ => none
  | .now (.data []) :: more => readSteps? latest amount moment more
  | .now (.data bytes) :: more =>
      let rest := bytes.drop amount
      some ⟨.ok (bytes.take amount), moment,
        if rest = [] then more else .now (.data rest) :: more⟩
  | .now (.failure error) :: more => some ⟨.error error, moment, more⟩
  | .now .close :: more => some ⟨.ok [], moment, more⟩

/-- A read that delivers something or fails uses up a part of the script. -/
theorem weightOf_readSteps?
    {latest : Option Nat}
    {amount moment : Nat}
    {steps : List (Timed Inlet.Step)}
    {reading : Reading}
    (completed : readSteps? latest amount moment steps = some reading) :
    weightOf reading.rest + Inlet.progress reading.reply ≤ weightOf steps := by
  fun_induction readSteps? latest amount moment steps with
  | case1 =>
      cases completed
      simp [Inlet.progress]
  | case2 => cases completed
  | case3 moment milliseconds more _ ih =>
      have lighter := ih completed
      simp only [weightOf] at lighter ⊢
      omega
  | case4 => cases completed
  | case5 moment more ih =>
      have lighter := ih completed
      simp only [weightOf] at lighter ⊢
      omega
  | case6 moment bytes more nonempty rest =>
      cases completed
      cases bytes with
      | nil => exact absurd rfl nonempty
      | cons octet others =>
          cases amount with
          | zero => simp [rest, Inlet.progress]
          | succ amount =>
              simp only [rest, List.drop_succ_cons, List.take_succ_cons,
                Inlet.progress]
              split <;>
                simp only [weightOf, stepWeight,
                  Inlet.Step.weight, List.length_cons, List.length_drop] <;>
                omega
  | case7 moment error more =>
      cases completed
      simp only [weightOf, stepWeight,
        Inlet.Step.weight, Inlet.progress]
      omega
  | case8 moment more =>
      cases completed
      simp [weightOf, Inlet.progress]

/-- An inlet after an operation that did not complete in time. -/
def expire (latest : Option Nat) (inlet : TimedInlet) : TimedInlet :=
  { inlet with clock := latest.getD inlet.clock }

/--
One read into a buffer with room for `room` octets, or nothing if it does not
complete in time.
-/
def read?
    (latest : Option Nat)
    (room : Nat)
    (inlet : TimedInlet) :
    Option (Except HostError Bytes) × TimedInlet :=
  match readSteps? latest (capped inlet.limit room) inlet.clock inlet.steps with
  | none => (none, inlet.expire latest)
  | some ⟨reply, moment, rest⟩ =>
      let moved :=
        match reply with
        | .ok piece => piece.length
        | .error _ => 0
      (some reply, { inlet with
        steps := rest
        calls := inlet.calls + 1
        consumed := inlet.consumed + moved
        clock := moment })

/-- A read that completes leaves no more to be read than it uses up. -/
theorem weight_read?
    {latest : Option Nat}
    {room : Nat}
    {inlet rest : TimedInlet}
    {reply : Except HostError Bytes}
    (completed : inlet.read? latest room = (some reply, rest)) :
    rest.weight + Inlet.progress reply ≤ inlet.weight := by
  unfold read? at completed
  split at completed
  · cases completed
  · rename_i found moment after shape
    cases completed
    exact weightOf_readSteps? shape

/-- One read, made again as long as it is interrupted, under one deadline. -/
def readSome?
    (latest : Option Nat)
    (room : Nat)
    (inlet : TimedInlet) :
    Option (Except HostError Bytes) × TimedInlet :=
  match _ : inlet.read? latest room with
  | (none, rest) => (none, rest)
  | (some (.ok piece), rest) => (some (.ok piece), rest)
  | (some (.error error), rest) =>
      if error.isInterrupted then readSome? latest room rest
      else (some (.error error), rest)
termination_by inlet.weight
decreasing_by
  have lighter := weight_read? ‹_›
  simp only [Inlet.progress] at lighter
  omega

/-- A piece that is not empty leaves less to be read. -/
theorem weight_readSome?
    {latest : Option Nat}
    {room : Nat}
    {inlet rest : TimedInlet}
    {reply : Except HostError Bytes}
    (completed : inlet.readSome? latest room = (some reply, rest)) :
    rest.weight + Inlet.progress reply ≤ inlet.weight := by
  fun_induction readSome? latest room inlet with
  | case1 => cases completed
  | case2 inlet piece after reads =>
      cases completed
      exact weight_read? reads
  | case3 inlet error after reads interrupted ih =>
      have lighter := weight_read? reads
      have further := ih completed
      omega
  | case4 inlet error after reads final =>
      cases completed
      exact weight_read? reads

/--
Read under one deadline until `missing` octets were delivered, or the stream
ends or fails.
-/
def fill?
    (latest : Option Nat)
    (missing : Nat)
    (inlet : TimedInlet) :
    Option (Bytes × Option Inlet.Stop) × TimedInlet :=
  if missing = 0 then (some ([], none), inlet)
  else
    match _ : inlet.read? latest missing with
    | (none, rest) => (none, rest)
    | (some (.ok []), rest) => (some ([], some .ended), rest)
    | (some (.ok (octet :: others)), rest) =>
        match fill? latest (missing - (others.length + 1)) rest with
        | (found, last) =>
            (found.map fun (more, stop) => (octet :: others ++ more, stop), last)
    | (some (.error error), rest) =>
        if error.isInterrupted then fill? latest missing rest
        else (some ([], some (.failed error)), rest)
termination_by inlet.weight
decreasing_by
  all_goals
    have lighter := weight_read? ‹_›
    simp only [Inlet.progress] at lighter
    omega

/-- Read a field of exactly `length` octets, or nothing if time runs out. -/
def readExact?
    (latest : Option Nat)
    (length : Nat)
    (inlet : TimedInlet) :
    Option (Except Fault Bytes) × TimedInlet :=
  match fill? latest length inlet with
  | (found, rest) => (found.map (Inlet.exactly length), rest)

end TimedInlet

end FileTransfer
