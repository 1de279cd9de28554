import FileTransfer.Stream.Outlet
import FileTransfer.Stream.Timed

namespace FileTransfer

/-!
# Writing against a clock

A timed outlet is the script of how a stream will take what is written to it,
with delays.  A write that would complete after its latest moment does not
complete and moves nothing; only completed calls are kept.
-/

/-- The writing end of a stream with delays. -/
structure TimedOutlet where
  steps : List (Timed Outlet.Step)
  /-- The most octets that one write takes, if there is such a limit. -/
  limit : Option Nat
  /-- How every flush fails, if it does. -/
  flushError : Option HostError
  /-- How closing the stream for writing fails, if it does. -/
  finishError : Option HostError
  calls : List Outlet.Call
  /-- The milliseconds that have passed. -/
  clock : Nat
  deriving Repr

namespace TimedOutlet

/-- An outlet that nothing was written to yet, at the beginning of time. -/
def ofSteps
    (steps : List (Timed Outlet.Step))
    (limit : Option Nat)
    (flushError finishError : Option HostError) :
    TimedOutlet where
  steps := steps
  limit := limit
  flushError := flushError
  finishError := finishError
  calls := []
  clock := 0

/-- The same outlet without delays and without a clock. -/
def untimed (outlet : TimedOutlet) : Outlet where
  steps := Timed.instant outlet.steps
  limit := outlet.limit
  flushError := outlet.flushError
  finishError := outlet.finishError
  calls := outlet.calls

def accepted (outlet : TimedOutlet) : Bytes :=
  Outlet.acceptedIn outlet.calls

def offered (outlet : TimedOutlet) : List Bytes :=
  Outlet.offeredIn outlet.calls

def flushes (outlet : TimedOutlet) : Nat :=
  outlet.calls.countP Outlet.Call.isFlush

/-- A reply, the moment of it, and the rest of the script. -/
structure Writing where
  reply : Except HostError Nat
  moment : Nat
  rest : List (Timed Outlet.Step)

/-- What the next write replies if it completes in time. -/
def replySteps?
    (latest limit : Option Nat)
    (offered : Bytes)
    (moment : Nat) :
    List (Timed Outlet.Step) → Option Writing
  | [] => some ⟨.ok (Outlet.reach limit offered).length, moment, []⟩
  | .delay milliseconds :: more =>
      if isLate latest (moment + milliseconds) then none
      else replySteps? latest limit offered (moment + milliseconds) more
  | .stall :: _ => none
  | .now step :: more =>
      some ⟨(Outlet.replySteps limit offered [step]).1, moment, more⟩

/-- A write that completes uses up an entry of the script, if there is one. -/
theorem length_replySteps?
    {latest limit : Option Nat}
    {offered : Bytes}
    {moment : Nat}
    {steps : List (Timed Outlet.Step)}
    {writing : Writing}
    (completed : replySteps? latest limit offered moment steps = some writing) :
    writing.rest.length ≤ steps.length - 1 := by
  fun_induction replySteps? latest limit offered moment steps with
  | case1 =>
      cases completed
      simp
  | case2 => cases completed
  | case3 moment milliseconds more _ ih =>
      have shorter := ih completed
      simp only [List.length_cons]
      omega
  | case4 => cases completed
  | case5 moment step more =>
      cases completed
      simp

/-- A write that fails leaves a shorter script. -/
theorem rest_replySteps?_error
    {latest limit : Option Nat}
    {offered : Bytes}
    {moment : Nat}
    {steps : List (Timed Outlet.Step)}
    {writing : Writing}
    {error : HostError}
    (completed : replySteps? latest limit offered moment steps = some writing)
    (failed : writing.reply = .error error) :
    writing.rest.length < steps.length := by
  fun_induction replySteps? latest limit offered moment steps with
  | case1 =>
      cases completed
      cases failed
  | case2 => cases completed
  | case3 moment milliseconds more _ ih =>
      have shorter := ih completed
      simp only [List.length_cons]
      omega
  | case4 => cases completed
  | case5 moment step more =>
      cases completed
      simp

/-- An outlet after an operation that did not complete in time. -/
def expire (latest : Option Nat) (outlet : TimedOutlet) : TimedOutlet :=
  { outlet with clock := latest.getD outlet.clock }

/-- One write, or nothing if it does not complete in time. -/
def write?
    (latest : Option Nat)
    (offered : Bytes)
    (outlet : TimedOutlet) :
    Option (Except HostError Nat) × TimedOutlet :=
  match replySteps? latest outlet.limit offered outlet.clock outlet.steps with
  | none => (none, outlet.expire latest)
  | some ⟨reply, moment, rest⟩ =>
      (some reply, { outlet with
        steps := rest
        calls := .write offered reply :: outlet.calls
        clock := moment })

/-- A write that completes never leaves a longer script. -/
theorem length_steps_write?
    {latest : Option Nat}
    {offered : Bytes}
    {outlet rest : TimedOutlet}
    {reply : Except HostError Nat}
    (completed : outlet.write? latest offered = (some reply, rest)) :
    rest.steps.length ≤ outlet.steps.length := by
  unfold write? at completed
  split at completed
  · cases completed
  · rename_i found moment after shape
    cases completed
    have shorter := length_replySteps? shape
    simp only at shorter ⊢
    omega

/-- A write that fails leaves a shorter script. -/
theorem steps_write?_error
    {latest : Option Nat}
    {offered : Bytes}
    {outlet rest : TimedOutlet}
    {error : HostError}
    (failed : outlet.write? latest offered = (some (.error error), rest)) :
    rest.steps.length < outlet.steps.length := by
  unfold write? at failed
  split at failed
  · cases failed
  · rename_i found moment after shape
    cases failed
    exact rest_replySteps?_error shape rfl

def flush (outlet : TimedOutlet) : Except HostError Unit × TimedOutlet :=
  let reply :=
    match outlet.flushError with
    | none => .ok ()
    | some error => .error error
  (reply, { outlet with calls := .flush :: outlet.calls })

/-- Close a stream for writing. -/
def finish (outlet : TimedOutlet) : Except HostError Unit × TimedOutlet :=
  let reply :=
    match outlet.finishError with
    | none => .ok ()
    | some error => .error error
  (reply, { outlet with calls := .finish :: outlet.calls })

/--
Write all octets of a buffer under one deadline, or nothing if time runs out.
What was accepted before that stays accepted.
-/
def writeAll?
    (latest : Option Nat)
    (buffer : Bytes)
    (outlet : TimedOutlet) :
    Option (Except Fault Unit) × TimedOutlet :=
  if _ : buffer = [] then (some (.ok ()), outlet)
  else
    match _ : outlet.write? latest buffer with
    | (none, rest) => (none, rest)
    | (some (.ok 0), rest) => (some (.error .connectionClosed), rest)
    | (some (.ok (count + 1)), rest) =>
        writeAll? latest (buffer.drop (count + 1)) rest
    | (some (.error error), rest) =>
        if error.isInterrupted then writeAll? latest buffer rest
        else (some (.error (.host "write" error)), rest)
termination_by buffer.length + outlet.steps.length
decreasing_by
  · have shorter := length_steps_write? ‹_›
    have positive := List.length_pos_iff.mpr ‹¬buffer = []›
    simp only [List.length_drop]
    omega
  · have shorter := steps_write?_error ‹_›
    omega

end TimedOutlet

end FileTransfer
