import FileTransfer.Stream.Inlet

namespace FileTransfer

/-!
# The writing end of a stream

An outlet is the script of how a stream will take what is written to it,
together with the calls that were made on it.  What the stream accepted, and
what every call offered to it, are read off these calls.

A single write may take less than it is offered or be interrupted.  `writeAll`
offers what is left until nothing is left.
-/

/-- One entry of the script of an outlet. -/
inductive Outlet.Step where
  /-- One write takes at most this many octets. -/
  | take (most : Nat)
  /-- One write fails. -/
  | failure (error : HostError)
  deriving Repr, DecidableEq

/-- A call on an outlet and its reply. -/
inductive Outlet.Call where
  | write (offered : Bytes) (reply : Except HostError Nat)
  | flush
  | finish
  deriving Repr

/-- The writing end of a stream, with the calls that were made on it. -/
structure Outlet where
  steps : List Outlet.Step
  /-- The most octets that one write takes, if there is such a limit. -/
  limit : Option Nat
  /-- How every flush fails, if it does. -/
  flushError : Option HostError
  /-- How closing the stream for writing fails, if it does. -/
  finishError : Option HostError
  calls : List Outlet.Call
  deriving Repr

namespace Outlet

/-- An outlet that nothing was written to yet. -/
def ofSteps
    (steps : List Step)
    (limit : Option Nat)
    (flushError finishError : Option HostError) :
    Outlet where
  steps := steps
  limit := limit
  flushError := flushError
  finishError := finishError
  calls := []

/-- The octets that a call moved. -/
def Call.accepted : Call → Bytes
  | .write offered (.ok count) => offered.take count
  | .write _ (.error _) => []
  | .flush => []
  | .finish => []

/-- The octets that a call offered, if it was a write. -/
def Call.offered? : Call → Option Bytes
  | .write offered _ => some offered
  | .flush => none
  | .finish => none

/-- Whether a call was a flush. -/
def Call.isFlush : Call → Bool
  | .flush => true
  | _ => false

/-- Whether a call closed the stream for writing. -/
def Call.isFinish : Call → Bool
  | .finish => true
  | _ => false

/-- The octets that a stream accepted in the course of some calls. -/
def acceptedIn (calls : List Call) : Bytes :=
  calls.reverse.flatMap Call.accepted

/-- What was offered in the course of some calls, in order. -/
def offeredIn (calls : List Call) : List Bytes :=
  calls.reverse.filterMap Call.offered?

def accepted (outlet : Outlet) : Bytes :=
  acceptedIn outlet.calls

def offered (outlet : Outlet) : List Bytes :=
  offeredIn outlet.calls

def flushes (outlet : Outlet) : Nat :=
  outlet.calls.countP Call.isFlush

/-- The number of times that an outlet was closed for writing. -/
def finishes (outlet : Outlet) : Nat :=
  outlet.calls.countP Call.isFinish

/-- The octets that one write can take of those it is offered. -/
def reach (limit : Option Nat) (offered : Bytes) : Bytes :=
  match limit with
  | none => offered
  | some most => offered.take most

/-- One write takes as many octets as its limit and the offer allow. -/
theorem length_reach (limit : Option Nat) (offered : Bytes) :
    (reach limit offered).length = capped limit offered.length := by
  cases limit with
  | none => rfl
  | some most => simp [reach, capped, Nat.min_comm]

/-- What the next write replies when it is offered some octets. -/
def replySteps
    (limit : Option Nat)
    (offered : Bytes) :
    List Step → Except HostError Nat × List Step
  | [] => (.ok (reach limit offered).length, [])
  | .take most :: more => (.ok (min most (reach limit offered).length), more)
  | .failure error :: more => (.error error, more)

/-- No write takes more than it is offered. -/
theorem replySteps_le
    {limit : Option Nat}
    {offered : Bytes}
    {steps rest : List Step}
    {count : Nat}
    (replied : replySteps limit offered steps = (.ok count, rest)) :
    count ≤ offered.length := by
  have most := length_reach limit offered ▸ capped_le limit offered.length
  cases steps with
  | nil =>
      cases replied
      exact most
  | cons step more =>
      cases step with
      | take bound =>
          cases replied
          omega
      | failure error => cases replied

/-- Every write uses up an entry of the script, as long as there is one. -/
theorem length_replySteps
    (limit : Option Nat)
    (offered : Bytes)
    (steps : List Step) :
    (replySteps limit offered steps).2.length = steps.length - 1 := by
  cases steps with
  | nil => rfl
  | cons step more => cases step <;> rfl

def write (offered : Bytes) (outlet : Outlet) : Except HostError Nat × Outlet :=
  match replySteps outlet.limit offered outlet.steps with
  | (reply, rest) =>
      (reply, { outlet with
        steps := rest
        calls := .write offered reply :: outlet.calls })

def flush (outlet : Outlet) : Except HostError Unit × Outlet :=
  let reply :=
    match outlet.flushError with
    | none => .ok ()
    | some error => .error error
  (reply, { outlet with calls := .flush :: outlet.calls })

/-- Close a stream for writing. -/
def finish (outlet : Outlet) : Except HostError Unit × Outlet :=
  let reply :=
    match outlet.finishError with
    | none => .ok ()
    | some error => .error error
  (reply, { outlet with calls := .finish :: outlet.calls })

/-- A write never leaves a longer script. -/
theorem length_steps_write (offered : Bytes) (outlet : Outlet) :
    (outlet.write offered).2.steps.length = outlet.steps.length - 1 :=
  length_replySteps outlet.limit offered outlet.steps

/-- A write that fails leaves a shorter script. -/
theorem steps_write_error
    {offered : Bytes}
    {outlet rest : Outlet}
    {error : HostError}
    (failed : outlet.write offered = (.error error, rest)) :
    rest.steps.length < outlet.steps.length := by
  have shorter := length_steps_write offered outlet
  simp only [failed] at shorter
  cases shape : outlet.steps with
  | nil =>
      simp [write, shape, replySteps] at failed
  | cons step more =>
      simp only [shape, List.length_cons] at shorter ⊢
      omega

/--
Write all octets of a buffer.  What a write does not take is offered again; a
write that takes nothing means that the peer is gone.
-/
def writeAll (buffer : Bytes) (outlet : Outlet) : Except Fault Unit × Outlet :=
  if _ : buffer = [] then (.ok (), outlet)
  else
    match _ : outlet.write buffer with
    | (.ok 0, rest) => (.error .connectionClosed, rest)
    | (.ok (count + 1), rest) => writeAll (buffer.drop (count + 1)) rest
    | (.error error, rest) =>
        if error.isInterrupted then writeAll buffer rest
        else (.error (.host "write" error), rest)
termination_by buffer.length + outlet.steps.length
decreasing_by
  · have shorter := length_steps_write buffer outlet
    simp only [‹outlet.write buffer = _›] at shorter
    have positive := List.length_pos_iff.mpr ‹¬buffer = []›
    simp only [List.length_drop]
    omega
  · have shorter := steps_write_error ‹_›
    omega

end Outlet

end FileTransfer
