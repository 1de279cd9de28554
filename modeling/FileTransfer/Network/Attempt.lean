import FileTransfer.Fault

namespace FileTransfer

/-!
# Attempts to connect

The host refuses an attempt at once, or the answer of the peer takes some time,
or it never comes.  A client that waits without a limit, one with a limit, and
one with a deadline see different faults of one and the same attempt.
-/

/-- What becomes of an attempt to connect. -/
inductive Attempt (σ : Type) where
  | refused (error : HostError)
  | answered (milliseconds : Nat) (answer : Except HostError σ)
  /-- No answer ever comes. -/
  | unanswered

namespace Attempt

/-- The failure of a limit of no time at all. -/
def zeroDuration : HostError :=
  .described .invalidInput "cannot set a 0 duration timeout"

/-- The failure of an attempt that the limit cut off. -/
def timedOut : HostError :=
  .described .timedOut "connection timed out"

/-- The failure of an attempt that the host gave up. -/
def givenUp : HostError :=
  .ofErrno .timedOut

/--
What a client that blocks finds, within so many milliseconds if they are
limited.  What the host refuses at once is refused under any limit.
-/
def settle {σ : Type} (limit : Option Nat) : Attempt σ → Except HostError σ
  | .refused error => .error error
  | .answered milliseconds answer =>
      match limit with
      | none => answer
      | some 0 => .error zeroDuration
      | some most => if milliseconds ≤ most then answer else .error timedOut
  | .unanswered =>
      match limit with
      | none => .error givenUp
      | some 0 => .error zeroDuration
      | some _ => .error timedOut

/-- What a client that blocks reports. -/
def dial
    {σ : Type}
    (limit : Option Nat)
    (attempt : Attempt σ) :
    Except Fault σ :=
  Fault.during "connect" (attempt.settle limit)

/-- What a client with a deadline in milliseconds reports. -/
def dialTimed
    {σ : Type}
    (deadline : Nat) :
    Attempt σ → Except Fault σ
  | .refused error => .error (.host "connect" error)
  | .answered milliseconds answer =>
      if milliseconds ≤ deadline then Fault.during "connect" answer
      else .error (.timeout "connect" deadline)
  | .unanswered => .error (.timeout "connect" deadline)

end Attempt

end FileTransfer
