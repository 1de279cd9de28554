import FileTransfer.Fault

namespace FileTransfer

/-!
# Scripts with delays

On a clock that only runs while a stream waits, the script of a stream may hold
delays, and stalls that never end.  An operation has a latest moment at which
it may complete; whatever completes exactly then is still in time.
-/

/-- One entry of a script with delays. -/
inductive Timed (α : Type) where
  /-- The stream acts at once. -/
  | now (step : α)
  /-- The next operation first waits so many milliseconds. -/
  | delay (milliseconds : Nat)
  /-- No further operation completes. -/
  | stall
  deriving Repr, DecidableEq

namespace Timed

/-- What the stream does when it does not wait. -/
def step? {α : Type} : Timed α → Option α
  | .now step => some step
  | .delay _ => none
  | .stall => none

/-- A script without its delays and stalls. -/
def instant {α : Type} (script : List (Timed α)) : List α :=
  script.filterMap step?

end Timed

/-- Whether a moment lies after the latest one, if there is a latest one. -/
def isLate (latest : Option Nat) (moment : Nat) : Bool :=
  match latest with
  | none => false
  | some last => last < moment

/--
An operation of which every call together may take so many milliseconds.  It
gets the latest moment of completion; not completing is a fault of its own.
-/
def within
    {α σ : Type}
    (step : String)
    (milliseconds : Nat)
    (clock : σ → Nat)
    (operation : Option Nat → σ → Option (Except Fault α) × σ)
    (state : σ) :
    Except Fault α × σ :=
  match operation (some (clock state + milliseconds)) state with
  | (some reply, rest) => (reply, rest)
  | (none, rest) => (.error (.timeout step milliseconds), rest)

end FileTransfer
