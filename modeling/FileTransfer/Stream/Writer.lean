import FileTransfer.Stream.Outlet

namespace FileTransfer

/-!
# Whatever can be written to

A sender needs of its stream only that octets can be offered to it and that it can
be flushed.  An outlet is such a stream, and so is an outlet with something in front
of it.  No stream fails for ever: a bound on the failures that are still to come
stands beside its operations, because an interrupted write is made again.
-/

/-- A way of writing to a stream. -/
structure Writer (σ : Type) where
  write : Bytes → σ → Except HostError Nat × σ
  flush : σ → Except HostError Unit × σ
  /-- A bound on the number of writes that still fail. -/
  failures : σ → Nat
  failures_write :
    ∀ offered state, failures (write offered state).2 ≤ failures state
  failures_error :
    ∀ {offered state error rest},
      write offered state = (.error error, rest) → failures rest < failures state

/-- An outlet as a stream to write to. -/
def Outlet.writer : Writer Outlet where
  write := Outlet.write
  flush := Outlet.flush
  failures outlet := outlet.steps.length
  failures_write offered outlet := by
    rw [length_steps_write]
    exact Nat.sub_le _ _
  failures_error := steps_write_error

namespace Writer

/-- Write all octets of a buffer, as `Outlet.writeAll` does. -/
def writeAll
    {σ : Type}
    (writer : Writer σ)
    (buffer : Bytes)
    (state : σ) :
    Except Fault Unit × σ :=
  if _ : buffer = [] then (.ok (), state)
  else
    match _ : writer.write buffer state with
    | (.ok 0, rest) => (.error .connectionClosed, rest)
    | (.ok (count + 1), rest) => writer.writeAll (buffer.drop (count + 1)) rest
    | (.error error, rest) =>
        if error.isInterrupted then writer.writeAll buffer rest
        else (.error (.host "write" error), rest)
termination_by buffer.length + writer.failures state
decreasing_by
  · have fewer := writer.failures_write buffer state
    simp only [‹writer.write buffer state = _›] at fewer
    have positive := List.length_pos_iff.mpr ‹¬buffer = []›
    simp only [List.length_drop]
    omega
  · have fewer := writer.failures_error ‹_›
    omega

end Writer

end FileTransfer
