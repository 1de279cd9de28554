import FileTransfer.Stream.Writer
import FileTransfer.Transfer.Send

namespace FileTransfer

/-!
# Sending behind a progress bar

A file can be sent to whatever can be written to.  A client that shows its progress
writes to a bar with its connection behind it.  How a bar looks is not modelled: a
bar is any state, with any way of writing to a stream through it.
-/

namespace Writer

variable {σ : Type}

/-- Write what a source still delivers. -/
def sendBody
    (writer : Writer σ)
    (room : Nat)
    (source : Inlet)
    (tally : Tally)
    (state : σ) :
    (Except Fault Unit × Tally) × σ :=
  match _ : source.readSome room with
  | (.error error, _) => ((.error (.host "read body" error), tally), state)
  | (.ok [], _) => ((.ok (), tally), state)
  | (.ok (octet :: others), rest) =>
      match writer.writeAll (octet :: others) state with
      | (.error fault, after) => ((.error fault, tally), after)
      | (.ok (), after) =>
          writer.sendBody room rest (tally.record (octet :: others)) after
termination_by source.weight
decreasing_by exact Inlet.weight_readSome_ok ‹_› (by simp)

/-- Write the header and the content of a source, and flush once. -/
def sendSource
    (writer : Writer σ)
    (options : TransferOptions)
    (path : Path)
    (source : Source)
    (state : σ) :
    Except Fault Receipt × σ :=
  match writer.writeAll source.header state with
  | (.error fault, after) => (.error fault, after)
  | (.ok (), after) =>
      match
        writer.sendBody options.room source.inlet (.start options.digesting) after
      with
      | ((.error fault, _), last) => (.error fault, last)
      | ((.ok (), tally), last) =>
          match writer.flush last with
          | (.error error, flushed) => (.error (.host "flush" error), flushed)
          | (.ok (), flushed) =>
              (.ok (tally.finish .client source.name path ⟨0, 0⟩), flushed)

/-- Send the file at a path to whatever can be written to. -/
def sendFile
    (writer : Writer σ)
    (options : TransferOptions)
    (tree : FileTree)
    (path : Path)
    (state : σ) :
    Except Fault Receipt × σ :=
  match Source.open? none tree path with
  | .error fault => (.error fault, state)
  | .ok source => writer.sendSource options path source state

end Writer

/-- A bar that shows how far a transfer has come. -/
structure ProgressBar (β : Type) where
  /-- The bar for a transfer of so many octets. -/
  start : Nat → β
  /-- Writing to a stream with a bar in front of it. -/
  wrapped : Writer (β × Outlet)

namespace ProgressBar

/-- A write to a stream whose bar counts the octets that were taken. -/
def countedWrite
    (offered : Bytes)
    (shown : Nat × Outlet) :
    Except HostError Nat × Nat × Outlet :=
  match shown.2.write offered with
  | (.ok count, rest) => (.ok count, shown.1 + count, rest)
  | (.error error, rest) => (.error error, shown.1, rest)

theorem countedWrite_snd (offered : Bytes) (shown : Nat × Outlet) :
    Prod.map id Prod.snd (countedWrite offered shown) = shown.2.write offered := by
  unfold countedWrite
  split <;> simp only [*, Prod.map, id]

/-- A bar that counts the octets that were taken. -/
def counting : ProgressBar Nat where
  start _ := 0
  wrapped :=
    { write := countedWrite
      flush := fun (seen, outlet) =>
        match outlet.flush with
        | (reply, flushed) => (reply, seen, flushed)
      failures := fun shown => shown.2.steps.length
      failures_write := fun offered shown => by
        have same := congrArg Prod.snd (countedWrite_snd offered shown)
        simp only [Prod.map] at same
        rw [same, Outlet.length_steps_write]
        exact Nat.sub_le _ _
      failures_error := fun {offered shown error rest} failed => by
        have same := countedWrite_snd offered shown
        rw [failed] at same
        exact Outlet.steps_write_error same.symm }

end ProgressBar

/-- The size that a bar is made for: the length of what can be read, else nothing. -/
def FileTree.sizeOf (tree : FileTree) (path : Path) : Nat :=
  match tree.contentOf path with
  | .ok content => content.length
  | .error _ => 0

/-- Send a file with a bar in front of the stream, which is taken away afterwards. -/
def ProgressBar.sendFile
    {β : Type}
    (bar : ProgressBar β)
    (options : TransferOptions)
    (tree : FileTree)
    (path : Path)
    (outlet : Outlet) :
    Except Fault Receipt × Outlet :=
  match bar.wrapped.sendFile options tree path (bar.start (tree.sizeOf path), outlet) with
  | (outcome, _, after) => (outcome, after)

end FileTransfer
