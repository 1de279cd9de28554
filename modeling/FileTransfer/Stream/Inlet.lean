import FileTransfer.Fault
import FileTransfer.Bytes
import FileTransfer.Limits

namespace FileTransfer

/-!
# The reading end of a stream

An inlet is the script of what a stream will deliver: octets, failures, and
ends of the stream.  One `read` moves as much as the current run of octets, the
room of the reader and the stream's own limit allow; it never crosses from one
run into the next.

A single read may move less than was asked for or be interrupted.  `readSome`
hides interruptions, and `readExact` reads a field of known length.  Both end
because a read that delivers something or fails uses up a part of the script,
which `weight` measures.
-/

/-- One entry of the script of an inlet. -/
inductive Inlet.Step where
  /-- Octets that stay until they are read. -/
  | data (bytes : Bytes)
  /-- One read fails. -/
  | failure (error : HostError)
  /-- One read finds the end of the stream. -/
  | close
  deriving Repr, DecidableEq

/-- The reading end of a stream, with an account of what was read from it. -/
structure Inlet where
  steps : List Inlet.Step
  /-- The most octets that one read moves, if there is such a limit. -/
  limit : Option Nat
  /-- The number of reads that were made. -/
  calls : Nat
  /-- The number of octets that were read. -/
  consumed : Nat
  deriving Repr, DecidableEq

/-- The lesser of a size and a limit, if there is one. -/
def capped (limit : Option Nat) (size : Nat) : Nat :=
  match limit with
  | none => size
  | some most => min size most

/-- A limit never enlarges a size. -/
theorem capped_le (limit : Option Nat) (size : Nat) : capped limit size ≤ size := by
  cases limit with
  | none => exact Nat.le_refl size
  | some most => exact Nat.min_le_left size most

namespace Inlet

/-- An inlet that nothing was read from yet. -/
def ofSteps (steps : List Step) (limit : Option Nat) : Inlet where
  steps := steps
  limit := limit
  calls := 0
  consumed := 0

/-- An inlet that delivers some octets and then ends. -/
def ofBytes (bytes : Bytes) (limit : Option Nat) : Inlet :=
  ofSteps [.data bytes] limit

/-- An inlet of which every part fails to be read. -/
def failing (error : HostError) : Inlet :=
  ofSteps [.failure error] none

/-- The reads that one entry of a script can answer, counted generously. -/
def Step.weight : Step → Nat
  | .data bytes => bytes.length + 1
  | .failure _ => 1
  | .close => 1

/-- The reads that a script can answer before it runs out. -/
def weightOf : List Step → Nat
  | [] => 0
  | step :: more => step.weight + weightOf more

/-- The reads that an inlet can answer before it runs out. -/
def weight (inlet : Inlet) : Nat :=
  weightOf inlet.steps

/-- What one read of at most `amount` octets finds, and the rest of the script. -/
def readSteps (amount : Nat) : List Step → Except HostError Bytes × List Step
  | [] => (.ok [], [])
  | .data [] :: more => readSteps amount more
  | .data bytes :: more =>
      let rest := bytes.drop amount
      (.ok (bytes.take amount), if rest = [] then more else .data rest :: more)
  | .failure error :: more => (.error error, more)
  | .close :: more => (.ok [], more)

/-- What a read uses up at least: nothing if it finds nothing. -/
def progress : Except HostError Bytes → Nat
  | .ok [] => 0
  | .ok (_ :: _) => 1
  | .error _ => 1

/-- A read that delivers something or fails uses up a part of the script. -/
theorem weightOf_readSteps (amount : Nat) (steps : List Step) :
    weightOf (readSteps amount steps).2 + progress (readSteps amount steps).1 ≤
      weightOf steps := by
  fun_induction readSteps amount steps with
  | case1 => simp [progress]
  | case2 more ih =>
      simp only [weightOf] at ih ⊢
      omega
  | case3 bytes more nonempty rest =>
      cases bytes with
      | nil => exact absurd rfl nonempty
      | cons octet others =>
          cases amount with
          | zero => simp [rest, progress]
          | succ amount =>
              simp only [rest, List.drop_succ_cons, List.take_succ_cons, progress]
              split <;>
                simp only [weightOf, Step.weight,
                  List.length_cons, List.length_drop] <;> omega
  | case4 error more =>
      simp only [weightOf, Step.weight, progress]
      omega
  | case5 more => simp [weightOf, progress]

/--
One read into a buffer with room for `room` octets.  Nothing read without a
failure is the end of the stream.
-/
def read (room : Nat) (inlet : Inlet) : Except HostError Bytes × Inlet :=
  match readSteps (capped inlet.limit room) inlet.steps with
  | (reply, rest) =>
      let moved :=
        match reply with
        | .ok piece => piece.length
        | .error _ => 0
      (reply, { inlet with
        steps := rest
        calls := inlet.calls + 1
        consumed := inlet.consumed + moved })

/-- A read that fails leaves less to be read. -/
theorem weight_read_error
    {room : Nat}
    {inlet rest : Inlet}
    {error : HostError}
    (failed : inlet.read room = (.error error, rest)) :
    rest.weight < inlet.weight := by
  simp only [read, Prod.mk.injEq] at failed
  obtain ⟨replied, rfl⟩ := failed
  have lighter :=
    weightOf_readSteps (capped inlet.limit room) inlet.steps
  simp only [replied, progress] at lighter
  simp only [weight]
  omega

/-- A read that delivers something leaves less to be read. -/
theorem weight_read_ok
    {room : Nat}
    {inlet rest : Inlet}
    {piece : Bytes}
    (delivered : inlet.read room = (.ok piece, rest))
    (nonempty : piece ≠ []) :
    rest.weight < inlet.weight := by
  simp only [read, Prod.mk.injEq] at delivered
  obtain ⟨replied, rfl⟩ := delivered
  have lighter :=
    weightOf_readSteps (capped inlet.limit room) inlet.steps
  cases piece with
  | nil => exact absurd rfl nonempty
  | cons octet others =>
      simp only [replied, progress] at lighter
      simp only [weight]
      omega

/-- One read, made again as long as it is interrupted. -/
def readSome (room : Nat) (inlet : Inlet) : Except HostError Bytes × Inlet :=
  match _ : inlet.read room with
  | (.ok piece, rest) => (.ok piece, rest)
  | (.error error, rest) =>
      if error.isInterrupted then readSome room rest else (.error error, rest)
termination_by inlet.weight
decreasing_by exact weight_read_error ‹_›

/-- A piece that is not empty leaves less to be read. -/
theorem weight_readSome_ok
    {room : Nat}
    {inlet rest : Inlet}
    {piece : Bytes}
    (delivered : inlet.readSome room = (.ok piece, rest))
    (nonempty : piece ≠ []) :
    rest.weight < inlet.weight := by
  fun_induction readSome room inlet with
  | case1 inlet found after reads =>
      cases delivered
      exact weight_read_ok reads nonempty
  | case2 inlet error after reads interrupted ih =>
      have lighter := weight_read_error reads
      have further := ih delivered
      omega
  | case3 inlet error after reads final => cases delivered

/-- Why a field was not read to its end. -/
inductive Stop where
  | ended
  | failed (error : HostError)
  deriving Repr, DecidableEq

/--
Read until `missing` octets were delivered, or the stream ends or fails.  The
octets that were delivered are returned in either case.
-/
def fill (missing : Nat) (inlet : Inlet) : (Bytes × Option Stop) × Inlet :=
  if missing = 0 then (([], none), inlet)
  else
    match _ : inlet.read missing with
    | (.ok [], rest) => (([], some .ended), rest)
    | (.ok (octet :: others), rest) =>
        match fill (missing - (others.length + 1)) rest with
        | ((more, stop), last) => ((octet :: others ++ more, stop), last)
    | (.error error, rest) =>
        if error.isInterrupted then fill missing rest
        else (([], some (.failed error)), rest)
termination_by inlet.weight
decreasing_by
  · exact weight_read_ok ‹_› (by simp)
  · exact weight_read_error ‹_›

/-- What reading a field of `length` octets yields. -/
def exactly (length : Nat) : Bytes × Option Stop → Except Fault Bytes
  | (bytes, none) => .ok bytes
  | (bytes, some .ended) => .error (.unexpectedEof bytes.length length)
  | (_, some (.failed error)) => .error (.host "read" error)

/-- Read a field of exactly `length` octets. -/
def readExact (length : Nat) (inlet : Inlet) : Except Fault Bytes × Inlet :=
  match fill length inlet with
  | (found, rest) => (exactly length found, rest)

end Inlet

/-!
## Chunks

The rest of a stream as a sequence of pieces, which are all read into one buffer.  The
end of the stream and a failure both finish the sequence; a failure is shown once
before it.  A piece is lent as the front of the buffer, up to the next request, or
copied out of it.
-/

/-- A stream that is read piece by piece into the front of one buffer. -/
structure Chunks where
  inlet : Inlet
  /-- The last piece, and behind it what longer ones before it left there. -/
  buffer : Bytes
  finished : Bool
  deriving Repr, DecidableEq

namespace Chunks

/-- The pieces of a stream, of which none was asked for yet. -/
def ofInlet (inlet : Inlet) (chunkSize : Nat) : Chunks :=
  ⟨inlet, List.replicate (Limits.room chunkSize) 0, false⟩

/-- A buffer after a piece was read into it. -/
def overwritten (piece buffer : Bytes) : Bytes :=
  piece ++ buffer.drop piece.length

/-- The first octets of the buffer. -/
def front (chunks : Chunks) (length : Nat) : Bytes :=
  chunks.buffer.take length

/--
Read the next piece into the buffer.  The reply tells how many octets at its front
are lent, or nothing when the sequence is finished.
-/
def lend? (chunks : Chunks) : Option (Except Fault Nat) × Chunks :=
  if chunks.finished then (none, chunks)
  else
    match chunks.inlet.readSome chunks.buffer.length with
    | (.ok [], rest) => (none, { chunks with inlet := rest, finished := true })
    | (.ok piece, rest) =>
        (some (.ok piece.length),
          { chunks with inlet := rest, buffer := overwritten piece chunks.buffer })
    | (.error error, rest) =>
        (some (.error (.host "read body" error)),
          { chunks with inlet := rest, finished := true })

/-- A copy of the next piece, or nothing when the sequence is finished. -/
def next? (chunks : Chunks) : Option (Except Fault Bytes) × Chunks :=
  match chunks.lend? with
  | (reply, after) => (reply.map (Except.map after.front), after)

end Chunks

end FileTransfer
