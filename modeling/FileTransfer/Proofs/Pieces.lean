import FileTransfer.Proofs.Sending
import FileTransfer.Proofs.Writes

namespace FileTransfer

/-!
# Sending as a sequence of buffers

How a source is cut into pieces does not depend on the stream that they are written
to.  A transfer is therefore its header and these pieces, written one after another
up to the first that fails, then the end of the source, and one flush
(`sendSource_eq`, `sendSourceTimed_eq`).
-/

/-!
## Pieces
-/

/-- The pieces in which a source is read, up to its end or failure. -/
def Inlet.pieces (room : Nat) (source : Inlet) : List Bytes :=
  match _ : source.readSome room with
  | (.ok (octet :: others), rest) => (octet :: others) :: pieces room rest
  | _ => []
termination_by source.weight
decreasing_by exact weight_readSome_ok ‹_› (by simp)

/-- What reading a source to its end comes to, for a reader that gives it a name. -/
def Inlet.Stop.reading (step : String) : Inlet.Stop → Except Fault Unit
  | .ended => .ok ()
  | .failed error => .error (.host step error)

namespace Inlet

theorem pieces_eq (room : Nat) (source : Inlet) :
    source.pieces room =
      match source.readSome room with
      | (.ok (octet :: others), rest) => (octet :: others) :: rest.pieces room
      | _ => [] := by
  rw [pieces]
  split
  case h_1 found => simp only [found]
  case h_2 other =>
    split
    case h_1 found => exact absurd found (other _ _ _)
    case h_2 => rfl

/-- The pieces of a source make up all that it delivers. -/
theorem flatten_pieces
    {room : Nat}
    (positive : 0 < room)
    (source : Inlet) :
    (source.pieces room).flatten = source.wire.bytes := by
  fun_induction pieces room source with
  | case1 source octet others rest reads ih =>
      obtain ⟨-, wire, -⟩ := readSome_piece positive reads (by simp)
      rw [wire, List.flatten_cons, ih, Wire.bytes_after]
  | case2 source nothing =>
      rcases reads : source.readSome room with ⟨error | piece, rest⟩
      · obtain ⟨wire, -⟩ := readSome_failed positive reads
        rw [wire, List.flatten_nil]
      · cases piece with
        | nil =>
            obtain ⟨wire, -⟩ := readSome_ended positive reads
            rw [wire, List.flatten_nil]
        | cons octet others => exact absurd reads (nothing octet others rest)

/-- A file is cut into the same pieces by every reader that fills the same buffer. -/
theorem Over.pieces_congr
    {limit other : Option Nat}
    {room : Nat}
    (sameRoom : capped limit room = capped other room)
    {content : Bytes}
    {first second : Inlet}
    (firstOver : first.Over limit content)
    (secondOver : second.Over other content) :
    first.pieces room = second.pieces room := by
  fun_induction pieces room first generalizing content second with
  | case1 first octet others rest reads ih =>
      obtain ⟨left, found, firstLeft⟩ := firstOver.readSome room
      obtain ⟨right, replied, secondLeft⟩ := secondOver.readSome room
      rw [reads] at found
      obtain ⟨piece, rfl⟩ := Prod.mk.inj found
      rw [← sameRoom, ← piece] at replied
      rw [← sameRoom] at secondLeft
      rw [pieces_eq room second, replied]
      simp only [ih firstLeft secondLeft]
  | case2 first nothing =>
      obtain ⟨left, found, -⟩ := firstOver.readSome room
      obtain ⟨right, replied, -⟩ := secondOver.readSome room
      rw [← sameRoom] at replied
      rw [pieces_eq room second, replied]
      cases piece : content.take (capped limit room) with
      | nil => rfl
      | cons octet others =>
          rw [piece] at found
          exact absurd found (nothing octet others left)

theorem pieces_ofBytes
    {most room : Nat}
    (fits : room ≤ most)
    (content : Bytes) :
    (ofBytes content (some most)).pieces room =
      (ofBytes content none).pieces room := by
  refine Over.pieces_congr ?_ (over_ofBytes _ content) (over_ofBytes _ content)
  simp [capped, fits]

end Inlet

/-- A content that fits into one buffer is one piece. -/
theorem Inlet.pieces_of_fits
    {limit : Option Nat}
    {room : Nat}
    {content : Bytes}
    (fits : content.length ≤ capped limit room)
    (nonempty : content ≠ []) :
    (ofBytes content limit).pieces room = [content] := by
  obtain ⟨rest, reads, exhausted⟩ := (over_ofBytes limit content).readSome room
  rw [List.take_of_length_le fits] at reads
  rw [List.drop_eq_nil_iff.mpr fits] at exhausted
  obtain ⟨last, ends, -⟩ := exhausted.readSome room
  rw [List.take_nil] at ends
  obtain ⟨octet, others, rfl⟩ := List.exists_cons_of_ne_nil nonempty
  rw [pieces_eq, reads]
  simp only [pieces_eq room rest, ends]

/-- A directory has no piece. -/
theorem Entry.pieces_directory (limit : Option Nat) (room : Nat) :
    (inlet limit .directory).pieces room = [] := by
  rw [Inlet.pieces_eq, Inlet.readSome_eq]
  rfl

/-!
## One buffer after another
-/

section

variable {α σ : Type}

/-- Write some buffers one after another, up to the first one that fails. -/
def inTurn
    (write : α → σ → Except Fault Unit × σ) :
    List α → σ → Except Fault Unit × σ
  | [], state => (.ok (), state)
  | buffer :: more, state =>
      match write buffer state with
      | (.error fault, after) => (.error fault, after)
      | (.ok (), after) => inTurn write more after

/--
Write some buffers one after another, and then flush once, unless reading what
was to be written ended with a fault.
-/
def transmit
    (write : α → σ → Except Fault Unit × σ)
    (flush : σ → Except HostError Unit × σ)
    (buffers : List α)
    (reading : Except Fault Unit)
    (receipt : Receipt)
    (state : σ) :
    Except Fault Receipt × σ :=
  match inTurn write buffers state with
  | (.error fault, after) => (.error fault, after)
  | (.ok (), after) =>
      match reading with
      | .error fault => (.error fault, after)
      | .ok () =>
          match flush after with
          | (.error error, flushed) => (.error (.host "flush" error), flushed)
          | (.ok (), flushed) => (.ok receipt, flushed)

end

/-!
## Sending
-/

/-- Moving content is writing its pieces in turn, and then what reading it ended with. -/
theorem sendBody_eq
    {room : Nat}
    (positive : 0 < room)
    (source : Inlet)
    (tally : Tally)
    (outlet : Outlet) :
    let run := sendBody room source tally outlet
    (run.1.1, run.2) =
      match inTurn Outlet.writeAll (source.pieces room) outlet with
      | (.error fault, after) => (.error fault, after)
      | (.ok (), after) => (source.wire.stop.reading "read body", after) := by
  fun_induction sendBody room source tally outlet with
  | case1 source tally outlet error rest reads =>
      obtain ⟨wire, -⟩ := Inlet.readSome_failed positive reads
      rw [Inlet.pieces_eq, reads, wire]
      rfl
  | case2 source tally outlet rest reads =>
      obtain ⟨wire, -⟩ := Inlet.readSome_ended positive reads
      rw [Inlet.pieces_eq, reads, wire]
      rfl
  | case3 source tally outlet octet others rest reads fault after writes =>
      rw [Inlet.pieces_eq, reads]
      simp only [inTurn, writes]
  | case4 source tally outlet octet others rest reads after writes ih =>
      obtain ⟨-, wire, -⟩ := Inlet.readSome_piece positive reads (by simp)
      rw [Inlet.pieces_eq, reads, wire]
      simp only [inTurn, writes]
      exact ih

/-- Sending a source is transmitting its header and its pieces. -/
theorem sendSource_eq
    (options : TransferOptions)
    (path : Path)
    (source : Source)
    (outlet : Outlet) :
    sendSource options path source outlet =
      transmit Outlet.writeAll Outlet.flush
        (source.header :: source.inlet.pieces options.room)
        (source.inlet.wire.stop.reading "read body")
        (.ofContent .client options.digesting source.name path ⟨0, 0⟩
          source.inlet.wire.bytes)
        outlet := by
  have positive : 0 < options.room := Limits.room_pos options.chunkSize
  unfold sendSource transmit
  rcases header : outlet.writeAll source.header with ⟨fault | done, after⟩
  · simp only [inTurn, header]
  rcases body : sendBody options.room source.inlet (.start options.digesting) after
    with ⟨⟨ended, counted⟩, last⟩
  have moves := sendBody_eq positive source.inlet (.start options.digesting) after
  obtain ⟨-, extended⟩ := sendBody_accepted positive body
  simp only [inTurn, header, body] at moves ⊢
  rcases written : inTurn Outlet.writeAll (source.inlet.pieces options.room) after
    with ⟨fault | done, final⟩
  · rw [written] at moves
    cases moves
    rfl
  · rw [written] at moves
    obtain ⟨rfl, rfl⟩ := Prod.mk.inj moves
    cases read : source.inlet.wire.stop.reading "read body" with
    | error fault => rfl
    | ok done =>
        simp only [Tally.finish_of_extended (extended read)]
        rcases last.flush with ⟨error | done, flushed⟩ <;> rfl

/-- Write a buffer within the deadline of its length, as a step of some name. -/
def TimedOutlet.writeStep
    (named : String × Bytes)
    (outlet : TimedOutlet) :
    Except Fault Unit × TimedOutlet :=
  outlet.writeWithin named.1 named.2

/-- The buffers of a source under the names of the steps that write them. -/
def Source.steps (room : Nat) (source : Source) : List (String × Bytes) :=
  ("write header", source.header) ::
    (source.inlet.pieces room).map (Prod.mk "write body")

theorem Source.buffers_steps (room : Nat) (source : Source) :
    (source.steps room).map Prod.snd = source.header :: source.inlet.pieces room := by
  simp [steps, Function.comp_def]

/-- Moving content under deadlines is writing its pieces in turn as well. -/
theorem sendBodyTimed_pieces
    {room : Nat}
    (positive : 0 < room)
    (source : Inlet)
    (tally : Tally)
    (outlet : TimedOutlet) :
    let run := sendBodyTimed room source tally outlet
    (run.1.1, run.2) =
      match
        inTurn TimedOutlet.writeStep
          ((source.pieces room).map (Prod.mk "write body")) outlet
      with
      | (.error fault, after) => (.error fault, after)
      | (.ok (), after) =>
          (source.wire.stop.reading "read source file", after) := by
  fun_induction sendBodyTimed room source tally outlet with
  | case1 source tally outlet error rest reads =>
      obtain ⟨wire, -⟩ := Inlet.readSome_failed positive reads
      rw [Inlet.pieces_eq, reads, wire]
      rfl
  | case2 source tally outlet rest reads =>
      obtain ⟨wire, -⟩ := Inlet.readSome_ended positive reads
      rw [Inlet.pieces_eq, reads, wire]
      rfl
  | case3 source tally outlet octet others rest reads fault after writes =>
      rw [Inlet.pieces_eq, reads]
      simp only [List.map_cons, inTurn, TimedOutlet.writeStep, writes]
  | case4 source tally outlet octet others rest reads after writes ih =>
      obtain ⟨-, wire, -⟩ := Inlet.readSome_piece positive reads (by simp)
      rw [Inlet.pieces_eq, reads, wire]
      simp only [List.map_cons, inTurn, TimedOutlet.writeStep, writes]
      exact ih

/-- Sending a source under deadlines is transmitting its header and its pieces. -/
theorem sendSourceTimed_eq
    (options : TransferOptions)
    (path : Path)
    (source : Source)
    (outlet : TimedOutlet) :
    let run := sendSourceTimed options path source outlet
    (run.1.map Receipt.untimed, run.2) =
      transmit TimedOutlet.writeStep TimedOutlet.flush
        (source.steps options.room)
        (source.inlet.wire.stop.reading "read source file")
        (.ofContent .client options.digesting source.name path ⟨0, 0⟩
          source.inlet.wire.bytes)
        outlet := by
  have positive : 0 < options.room := Limits.room_pos options.chunkSize
  unfold sendSourceTimed transmit Source.steps
  rcases header : outlet.writeWithin "write header" source.header with ⟨fault | done, after⟩
  · simp only [inTurn, TimedOutlet.writeStep, header]
    rfl
  rcases body : sendBodyTimed options.room source.inlet (.start options.digesting) after
    with ⟨⟨ended, counted⟩, last⟩
  have moves :=
    sendBodyTimed_pieces positive source.inlet (.start options.digesting) after
  obtain ⟨-, extended⟩ := sendBodyTimed_accepted positive body
  have first : outlet.writeStep ("write header", source.header) = (.ok done, after) :=
    header
  simp only [inTurn, first, body] at moves ⊢
  rcases written :
      inTurn TimedOutlet.writeStep
        ((source.inlet.pieces options.room).map (Prod.mk "write body")) after
    with ⟨fault | done, final⟩
  · rw [written] at moves
    cases moves
    rfl
  · rw [written] at moves
    obtain ⟨rfl, rfl⟩ := Prod.mk.inj moves
    cases read : source.inlet.wire.stop.reading "read source file" with
    | error fault => rfl
    | ok done =>
        simp only [Tally.finish_of_extended (extended read)]
        rcases last.flush with ⟨error | done, flushed⟩ <;> rfl

end FileTransfer
