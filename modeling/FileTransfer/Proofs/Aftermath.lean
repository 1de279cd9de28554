import FileTransfer.Proofs.EndToEnd

namespace FileTransfer

/-!
# What a session leaves behind

A session may be refused, fail, or run out of time at any point.  However it
ends, it leaves one of two things behind (`Receiver.receive_cases`).  If it
opened no output, the files are what they were before.  If it opened one, then
its stream carried a valid name, the output is the one of that name, and what
the output holds is a front of the content that followed the name.  No deadline
has to be kept for this; a regular file then holds what came in time
(`Receiver.receive_taken`).  A session that does keep its deadlines is refused by
the name that its stream carries, if that opens no output
(`Receiver.receive_of_refused`).
-/

/-- A length field is what its number is written as. -/
theorem Bytes.ofNat16_toNat
    {field : Bytes}
    (two : field.length = 2) :
    ofNat16 (toNat field) = field := by
  obtain ⟨high, low, rfl⟩ := List.length_eq_two.mp two
  have highOctet : (high.toNat * 256 + low.toNat) / 256 = high.toNat := by
    have bound := low.toNat_lt
    omega
  have lowOctet : (high.toNat * 256 + low.toNat) % 256 = low.toNat := by
    have bound := low.toNat_lt
    omega
  simp [toNat, ofNat16, highOctet, lowOctet]

/-- A stream delivers the header of a name, and then some content. -/
structure Wire.Carries (wire : Wire) (raw content : Bytes) : Prop where
  bytes : wire.bytes = Bytes.ofNat16 raw.length ++ raw ++ content
  nonempty : raw ≠ []
  short : raw.length ≤ 255

/-- A name that was read is the one that the stream carries. -/
theorem Inlet.readName_carries
    {inlet rest : Inlet}
    {raw : Bytes}
    (named : inlet.readName = (.ok raw, rest)) :
    inlet.wire.Carries raw rest.wire.bytes ∧ rest.wire.stop = inlet.wire.stop ∧
      rest.consumed = inlet.consumed + (2 + raw.length) := by
  obtain ⟨enough, shape⟩ := readName_ok (congrArg Prod.fst named)
  generalize announced : Bytes.toNat (inlet.wire.bytes.take 2) = length at enough shape
  have allowed : 1 ≤ length ∧ length ≤ 255 := by
    by_contra outside
    obtain ⟨after, refuses, -⟩ :=
      readName_malformed announced (by omega) (by omega)
    rw [named] at refuses
    cases refuses
  obtain ⟨after, reads, further, counted⟩ := readName_whole announced allowed enough
  rw [named] at reads
  obtain rfl : rest = after := (Prod.mk.inj reads).2
  have size : raw.length = length := by
    rw [shape, List.length_take, List.length_drop]
    omega
  have field : inlet.wire.bytes.take 2 = Bytes.ofNat16 raw.length := by
    rw [size, ← announced, Bytes.ofNat16_toNat]
    rw [List.length_take]
    omega
  refine ⟨⟨?_, List.ne_nil_of_length_pos (by omega), by omega⟩, by rw [further]; rfl,
    by rw [counted, size]⟩
  calc
    inlet.wire.bytes = inlet.wire.bytes.take 2 ++ inlet.wire.bytes.drop 2 :=
      (List.take_append_drop 2 _).symm
    _ = inlet.wire.bytes.take 2 ++
          ((inlet.wire.bytes.drop 2).take length ++
            (inlet.wire.bytes.drop 2).drop length) := by
      rw [List.take_append_drop length]
    _ = Bytes.ofNat16 raw.length ++ raw ++ rest.wire.bytes := by
      rw [field, ← shape, List.drop_drop, further, List.append_assoc]
      rfl

/-- The name that a stream carries is read. -/
theorem Inlet.readName_of_carries
    {inlet : Inlet}
    {raw content : Bytes}
    (carries : inlet.wire.Carries raw content) :
    ∃ rest, inlet.readName = (.ok raw, rest) := by
  rcases carries with ⟨bytes, nonempty, short⟩
  have given := List.length_pos_iff.mpr nonempty
  have field : (Bytes.ofNat16 raw.length).length = 2 := rfl
  have announced : Bytes.toNat (inlet.wire.bytes.take 2) = raw.length := by
    rw [bytes, List.append_assoc, ← field, List.take_left, Bytes.toNat_ofNat16 (by omega)]
  have enough : 2 + raw.length ≤ inlet.wire.bytes.length := by
    rw [bytes, List.length_append, List.length_append, field]
    omega
  obtain ⟨rest, reads, -⟩ := readName_whole announced ⟨given, short⟩ enough
  refine ⟨rest, ?_⟩
  rw [reads, bytes, List.append_assoc, ← field, List.drop_left, List.take_left]

namespace TimedInlet

/-- What is delivered within a deadline is delivered without one. -/
theorem ok_of_within
    {β : Type}
    {operation :
      Option Nat → TimedInlet → Option (Except Fault β) × TimedInlet}
    (punctual : Punctual operation)
    {step : String}
    {milliseconds : Nat}
    {inlet rest : TimedInlet}
    {value : β}
    (delivered :
      within step milliseconds TimedInlet.clock operation inlet = (.ok value, rest)) :
    operation none inlet = (some (.ok value), rest) := by
  unfold within at delivered
  split at delivered
  case h_1 reply after completed =>
    cases delivered
    exact (punctual.sound (by omega) completed).1
  case h_2 => cases delivered

theorem readField_ok
    {step : String}
    {milliseconds length : Nat}
    {inlet rest : TimedInlet}
    {field : Bytes}
    (delivered : inlet.readField step milliseconds length = (.ok field, rest)) :
    inlet.untimed.readExact length = (.ok field, rest.untimed) :=
  (patient_readExact length (ok_of_within (punctual_readExact length) delivered)).1

theorem readBody_ok
    {milliseconds room : Nat}
    {inlet rest : TimedInlet}
    {piece : Bytes}
    (delivered : inlet.readBody milliseconds room = (.ok piece, rest)) :
    inlet.untimed.readSome room = (.ok piece, rest.untimed) := by
  have completed := ok_of_within (punctual_readBody room) delivered
  simp only [Prod.mk.injEq, Option.map_eq_some_iff] at completed
  rcases completed with ⟨⟨reply, replied, shown⟩, rfl⟩
  cases reply with
  | error error => cases shown
  | ok octets =>
      cases shown
      exact (patient_readSome room (Prod.ext replied rfl)).1

/-- A name that is read within its deadlines is read without them. -/
theorem readName_untimed
    {milliseconds : Nat}
    {inlet rest : TimedInlet}
    {raw : Bytes}
    (named : inlet.readName milliseconds = (.ok raw, rest)) :
    inlet.untimed.readName = (.ok raw, rest.untimed) := by
  unfold readName at named
  split at named
  case h_1 => cases named
  case h_2 field middle reads =>
    split at named
    case h_1 => cases named
    case h_2 length announced =>
      split at named
      case h_1 => cases named
      case h_2 octets last names =>
        cases named
        simp [Inlet.readName, readField_ok reads, announced, readField_ok names]

/-- A name that is not read ends a session in one of its first two phases. -/
theorem readName_phase
    {milliseconds : Nat}
    {inlet rest : TimedInlet}
    {aborted : Abort}
    (refused : inlet.readName milliseconds = (.error aborted, rest)) :
    aborted.phase = .awaitHeaderLength ∨ aborted.phase = .awaitFilename := by
  unfold readName at refused
  split at refused
  case h_1 =>
    cases refused
    exact .inl rfl
  case h_2 =>
    split at refused
    case h_1 =>
      cases refused
      exact .inl rfl
    case h_2 =>
      split at refused
      case h_1 =>
        cases refused
        exact .inr rfl
      case h_2 => cases refused

end TimedInlet

theorem Inlet.readName_phase
    {inlet rest : Inlet}
    {aborted : Abort}
    (refused : inlet.readName = (.error aborted, rest)) :
    aborted.phase = .awaitHeaderLength ∨ aborted.phase = .awaitFilename := by
  unfold readName at refused
  split at refused
  case h_1 =>
    cases refused
    exact .inl rfl
  case h_2 =>
    split at refused
    case h_1 =>
      cases refused
      exact .inl rfl
    case h_2 =>
      split at refused
      case h_1 =>
        cases refused
        exact .inr rfl
      case h_2 => cases refused

/-!
## Content
-/

/--
What was moved of the content of a stream: a front of it, and all of it up to
the end of the stream if nothing went wrong.
-/
structure Moved
    (wire : Wire)
    (ended : Except Fault Unit)
    (tally counted : Tally)
    (content : Bytes) :
    Prop where
  counted : Tally.Extended tally content counted
  front : content <+: wire.bytes
  whole : ended = .ok () → wire = ⟨content, .ended⟩

namespace Moved

theorem failed
    (wire : Wire)
    (fault : Fault)
    (tally : Tally) :
    Moved wire (.error fault) tally tally [] :=
  ⟨.refl tally, List.nil_prefix, by simp⟩

theorem finished
    {wire : Wire}
    (nothing : wire = .stopped .ended)
    (ended : Except Fault Unit)
    (tally : Tally) :
    Moved wire ended tally tally [] :=
  ⟨.refl tally, List.nil_prefix, fun _ => nothing⟩

theorem record
    {wire rest : Wire}
    {ended : Except Fault Unit}
    {tally counted : Tally}
    {piece content : Bytes}
    (delivers : wire = rest.after piece)
    (later : Moved rest ended (tally.record piece) counted content) :
    Moved wire ended tally counted (piece ++ content) where
  counted := (Tally.Extended.record piece tally).trans later.counted
  front := by
    rw [delivers, Wire.bytes_after]
    exact (List.prefix_append_right_inj piece).mpr later.front
  whole := by
    intro wellDone
    rw [delivers, later.whole wellDone]
    rfl

end Moved

theorem receiveBody_moved
    {room : Nat}
    {sink : Sink}
    {tally counted : Tally}
    {inlet last : Inlet}
    {ended : Except Fault Unit}
    (positive : 0 < room)
    (received : receiveBody room sink tally inlet = ((ended, counted), last)) :
    ∃ content, Moved inlet.wire ended tally counted content := by
  fun_induction receiveBody room sink tally inlet with
  | case1 tally inlet error rest reads =>
      cases received
      exact ⟨[], .failed _ _ _⟩
  | case2 tally inlet rest reads =>
      cases received
      obtain ⟨nothing, -⟩ := Inlet.readSome_ended positive reads
      exact ⟨[], .finished nothing _ _⟩
  | case3 tally inlet octet others rest reads error refused =>
      cases received
      exact ⟨[], .failed _ _ _⟩
  | case4 tally inlet octet others rest reads accepted ih =>
      obtain ⟨-, delivers, -⟩ := Inlet.readSome_piece positive reads (by simp)
      obtain ⟨content, moved⟩ := ih received
      exact ⟨_, moved.record delivers⟩

/-- Content is moved in order, whether or not time suffices for all of it. -/
theorem receiveBodyTimed_moved
    {milliseconds room : Nat}
    {sink : Sink}
    {owed : Option HostError}
    {tally counted : Tally}
    {inlet last : TimedInlet}
    {ended : Except Fault Unit}
    (positive : 0 < room)
    (received :
      receiveBodyTimed milliseconds room sink owed tally inlet =
        ((ended, counted), last)) :
    ∃ content, Moved inlet.untimed.wire ended tally counted content := by
  fun_induction receiveBodyTimed milliseconds room sink owed tally inlet with
  | case1 owed tally inlet fault rest reads =>
      cases received
      exact ⟨[], .failed _ _ _⟩
  | case2 tally inlet rest error reads =>
      cases received
      exact ⟨[], .failed _ _ _⟩
  | case3 tally inlet rest reads =>
      cases received
      obtain ⟨nothing, -⟩ :=
        Inlet.readSome_ended positive (TimedInlet.readBody_ok reads)
      exact ⟨[], .finished nothing _ _⟩
  | case4 owed tally inlet octet others rest reads error refused =>
      cases received
      exact ⟨[], .failed _ _ _⟩
  | case5 owed tally inlet octet others rest reads debt accepted ih =>
      obtain ⟨-, delivers, -⟩ :=
        Inlet.readSome_piece positive (TimedInlet.readBody_ok reads) (by simp)
      obtain ⟨content, moved⟩ := ih received
      exact ⟨_, moved.record delivers⟩

/-!
## What was taken from the stream
-/

namespace TimedInlet

/-- A read that delivers nothing takes nothing, whether or not it completes. -/
theorem consumed_read?
    {latest : Option Nat}
    {room : Nat}
    {inlet rest : TimedInlet}
    {reply : Option (Except HostError Bytes)}
    (read : inlet.read? latest room = (reply, rest))
    (nothing : ∀ piece, reply ≠ some (.ok piece)) :
    rest.consumed = inlet.consumed := by
  unfold read? at read
  split at read
  case h_1 =>
    cases read
    rfl
  case h_2 answer moment later found =>
    cases read
    cases answer with
    | error error => rfl
    | ok piece => exact absurd rfl (nothing piece)

theorem consumed_readSome?
    {latest : Option Nat}
    {room : Nat}
    {inlet rest : TimedInlet}
    {reply : Option (Except HostError Bytes)}
    (read : inlet.readSome? latest room = (reply, rest))
    (nothing : ∀ piece, reply ≠ some (.ok piece)) :
    rest.consumed = inlet.consumed := by
  fun_induction readSome? latest room inlet with
  | case1 inlet after reads =>
      cases read
      exact consumed_read? reads (by simp)
  | case2 inlet piece after reads =>
      cases read
      exact absurd rfl (nothing piece)
  | case3 inlet error after reads interrupted ih =>
      exact (ih read).trans (consumed_read? reads (by simp))
  | case4 inlet error after reads final =>
      cases read
      exact consumed_read? reads (by simp)

/-- Content that fails to come, or comes too late, is not taken from the stream. -/
theorem consumed_readBody
    {milliseconds room : Nat}
    {inlet rest : TimedInlet}
    {fault : Fault}
    (failed : inlet.readBody milliseconds room = (.error fault, rest)) :
    rest.consumed = inlet.consumed := by
  unfold readBody within at failed
  rcases reads : inlet.readSome? (some (inlet.clock + milliseconds)) room with
    ⟨_ | _ | piece, after⟩
  · simp only [reads, Option.map_none] at failed
    cases failed
    exact consumed_readSome? reads (by simp)
  · simp only [reads, Option.map_some] at failed
    cases failed
    exact consumed_readSome? reads (by simp)
  · simp [reads, Fault.during, Except.mapError] at failed

end TimedInlet

/-- A regular file gets all content that a session takes from its stream. -/
theorem receiveBodyTimed_consumed
    {milliseconds room : Nat}
    {location : Location}
    {sink : Sink}
    {owed : Option HostError}
    {tally counted : Tally}
    {inlet last : TimedInlet}
    {ended : Except Fault Unit}
    (positive : 0 < room)
    (isFile : sink = .file location)
    (clear : owed = none)
    (received :
      receiveBodyTimed milliseconds room sink owed tally inlet =
        ((ended, counted), last)) :
    last.consumed + tally.content.length = inlet.consumed + counted.content.length := by
  fun_induction receiveBodyTimed milliseconds room sink owed tally inlet with
  | case1 owed tally inlet fault rest reads =>
      cases received
      rw [TimedInlet.consumed_readBody reads]
  | case2 tally inlet rest error reads => cases clear
  | case3 tally inlet rest reads =>
      cases received
      obtain ⟨-, consumed⟩ :=
        Inlet.readSome_ended positive (TimedInlet.readBody_ok reads)
      exact congrArg (· + counted.content.length) consumed
  | case4 owed tally inlet octet others rest reads error refused =>
      simp [isFile, clear, Sink.writeBehind, Sink.refusal?] at refused
  | case5 owed tally inlet octet others rest reads debt accepted ih =>
      have paid : debt = none := by
        simpa [isFile, clear, Sink.writeBehind, Sink.refusal?, eq_comm] using accepted
      obtain ⟨-, -, consumed⟩ :=
        Inlet.readSome_piece positive (TimedInlet.readBody_ok reads) (by simp)
      change rest.consumed = inlet.consumed + _ at consumed
      have further := ih paid received
      rw [Tally.content_record, List.length_append] at further
      omega

/-!
## Session
-/

/-- An output that was opened is the one of a valid name below the directory. -/
theorem Output.of_open?
    {directory : Path}
    {tree opened : FileTree}
    {raw : Bytes}
    {output : Output}
    (opens : Output.open? directory tree raw = .ok (output, opened)) :
    Filename.validate raw = .ok output.name ∧
      output.path = Path.join directory raw ∧
      tree.create (Path.join directory raw) = .ok (output.sink, opened) := by
  unfold Output.open? Filename.place at opens
  cases validated : Filename.validate raw with
  | error fault => simp [validated, Except.map] at opens
  | ok name =>
      cases created : tree.create (Path.join directory raw) with
      | error error => simp [validated, Except.map, created] at opens
      | ok answer =>
          simp only [validated, Except.map, created] at opens
          cases opens
          exact ⟨rfl, rfl, rfl⟩

/-- A session without an output ends in the phase of the name or of the output. -/
theorem Output.open?_phase
    {directory : Path}
    {tree : FileTree}
    {raw : Bytes}
    {aborted : Abort}
    (refused : Output.open? directory tree raw = .error aborted) :
    aborted.phase = .validateFilename ∨ aborted.phase = .openOutput := by
  unfold Output.open? at refused
  split at refused
  case h_1 =>
    cases refused
    exact .inl rfl
  case h_2 =>
    split at refused
    case h_1 =>
      cases refused
      exact .inr rfl
    case h_2 => cases refused

/-- A session that ended before it opened an output. -/
structure Reception.Refused (tree : FileTree) (reception : Reception) : Prop where
  outcome :
    ∃ aborted, reception.outcome = .error aborted ∧
      aborted.phase ≠ .receiveBody ∧ aborted.phase ≠ .done
  unchanged : reception.tree = tree

theorem Reception.Refused.of_header
    {tree : FileTree}
    {aborted : Abort}
    (early : aborted.phase = .awaitHeaderLength ∨ aborted.phase = .awaitFilename) :
    Refused tree ⟨.error aborted, tree⟩ :=
  ⟨⟨aborted, rfl, by rcases early with same | same <;> simp [same]⟩, rfl⟩

theorem Reception.Refused.of_output
    {tree : FileTree}
    {aborted : Abort}
    (unopened : aborted.phase = .validateFilename ∨ aborted.phase = .openOutput) :
    Refused tree ⟨.error aborted, tree⟩ :=
  ⟨⟨aborted, rfl, by rcases unopened with same | same <;> simp [same]⟩, rfl⟩

/--
A session that opened an output for the name that its stream carried.  The
output holds a front of what followed the name, and all of it if the session
gives an account.
-/
structure Reception.Opened
    (digesting : Bool)
    (directory : Path)
    (tree : FileTree)
    (wire : Wire)
    (reception : Reception)
    (raw : Bytes)
    (name : String)
    (sink : Sink)
    (content : Bytes) :
    Prop where
  valid : Filename.validate raw = .ok name
  opens : ∃ opened, tree.create (Path.join directory raw) = .ok (sink, opened)
  carries : ∃ missed, wire.Carries raw (content ++ missed)
  stored : reception.tree = tree.store sink content
  aborted :
    ∀ aborted, reception.outcome = .error aborted → aborted.phase = .receiveBody
  completed :
    ∀ receipt, reception.outcome = .ok receipt →
      wire.Carries raw content ∧
        receipt.untimed =
          .ofContent .server digesting name (Path.join directory raw) ⟨0, 0⟩ content

/-- A session that moved content into an output it opened, and closed it. -/
theorem Output.opened_of_moved
    {digesting : Bool}
    {directory : Path}
    {tree opened : FileTree}
    {wire rest : Wire}
    {raw content : Bytes}
    {output : Output}
    {ended : Except Fault Unit}
    {counted : Tally}
    (carries : wire.Carries raw rest.bytes)
    (opens : Output.open? directory tree raw = .ok (output, opened))
    (moved : Moved rest ended (.start digesting) counted content)
    (elapsed : Elapsed) :
    (output.close elapsed opened ended counted).Opened digesting directory tree wire
      raw output.name output.sink content := by
  obtain ⟨valid, place, created⟩ := Output.of_open? opens
  obtain ⟨missed, all⟩ := moved.front
  have gathered : counted.content = content := by
    simpa [Tally.content_start] using moved.counted.content
  refine ⟨valid, ⟨opened, created⟩, ⟨missed, by rw [all]; exact carries⟩, ?_, ?_, ?_⟩
  · simp only [close, gathered]
    exact FileTree.store_of_create created content
  · intro aborted fails
    cases ended with
    | error fault =>
        cases fails
        rfl
    | ok done => cases fails
  · intro receipt succeeds
    cases ended with
    | error fault => cases succeeds
    | ok done =>
        cases succeeds
        have whole := moved.whole rfl
        refine ⟨by rw [whole] at carries; exact carries, ?_⟩
        rw [Tally.finish_of_extended moved.counted, place]
        rfl

namespace Receiver

/-- What a session leaves of its stream. -/
def remainder
    (options : TransferOptions)
    (directory : Path)
    (tree : FileTree) :
    Receiver → Receiver
  | .blocking inlet => .blocking (receiveFile options directory tree inlet).2
  | .timed readDeadline inlet =>
      .timed readDeadline
        (receiveFileTimed options readDeadline directory tree inlet).2

/-- The number of octets that were read from the stream of a receiver so far. -/
def consumed : Receiver → Nat
  | .blocking inlet => inlet.consumed
  | .timed _ inlet => inlet.consumed

/-- The content that came to a receiver before an operation missed its deadline. -/
def CutShort
    (options : TransferOptions)
    (directory : Path)
    (tree : FileTree)
    (content : Bytes) :
    Receiver → Prop
  | .blocking _ => False
  | .timed readDeadline inlet =>
      ∃ field name pieces late after,
        inlet.operations options.room directory tree =
            field :: name :: pieces ++ late :: after ∧
          (∀ operation ∈ field :: name :: pieces,
            operation.InTime readDeadline options.room) ∧
          ¬late.InTime readDeadline options.room ∧
          content = Operation.delivered pieces

/--
A regular file gets what is taken from the stream after the name.  This is all content
of the stream if every operation is in time, and otherwise what came before.
-/
theorem content_of_received
    {options : TransferOptions}
    {readDeadline : Option Nat}
    {directory : Path}
    {tree : FileTree}
    {inlet rest last : TimedInlet}
    {raw : Bytes}
    {opening : Output × FileTree}
    {location : Location}
    {tally counted : Tally}
    {ended : Except Fault Unit}
    (named : inlet.readName (headerAllowance readDeadline) = (.ok raw, rest))
    (opens : Output.open? directory tree raw = .ok opening)
    (received :
      receiveBodyTimed (bodyAllowance readDeadline options.room) options.room
        (.file location) none tally rest = ((ended, counted), last)) :
    let receiver := Receiver.timed readDeadline inlet
    ∃ content, Tally.Extended tally content counted ∧
      last.consumed = rest.consumed + content.length ∧
      (receiver.InTime options directory tree → content = rest.untimed.wire.bytes) ∧
      (¬receiver.InTime options directory tree →
        receiver.CutShort options directory tree content) := by
  intro receiver
  have taken
      {content : Bytes}
      (extended : Tally.Extended tally content counted) :
      last.consumed = rest.consumed + content.length := by
    have body := receiveBodyTimed_consumed (Limits.room_pos _) rfl rfl received
    rw [extended.content, List.length_append] at body
    omega
  by_cases inTime : receiver.InTime options directory tree
  · obtain ⟨answer, after, header, reads, -, -, -, shape⟩ :=
      TimedInlet.readName_in_time inTime
    rw [named] at reads
    cases reads
    simp only [TimedInlet.outputOperations, opens] at shape
    obtain ⟨answer, final, timed, instant, -⟩ :=
      receiveBodyTimed_in_time
        (fun operation member =>
          inTime operation (by rw [shape]; exact List.mem_append_right _ member))
        location tally
    change receiveBodyTimed (bodyAllowance readDeadline options.room) _ _ _ _ _ = _
      at timed
    rw [received] at timed
    cases timed
    obtain ⟨extended, -⟩ := receiveBody_file (Limits.room_pos _) instant
    exact ⟨_, extended, taken extended, fun _ => rfl, fun isLate => absurd inTime isLate⟩
  · obtain ⟨before, late, after, shape, early, isLate⟩ :=
      exists_first_without inTime
    obtain ⟨-, -, next, refuses, -⟩ | ⟨field, name, pieces, next, rfl, reads, -, follow⟩ :=
      TimedInlet.readName_late shape early isLate
    · rw [named] at refuses
      cases refuses
    · rw [named] at reads
      cases reads
      simp only [TimedInlet.outputOperations, opens] at follow
      obtain ⟨others, final, timed, extended, -⟩ :=
        receiveBodyTimed_late follow
          (fun operation member =>
            early operation (List.mem_cons_of_mem _ (List.mem_cons_of_mem _ member)))
          isLate location tally
      change receiveBodyTimed (bodyAllowance readDeadline options.room) _ _ _ _ _ = _
        at timed
      rw [received] at timed
      cases timed
      exact ⟨_, extended, taken extended, fun kept => absurd kept inTime, fun _ =>
        ⟨field, name, pieces, late, after, shape, early, isLate, rfl⟩⟩

/--
A session changes nothing, or stores content in the one output that it opened.  A
regular file gets all that the session took from its stream after the name, and
this is all content of the stream, unless an operation missed its deadline.
-/
theorem receive_taken
    (options : TransferOptions)
    (directory : Path)
    (tree : FileTree)
    (receiver : Receiver) :
    let reception := receiver.receive options directory tree
    let rest := receiver.remainder options directory tree
    reception.Refused tree ∨
      ∃ raw name sink content,
        reception.Opened options.digesting directory tree receiver.wire raw name
            sink content ∧
          ∀ location, sink = .file location →
            rest.consumed = receiver.consumed + (2 + raw.length + content.length) ∧
              (receiver.InTime options directory tree →
                receiver.wire.Carries raw content) ∧
              (¬receiver.InTime options directory tree →
                receiver.CutShort options directory tree content) := by
  cases receiver with
  | blocking inlet =>
      simp only [receive, remainder, consumed, receiveFile]
      rcases named : inlet.readName with ⟨aborted | raw, rest⟩
      · exact .inl (.of_header (Inlet.readName_phase named))
      · obtain ⟨carries, -, header⟩ := Inlet.readName_carries named
        simp only
        rcases opens : Output.open? directory tree raw with aborted | ⟨output, opened⟩
        · exact .inl (.of_output (Output.open?_phase opens))
        · simp only
          rcases received : receiveBody options.room output.sink
            (.start options.digesting) rest with ⟨⟨ended, counted⟩, last⟩
          obtain ⟨content, moved⟩ := receiveBody_moved (Limits.room_pos _) received
          refine .inr ⟨raw, _, _, content,
            Output.opened_of_moved carries opens moved ⟨0, 0⟩, ?_⟩
          intro location isFile
          rw [isFile] at received
          obtain ⟨extended, -, exhausted⟩ := receiveBody_file (Limits.room_pos _) received
          obtain rfl := moved.counted.unique extended
          simp only
          exact ⟨by omega, fun _ => carries, fun isLate => absurd trivial isLate⟩
  | timed readDeadline inlet =>
      simp only [receive, remainder, consumed, receiveFileTimed]
      rcases named : inlet.readName (headerAllowance readDeadline) with
        ⟨aborted | raw, rest⟩
      · exact .inl (.of_header (TimedInlet.readName_phase named))
      · obtain ⟨carries, -, header⟩ :=
          Inlet.readName_carries (TimedInlet.readName_untimed named)
        change rest.consumed = inlet.consumed + _ at header
        simp only
        rcases opens : Output.open? directory tree raw with aborted | ⟨output, opened⟩
        · exact .inl (.of_output (Output.open?_phase opens))
        · simp only
          rcases received :
            receiveBodyTimed (bodyAllowance readDeadline options.room) options.room
              output.sink none (.start options.digesting) rest with
            ⟨⟨ended, counted⟩, last⟩
          obtain ⟨content, moved⟩ :=
            receiveBodyTimed_moved (Limits.room_pos _) received
          refine .inr ⟨raw, _, _, content,
            Output.opened_of_moved carries opens moved _, ?_⟩
          intro location isFile
          rw [isFile] at received
          obtain ⟨given, extended, taken, entire, cutShort⟩ :=
            content_of_received named opens received
          obtain rfl := moved.counted.unique extended
          simp only
          exact ⟨by omega, fun inTime => by rw [entire inTime]; exact carries, cutShort⟩

/-- A session changes nothing, or stores content in the one output that it opened. -/
theorem receive_cases
    (options : TransferOptions)
    (directory : Path)
    (tree : FileTree)
    (receiver : Receiver) :
    let reception := receiver.receive options directory tree
    reception.Refused tree ∨
      ∃ raw name sink content,
        reception.Opened options.digesting directory tree receiver.wire raw name
          sink content := by
  obtain refused | ⟨raw, name, sink, content, opened, -⟩ :=
    receiver.receive_taken options directory tree
  · exact .inl refused
  · exact .inr ⟨raw, name, sink, content, opened⟩

/-- A session in time whose name opens no output ends there, and changes nothing. -/
theorem receive_of_refused
    {options : TransferOptions}
    {directory : Path}
    {tree : FileTree}
    {receiver : Receiver}
    {raw content : Bytes}
    {aborted : Abort}
    (carries : receiver.wire.Carries raw content)
    (refused : Output.open? directory tree raw = .error aborted)
    (inTime : receiver.InTime options directory tree) :
    receiver.receive options directory tree = ⟨.error aborted, tree⟩ := by
  cases receiver with
  | blocking inlet =>
      have carried : inlet.wire.Carries raw content := carries
      obtain ⟨rest, named⟩ := Inlet.readName_of_carries carried
      simp [receive, receiveFile, named, refused]
  | timed readDeadline inlet =>
      have carried : inlet.untimed.wire.Carries raw content := carries
      obtain ⟨rest, named⟩ := Inlet.readName_of_carries carried
      obtain ⟨answer, last, -, reads, untimed, -⟩ := TimedInlet.readName_in_time inTime
      rw [named] at untimed
      obtain rfl := (Prod.mk.inj untimed).1
      simp [receive, receiveFileTimed, reads, refused]

end Receiver

end FileTransfer
