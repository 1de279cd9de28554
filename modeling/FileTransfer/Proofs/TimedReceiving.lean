import FileTransfer.Proofs.Patience
import FileTransfer.Proofs.Receiving
import FileTransfer.Transfer.TimedReceive

namespace FileTransfer

/-!
# A session against a clock

A session waits for its peer in a sequence of operations: for the length field,
for the name, and for each piece of content.  `TimedInlet.operations` lists them
with the time that each takes when nothing hurries it.

If every operation keeps its deadline, the session is the one without a clock,
and the clock has advanced by the delays that it met
(`receiveFileTimed_in_time`).  Otherwise the first operation that does not keep
its deadline ends the session when that is over (`receiveFileTimed_late`).
-/

/-- What an operation of a session waits for. -/
inductive Awaited where
  | lengthField
  | name
  | content
  deriving Repr, DecidableEq

namespace Awaited

/-- What an operation is called when it takes too long. -/
def step : Awaited → String
  | .lengthField => "read header"
  | .name => "read filename"
  | .content => "read body"

/-- The phase in which a session carries out an operation. -/
def phase : Awaited → Phase
  | .lengthField => .awaitHeaderLength
  | .name => .awaitFilename
  | .content => .receiveBody

/-- The milliseconds that an operation may take. -/
def allowance (readDeadline : Option Nat) (room : Nat) : Awaited → Nat
  | .lengthField => readDeadline.getD 5000
  | .name => readDeadline.getD 5000
  | .content => readDeadline.getD (Limits.readDeadline room)

end Awaited

/-- An operation of a session to which time does not matter. -/
structure Operation where
  awaited : Awaited
  /-- The milliseconds that it takes, unless it never completes. -/
  delay : Option Nat
  /-- The octets that it delivers. -/
  moved : Bytes
  deriving Repr, DecidableEq

namespace Operation

/-- Whether an operation keeps its deadline. -/
def InTime
    (readDeadline : Option Nat)
    (room : Nat)
    (operation : Operation) :
    Prop :=
  ∃ delay,
    operation.delay = some delay ∧
      delay ≤ operation.awaited.allowance readDeadline room

instance decidableInTime
    (readDeadline : Option Nat)
    (room : Nat)
    (operation : Operation) :
    Decidable (operation.InTime readDeadline room) :=
  match shape : operation.delay with
  | none => isFalse (by simp [InTime, shape])
  | some delay =>
      decidable_of_iff
        (delay ≤ operation.awaited.allowance readDeadline room)
        (by simp [InTime, shape])

/-- The milliseconds that some operations take together. -/
def duration (operations : List Operation) : Nat :=
  (operations.map fun operation => operation.delay.getD 0).sum

/-- The octets that some operations deliver together. -/
def delivered (operations : List Operation) : Bytes :=
  operations.flatMap moved

@[simp] theorem duration_nil : duration [] = 0 := rfl

@[simp] theorem duration_cons (operation : Operation) (more : List Operation) :
    duration (operation :: more) = operation.delay.getD 0 + duration more := rfl

theorem duration_append (first second : List Operation) :
    duration (first ++ second) = duration first + duration second := by
  simp [duration]

@[simp] theorem delivered_nil : delivered [] = [] := rfl

@[simp] theorem delivered_cons (operation : Operation) (more : List Operation) :
    delivered (operation :: more) = operation.moved ++ delivered more := rfl

end Operation

namespace TimedInlet

/-- What an answer to an operation shows of it, when time does not matter. -/
def operation
    {ε : Type}
    (awaited : Awaited)
    (inlet : TimedInlet) :
    Option (Except ε Bytes) × TimedInlet → Operation
  | (none, _) => ⟨awaited, none, []⟩
  | (some (.error _), rest) => ⟨awaited, some (rest.clock - inlet.clock), []⟩
  | (some (.ok moved), rest) => ⟨awaited, some (rest.clock - inlet.clock), moved⟩

/-- The operations in which a session reads its content. -/
def contentOperations (room : Nat) (inlet : TimedInlet) : List Operation :=
  match _ : inlet.readSome? none room with
  | (some (.ok (octet :: others)), rest) =>
      inlet.operation (ε := HostError) .content (some (.ok (octet :: others)), rest) ::
        contentOperations room rest
  | answer => [inlet.operation .content answer]
termination_by inlet.weight
decreasing_by exact weight_readSome? ‹_›

/-- The operations of a session after its header; there are none without an output. -/
def outputOperations
    (room : Nat)
    (directory : Path)
    (tree : FileTree)
    (raw : Bytes)
    (inlet : TimedInlet) :
    List Operation :=
  match Output.open? directory tree raw with
  | .error _ => []
  | .ok _ => inlet.contentOperations room

/-- The operations of a session after its length field. -/
def nameOperations
    (room : Nat)
    (directory : Path)
    (tree : FileTree)
    (length : Nat)
    (inlet : TimedInlet) :
    List Operation :=
  let answer := inlet.readExact? none length
  inlet.operation .name answer ::
    match answer with
    | (some (.ok raw), rest) => rest.outputOperations room directory tree raw
    | _ => []

/-- The operations in which a session waits for its peer, in order. -/
def operations
    (room : Nat)
    (directory : Path)
    (tree : FileTree)
    (inlet : TimedInlet) :
    List Operation :=
  let answer := inlet.readExact? none 2
  inlet.operation .lengthField answer ::
    match answer with
    | (some (.ok field), rest) =>
        match Header.nameLength field with
        | .error _ => []
        | .ok length => rest.nameOperations room directory tree length
    | _ => []

theorem contentOperations_eq (room : Nat) (inlet : TimedInlet) :
    inlet.contentOperations room =
      match inlet.readSome? none room with
      | (some (.ok (octet :: others)), rest) =>
          inlet.operation (ε := HostError) .content
              (some (.ok (octet :: others)), rest) ::
            rest.contentOperations room
      | answer => [inlet.operation .content answer] := by
  rw [contentOperations]
  split <;> simp only [*]

/-- A session with a whole header and an output waits for its content next. -/
theorem operations_of_header
    {room length : Nat}
    {directory : Path}
    {tree : FileTree}
    {inlet middle rest : TimedInlet}
    {field raw : Bytes}
    {opening : Output × FileTree}
    (fieldReads : inlet.readExact? none 2 = (some (.ok field), middle))
    (announced : Header.nameLength field = .ok length)
    (nameReads : middle.readExact? none length = (some (.ok raw), rest))
    (opens : Output.open? directory tree raw = .ok opening) :
    inlet.operations room directory tree =
      ⟨.lengthField, some (middle.clock - inlet.clock), field⟩ ::
        ⟨.name, some (rest.clock - middle.clock), raw⟩ ::
          rest.contentOperations room := by
  simp only [operations, fieldReads, announced, nameOperations, nameReads,
    outputOperations, opens, operation]

/-- An operation that keeps its deadline completes before that is over. -/
theorem completes_of_inTime
    {ε : Type}
    {awaited : Awaited}
    {readDeadline : Option Nat}
    {room : Nat}
    {inlet : TimedInlet}
    {answer : Option (Except ε Bytes) × TimedInlet}
    (inTime : (inlet.operation awaited answer).InTime readDeadline room) :
    ∃ reply rest,
      answer = (some reply, rest) ∧
        rest.clock ≤ inlet.clock + awaited.allowance readDeadline room := by
  rcases inTime with ⟨delay, delayed, short⟩
  rcases answer with ⟨_ | _ | moved, rest⟩
  · cases delayed
  · cases delayed
    simp only [operation] at short
    exact ⟨_, rest, rfl, by omega⟩
  · cases delayed
    simp only [operation] at short
    exact ⟨_, rest, rfl, by omega⟩

/-- An operation that does not keep its deadline completes later, if at all. -/
theorem late_of_not_inTime
    {ε : Type}
    {awaited : Awaited}
    {readDeadline : Option Nat}
    {room : Nat}
    {inlet : TimedInlet}
    {answer : Option (Except ε Bytes) × TimedInlet}
    (isLate : ¬(inlet.operation awaited answer).InTime readDeadline room)
    (reply : Except ε Bytes)
    (rest : TimedInlet)
    (completed : answer = (some reply, rest)) :
    inlet.clock + awaited.allowance readDeadline room < rest.clock := by
  subst completed
  refine Nat.lt_of_not_le fun early => isLate ⟨rest.clock - inlet.clock, ?_, ?_⟩
  · cases reply <;> rfl
  · cases reply <;> simp only [operation] <;> omega

/-- A completed operation advances the clock by the time that it takes. -/
theorem clock_of_operation
    {ε : Type}
    {inlet rest : TimedInlet}
    (awaited : Awaited)
    (reply : Except ε Bytes)
    (waited : inlet.Waited rest) :
    rest.clock =
      inlet.clock +
        Operation.duration [inlet.operation awaited (some reply, rest)] := by
  have forward := waited.forward
  cases reply <;>
    simp only [operation, Operation.duration_cons, Option.getD_some,
      Operation.duration_nil] <;>
    omega

@[simp] theorem awaited_operation
    {ε : Type}
    (awaited : Awaited)
    (inlet : TimedInlet)
    (answer : Option (Except ε Bytes) × TimedInlet) :
    (inlet.operation awaited answer).awaited = awaited := by
  obtain ⟨_ | _ | moved, rest⟩ := answer <;> rfl

/-!
## Content
-/

theorem punctual_readBody (room : Nat) :
    Punctual fun latest inlet =>
      match inlet.readSome? latest room with
      | (reply, rest) => (reply.map (Fault.during "read body"), rest) :=
  (punctual_readSome room).map (Fault.during "read body")

theorem readBody_in_time
    {milliseconds room : Nat}
    {inlet rest : TimedInlet}
    {reply : Except HostError Bytes}
    (completed : inlet.readSome? none room = (some reply, rest))
    (inTime : rest.clock ≤ inlet.clock + milliseconds) :
    inlet.readBody milliseconds room = (Fault.during "read body" reply, rest) := by
  apply within_in_time (punctual_readBody room) _ inTime
  simp only [completed]
  rfl

theorem readBody_late
    {milliseconds room : Nat}
    {inlet : TimedInlet}
    (late :
      ∀ reply rest,
        inlet.readSome? none room = (some reply, rest) →
          inlet.clock + milliseconds < rest.clock) :
    ∃ rest,
      inlet.readBody milliseconds room =
          (.error (.timeout "read body" milliseconds), rest) ∧
        rest.clock = inlet.clock + milliseconds := by
  apply within_late (punctual_readBody room)
  intro reply rest completed
  simp only [Prod.mk.injEq, Option.map_eq_some_iff] at completed
  rcases completed with ⟨⟨found, replied, -⟩, rfl⟩
  exact late found _ (Prod.ext replied rfl)

end TimedInlet

theorem receiveBodyTimed_file_eq
    (milliseconds room : Nat)
    (location : Location)
    (tally : Tally)
    (inlet : TimedInlet) :
    receiveBodyTimed milliseconds room (.file location) none tally inlet =
      match inlet.readBody milliseconds room with
      | (.error fault, rest) => ((.error fault, tally), rest)
      | (.ok [], rest) => ((.ok (), tally), rest)
      | (.ok (octet :: others), rest) =>
          receiveBodyTimed milliseconds room (.file location) none
            (tally.record (octet :: others)) rest := by
  rw [receiveBodyTimed]
  split <;> simp only [*, Sink.writeBehind, Sink.refusal?]

theorem receiveBody_file_eq
    (room : Nat)
    (location : Location)
    (tally : Tally)
    (inlet : Inlet) :
    receiveBody room (.file location) tally inlet =
      match inlet.readSome room with
      | (.error error, rest) => ((.error (.host "read body" error), tally), rest)
      | (.ok [], rest) => ((.ok (), tally), rest)
      | (.ok (octet :: others), rest) =>
          receiveBody room (.file location) (tally.record (octet :: others)) rest := by
  rw [receiveBody]
  split <;> simp only [*, Sink.refusal?]

/-- Content of which every piece comes in time is moved as without a clock. -/
theorem receiveBodyTimed_in_time
    {readDeadline : Option Nat}
    {room : Nat}
    {inlet : TimedInlet}
    (inTime :
      ∀ operation ∈ inlet.contentOperations room,
        operation.InTime readDeadline room)
    (location : Location)
    (tally : Tally) :
    ∃ ended last,
      receiveBodyTimed (Awaited.content.allowance readDeadline room) room
          (.file location) none tally inlet = (ended, last) ∧
        receiveBody room (.file location) tally inlet.untimed =
          (ended, last.untimed) ∧
        inlet.Waited last ∧
        last.clock =
          inlet.clock + Operation.duration (inlet.contentOperations room) := by
  fun_induction TimedInlet.contentOperations room inlet generalizing tally with
  | case1 inlet octet others rest reads ih =>
      obtain ⟨reply, after, same, short⟩ :=
        TimedInlet.completes_of_inTime (inTime _ List.mem_cons_self)
      cases same
      obtain ⟨untimed, waited⟩ := TimedInlet.patient_readSome room reads
      obtain ⟨ended, last, timed, instant, further, clock⟩ :=
        ih (fun operation member => inTime operation (List.mem_cons_of_mem _ member))
          (tally.record (octet :: others))
      refine ⟨ended, last, ?_, ?_, waited.trans further, ?_⟩
      · rw [receiveBodyTimed_file_eq, TimedInlet.readBody_in_time reads short]
        exact timed
      · rw [receiveBody_file_eq, untimed]
        exact instant
      · rw [clock, TimedInlet.clock_of_operation _ _ waited, Nat.add_assoc,
          ← Operation.duration_append]
        rfl
  | case2 inlet notPiece =>
      obtain ⟨reply, rest, reads, short⟩ :=
        TimedInlet.completes_of_inTime (inTime _ (List.mem_singleton_self _))
      obtain ⟨untimed, waited⟩ := TimedInlet.patient_readSome room reads
      rw [reads]
      have timed := receiveBodyTimed_file_eq
        (Awaited.content.allowance readDeadline room) room location tally inlet
      have instant := receiveBody_file_eq room location tally inlet.untimed
      rw [TimedInlet.readBody_in_time reads short] at timed
      rw [untimed] at instant
      have clock := TimedInlet.clock_of_operation .content reply waited
      cases reply with
      | error error => exact ⟨_, rest, timed, instant, waited, clock⟩
      | ok piece =>
          cases piece with
          | nil => exact ⟨_, rest, timed, instant, waited, clock⟩
          | cons octet others => exact (notPiece octet others rest reads).elim

theorem receiveBodyTimed_late_now
    {readDeadline : Option Nat}
    {room : Nat}
    {inlet : TimedInlet}
    (isLate :
      ¬(inlet.operation .content (inlet.readSome? none room)).InTime
        readDeadline room)
    (location : Location)
    (tally : Tally) :
    let milliseconds := Awaited.content.allowance readDeadline room
    ∃ last,
      receiveBodyTimed milliseconds room (.file location) none tally inlet =
          ((.error (.timeout "read body" milliseconds), tally), last) ∧
        last.clock = inlet.clock + milliseconds := by
  obtain ⟨last, timed, clock⟩ :=
    TimedInlet.readBody_late (TimedInlet.late_of_not_inTime isLate)
  exact ⟨last, by rw [receiveBodyTimed_file_eq, timed], clock⟩

/-- Content of which a piece comes too late is moved up to that piece. -/
theorem receiveBodyTimed_late
    {readDeadline : Option Nat}
    {room : Nat}
    {inlet : TimedInlet}
    {before after : List Operation}
    {late : Operation}
    (shape : inlet.contentOperations room = before ++ late :: after)
    (early : ∀ operation ∈ before, operation.InTime readDeadline room)
    (isLate : ¬late.InTime readDeadline room)
    (location : Location)
    (tally : Tally) :
    let milliseconds := Awaited.content.allowance readDeadline room
    ∃ counted last,
      receiveBodyTimed milliseconds room (.file location) none tally inlet =
          ((.error (.timeout "read body" milliseconds), counted), last) ∧
        Tally.Extended tally (Operation.delivered before) counted ∧
        late.awaited = .content ∧
        last.clock = inlet.clock + Operation.duration before + milliseconds := by
  intro milliseconds
  fun_induction TimedInlet.contentOperations room inlet
    generalizing before tally with
  | case1 inlet octet others rest reads ih =>
      cases before with
      | nil =>
          obtain ⟨rfl, -⟩ := List.cons.inj shape
          rw [← reads] at isLate
          obtain ⟨last, timed, clock⟩ :=
            receiveBodyTimed_late_now isLate location tally
          exact ⟨tally, last, timed, .refl tally, rfl, clock⟩
      | cons first more =>
          obtain ⟨rfl, remains⟩ := List.cons.inj shape
          obtain ⟨reply, after, same, short⟩ :=
            TimedInlet.completes_of_inTime (early _ List.mem_cons_self)
          cases same
          obtain ⟨-, waited⟩ := TimedInlet.patient_readSome room reads
          obtain ⟨counted, last, timed, extended, awaits, clock⟩ :=
            ih remains
              (fun operation member => early operation (List.mem_cons_of_mem _ member))
              (tally.record (octet :: others))
          refine ⟨counted, last, ?_,
            (Tally.Extended.record _ tally).trans extended, awaits, ?_⟩
          · rw [receiveBodyTimed_file_eq, TimedInlet.readBody_in_time reads short]
            exact timed
          · rw [clock, TimedInlet.clock_of_operation _ _ waited,
              Nat.add_assoc inlet.clock, ← Operation.duration_append]
            rfl
  | case2 inlet notPiece =>
      obtain ⟨rfl, rfl, -⟩ :
          before = [] ∧
            late = inlet.operation .content (inlet.readSome? none room) ∧
              after = [] := by
        simpa [List.singleton_eq_append_iff] using shape
      obtain ⟨last, timed, clock⟩ :=
        receiveBodyTimed_late_now isLate location tally
      exact ⟨tally, last, timed, .refl tally, TimedInlet.awaited_operation _ _ _,
        clock⟩

/-!
## Header
-/

namespace TimedInlet

theorem readField_in_time
    {awaited : Awaited}
    {readDeadline : Option Nat}
    {room length : Nat}
    {inlet : TimedInlet}
    (step : String)
    (inTime :
      (inlet.operation awaited (inlet.readExact? none length)).InTime
        readDeadline room) :
    ∃ reply rest,
      inlet.readExact? none length = (some reply, rest) ∧
        inlet.readField step (awaited.allowance readDeadline room) length =
          (reply, rest) ∧
        inlet.untimed.readExact length = (reply, rest.untimed) ∧
        inlet.Waited rest := by
  obtain ⟨reply, rest, reads, short⟩ := completes_of_inTime inTime
  obtain ⟨untimed, waited⟩ := patient_readExact length reads
  exact ⟨reply, rest, reads,
    within_in_time (punctual_readExact length) reads short, untimed, waited⟩

theorem readField_late
    {awaited : Awaited}
    {readDeadline : Option Nat}
    {room length : Nat}
    {inlet : TimedInlet}
    (isLate :
      ¬(inlet.operation awaited (inlet.readExact? none length)).InTime
        readDeadline room)
    (step : String) :
    ∃ rest,
      inlet.readField step (awaited.allowance readDeadline room) length =
          (.error (.timeout step (awaited.allowance readDeadline room)), rest) ∧
        rest.clock = inlet.clock + awaited.allowance readDeadline room :=
  within_late (punctual_readExact length) step (late_of_not_inTime isLate)

/-- A header that comes in time is read as without a clock. -/
theorem readName_in_time
    {readDeadline : Option Nat}
    {room : Nat}
    {directory : Path}
    {tree : FileTree}
    {inlet : TimedInlet}
    (inTime :
      ∀ operation ∈ inlet.operations room directory tree,
        operation.InTime readDeadline room) :
    ∃ answer rest header,
      inlet.readName (headerAllowance readDeadline) = (answer, rest) ∧
        inlet.untimed.readName = (answer, rest.untimed) ∧
        inlet.Waited rest ∧
        rest.clock = inlet.clock + Operation.duration header ∧
        inlet.operations room directory tree =
          header ++
            match answer with
            | .error _ => []
            | .ok raw => rest.outputOperations room directory tree raw := by
  obtain ⟨reply, middle, reads, timed, untimed, waited⟩ :=
    readField_in_time "read header" (inTime _ List.mem_cons_self)
  change inlet.readField "read header" (headerAllowance readDeadline) 2 = _ at timed
  have clock := clock_of_operation .lengthField reply waited
  simp only [operations, reads] at inTime ⊢
  simp only [readName, Inlet.readName, Limits.lengthFieldSize, timed, untimed]
  cases reply with
  | error fault => exact ⟨_, middle, [_], rfl, rfl, waited, clock, rfl⟩
  | ok field =>
      cases announced : Header.nameLength field with
      | error fault =>
          simp only [announced]
          exact ⟨_, middle, [_], rfl, rfl, waited, clock, rfl⟩
      | ok length =>
          simp only [announced] at inTime ⊢
          obtain ⟨reply, rest, names, further, instant, later⟩ :=
            readField_in_time "read filename"
              (inTime _ (List.mem_cons_of_mem _ List.mem_cons_self))
          change middle.readField "read filename" (headerAllowance readDeadline) length =
            _ at further
          have reached :=
            clock_of_operation .name reply later
          simp only [nameOperations, names, further, instant]
          cases reply with
          | error fault =>
              exact ⟨_, rest, [_, _], rfl, rfl, waited.trans later,
                by rw [reached, clock, Nat.add_assoc, ← Operation.duration_append]; rfl,
                rfl⟩
          | ok raw =>
              exact ⟨_, rest, [_, _], rfl, rfl, waited.trans later,
                by rw [reached, clock, Nat.add_assoc, ← Operation.duration_append]; rfl,
                rfl⟩

/--
When an operation comes too late, either the header ends with it, or the whole
header came in time and the late operation is one of those after it.
-/
theorem readName_late
    {readDeadline : Option Nat}
    {room : Nat}
    {directory : Path}
    {tree : FileTree}
    {inlet : TimedInlet}
    {before after : List Operation}
    {late : Operation}
    (shape : inlet.operations room directory tree = before ++ late :: after)
    (early : ∀ operation ∈ before, operation.InTime readDeadline room)
    (isLate : ¬late.InTime readDeadline room) :
    let milliseconds := headerAllowance readDeadline
    (late.awaited ≠ .content ∧
        late.awaited.allowance readDeadline room = milliseconds ∧
        ∃ rest,
          inlet.readName milliseconds =
              (.error ⟨late.awaited.phase,
                .timeout late.awaited.step milliseconds⟩, rest) ∧
            rest.clock =
              inlet.clock + Operation.duration before + milliseconds) ∨
      ∃ field name pieces rest,
        before = field :: name :: pieces ∧
          inlet.readName milliseconds = (.ok name.moved, rest) ∧
          rest.clock = inlet.clock + Operation.duration [field, name] ∧
          rest.outputOperations room directory tree name.moved =
            pieces ++ late :: after := by
  intro milliseconds
  simp only [operations] at shape
  cases before with
  | nil =>
      obtain ⟨rfl, -⟩ := List.cons.inj shape
      obtain ⟨rest, timed, clock⟩ := readField_late isLate "read header"
      change inlet.readField "read header" milliseconds 2 = _ at timed
      refine .inl ⟨by simp, by rw [awaited_operation]; rfl, rest, ?_, clock⟩
      simp only [readName, Limits.lengthFieldSize, timed, awaited_operation]
      rfl
  | cons field more =>
      obtain ⟨rfl, remains⟩ := List.cons.inj shape
      obtain ⟨reply, middle, reads, timed, -, waited⟩ :=
        readField_in_time "read header" (early _ List.mem_cons_self)
      change inlet.readField "read header" milliseconds 2 = _ at timed
      have clock :=
        clock_of_operation .lengthField reply waited
      simp only [readName, Limits.lengthFieldSize, timed, reads] at remains ⊢
      cases reply with
      | error fault => simp at remains
      | ok octets =>
          cases announced : Header.nameLength octets with
          | error fault => simp [announced] at remains
          | ok length =>
              simp only [announced, nameOperations] at remains ⊢
              cases more with
              | nil =>
                  obtain ⟨rfl, -⟩ := List.cons.inj remains
                  obtain ⟨rest, further, reached⟩ :=
                    readField_late isLate "read filename"
                  change middle.readField "read filename" milliseconds length = _
                    at further
                  refine .inl ⟨by simp, by rw [awaited_operation]; rfl, rest, ?_, ?_⟩
                  · simp only [further, awaited_operation]
                    rfl
                  · rw [reached, clock]
                    rfl
              | cons name pieces =>
                  obtain ⟨rfl, follow⟩ := List.cons.inj remains
                  obtain ⟨answer, rest, names, further, -, later⟩ :=
                    readField_in_time "read filename"
                      (early _ (List.mem_cons_of_mem _ List.mem_cons_self))
                  change middle.readField "read filename" milliseconds length = _
                    at further
                  have reached :=
                    clock_of_operation .name answer later
                  simp only [further, names] at follow ⊢
                  cases answer with
                  | error fault => simp at follow
                  | ok raw =>
                      refine .inr ⟨_, _, pieces, rest, rfl, rfl, ?_, follow⟩
                      rw [reached, clock, Nat.add_assoc,
                        ← Operation.duration_append]
                      rfl

end TimedInlet

/-!
## Session
-/

/-- Where outputs are regular files, an opened one is a file that was created. -/
theorem Output.open?_regular
    {directory : Path}
    {tree opened : FileTree}
    {raw : Bytes}
    {output : Output}
    (regular :
      ∀ name, Filename.validate raw = .ok name →
        tree.RegularOutput (Path.join directory raw))
    (opens : Output.open? directory tree raw = .ok (output, opened)) :
    ∃ location,
      output.sink = .file location ∧
        tree.create (Path.join directory raw) = .ok (.file location, opened) := by
  unfold Output.open? Filename.place at opens
  cases validated : Filename.validate raw with
  | error fault => simp [validated, Except.map] at opens
  | ok name =>
      cases created : tree.create (Path.join directory raw) with
      | error error => simp [validated, Except.map, created] at opens
      | ok answer =>
          rcases answer with ⟨sink, emptied⟩
          obtain ⟨location, rfl⟩ := regular name validated sink emptied created
          simp only [validated, Except.map, created] at opens
          cases opens
          exact ⟨location, rfl, rfl⟩

/-- The time that a session took does not show anywhere else. -/
theorem Output.close_untimed
    (output : Output)
    (elapsed : Elapsed)
    (opened : FileTree)
    (ended : Except Fault Unit)
    (tally : Tally) :
    (output.close elapsed opened ended tally).outcome.map Receipt.untimed =
        (output.close ⟨0, 0⟩ opened ended tally).outcome ∧
      (output.close elapsed opened ended tally).tree =
        (output.close ⟨0, 0⟩ opened ended tally).tree := by
  cases ended with
  | error fault => exact ⟨rfl, rfl⟩
  | ok done => exact ⟨rfl, rfl⟩

/-- A session of which every operation keeps its deadline is the one without a clock. -/
theorem receiveFileTimed_in_time
    (options : TransferOptions)
    {readDeadline : Option Nat}
    {directory : Path}
    {tree : FileTree}
    {inlet : TimedInlet}
    (regular :
      ∀ raw name, inlet.untimed.readName.1 = .ok raw →
        Filename.validate raw = .ok name →
          tree.RegularOutput (Path.join directory raw))
    (inTime :
      ∀ operation ∈ inlet.operations options.room directory tree,
        operation.InTime readDeadline options.room) :
    let run := receiveFileTimed options readDeadline directory tree inlet
    let instant := receiveFile options directory tree inlet.untimed
    run.1.outcome.map Receipt.untimed = instant.1.outcome ∧
      run.1.tree = instant.1.tree ∧
      run.2.untimed = instant.2 ∧
      inlet.Waited run.2 ∧
      run.2.clock =
        inlet.clock +
          Operation.duration (inlet.operations options.room directory tree) := by
  obtain ⟨answer, rest, header, named, instant, waited, clock, shape⟩ :=
    TimedInlet.readName_in_time inTime
  simp only [receiveFileTimed, receiveFile, named, instant]
  rw [shape] at inTime ⊢
  cases answer with
  | error aborted => exact ⟨rfl, rfl, rfl, waited, by simpa using clock⟩
  | ok raw =>
      simp only [TimedInlet.outputOperations] at inTime ⊢
      cases opens : Output.open? directory tree raw with
      | error aborted => exact ⟨rfl, rfl, rfl, waited, by simpa using clock⟩
      | ok answer =>
          rcases answer with ⟨output, opened⟩
          obtain ⟨location, isFile, -⟩ :=
            Output.open?_regular (fun name => regular raw name (by rw [instant])) opens
          simp only [opens] at inTime ⊢
          obtain ⟨⟨ended, tally⟩, last, timed, untimed, further, reached⟩ :=
            receiveBodyTimed_in_time
              (fun operation member =>
                inTime operation (List.mem_append_right _ member))
              location (.start options.digesting)
          change receiveBodyTimed (bodyAllowance readDeadline options.room) _ _ _ _ _ =
            _ at timed
          simp only [isFile, timed, untimed]
          obtain ⟨outcome, files⟩ := output.close_untimed
            (.ofMilliseconds (last.clock - rest.clock)) opened ended tally
          refine ⟨outcome, files, trivial, waited.trans further, ?_⟩
          rw [reached, clock, Operation.duration_append, Nat.add_assoc]

/--
A session of which an operation comes too late ends with that operation.  The
content that came before it stays.
-/
theorem receiveFileTimed_late
    (options : TransferOptions)
    {readDeadline : Option Nat}
    {directory : Path}
    {tree : FileTree}
    (regular : tree.OffersFiles directory)
    {inlet : TimedInlet}
    {before after : List Operation}
    {late : Operation}
    (shape :
      inlet.operations options.room directory tree = before ++ late :: after)
    (early : ∀ operation ∈ before, operation.InTime readDeadline options.room)
    (isLate : ¬late.InTime readDeadline options.room) :
    let run := receiveFileTimed options readDeadline directory tree inlet
    let milliseconds := late.awaited.allowance readDeadline options.room
    run.1.outcome =
        .error ⟨late.awaited.phase, .timeout late.awaited.step milliseconds⟩ ∧
      run.2.clock = inlet.clock + Operation.duration before + milliseconds ∧
      (late.awaited ≠ .content → run.1.tree = tree) ∧
      (late.awaited = .content →
        ∃ field name pieces location opened,
          before = field :: name :: pieces ∧
            tree.create (Path.join directory name.moved) =
              .ok (.file location, opened) ∧
            run.1.tree =
              tree.put location (.file (Operation.delivered pieces))) := by
  obtain ⟨isHeader, allowed, rest, named, clock⟩ |
      ⟨field, name, pieces, rest, rfl, named, clock, follow⟩ :=
    TimedInlet.readName_late shape early isLate
  · simp only [receiveFileTimed, named, allowed]
    exact ⟨trivial, clock, fun _ => trivial, fun isContent => absurd isContent isHeader⟩
  · simp only [receiveFileTimed, named]
    simp only [TimedInlet.outputOperations] at follow
    cases opens : Output.open? directory tree name.moved with
    | error aborted => simp [opens] at follow
    | ok answer =>
        rcases answer with ⟨output, opened⟩
        obtain ⟨location, isFile, created⟩ :=
          Output.open?_regular (regular name.moved) opens
        simp only [opens] at follow
        obtain ⟨counted, last, timed, extended, awaits, reached⟩ :=
          receiveBodyTimed_late follow
            (fun operation member =>
              early operation
                (List.mem_cons_of_mem _ (List.mem_cons_of_mem _ member)))
            isLate location (.start options.digesting)
        change receiveBodyTimed (bodyAllowance readDeadline options.room) _ _ _ _ _ =
          _ at timed
        have gathered : counted.content = Operation.delivered pieces := by
          simpa [Tally.content_start] using extended.content
        simp only [isFile, timed, awaits]
        refine ⟨rfl, ?_, fun isHeader => absurd rfl isHeader, fun _ =>
          ⟨field, name, pieces, location, opened, rfl, created, ?_⟩⟩
        · rw [reached, clock, Nat.add_assoc inlet.clock, ← Operation.duration_append]
          rfl
        · simp only [Output.close, isFile, gathered, FileTree.store_of_create created]
          rfl

/--
A session with deadlines is the one without a clock, as long as every operation
keeps its deadline, and it takes as long as the delays that it met.  Otherwise
the first operation that does not keep its deadline ends the session at that
deadline, and only content that came before it was stored.
-/
theorem receiveFileTimed_refines
    (options : TransferOptions)
    (readDeadline : Option Nat)
    {directory : Path}
    {tree : FileTree}
    (regular : tree.OffersFiles directory)
    (inlet : TimedInlet) :
    let run := receiveFileTimed options readDeadline directory tree inlet
    let instant := receiveFile options directory tree inlet.untimed
    let operations := inlet.operations options.room directory tree
    ((∀ operation ∈ operations, operation.InTime readDeadline options.room) →
      run.1.outcome.map Receipt.untimed = instant.1.outcome ∧
        run.1.tree = instant.1.tree ∧
        run.2.untimed = instant.2 ∧
        run.2.clock = inlet.clock + Operation.duration operations ∧
        run.2.clock + Timed.waiting run.2.steps =
          inlet.clock + Timed.waiting inlet.steps) ∧
      ((¬∀ operation ∈ operations, operation.InTime readDeadline options.room) →
        ∃ before late after,
          operations = before ++ late :: after ∧
            (∀ operation ∈ before,
              operation.InTime readDeadline options.room) ∧
            ¬late.InTime readDeadline options.room ∧
            let milliseconds := late.awaited.allowance readDeadline options.room
            run.1.outcome =
                .error
                  ⟨late.awaited.phase, .timeout late.awaited.step milliseconds⟩ ∧
              run.2.clock =
                inlet.clock + Operation.duration before + milliseconds ∧
              (late.awaited ≠ .content → run.1.tree = tree) ∧
              (late.awaited = .content →
                ∃ field name pieces location opened,
                  before = field :: name :: pieces ∧
                    tree.create (Path.join directory name.moved) =
                      .ok (.file location, opened) ∧
                    run.1.tree =
                      tree.put location
                        (.file (Operation.delivered pieces)))) := by
  constructor
  · intro inTime
    obtain ⟨outcome, files, same, waited, clock⟩ :=
      receiveFileTimed_in_time options (fun raw name _ => regular raw name) inTime
    exact ⟨outcome, files, same, clock, waited.delays⟩
  · intro someLate
    obtain ⟨before, late, after, shape, early, isLate⟩ :=
      exists_first_without someLate
    exact ⟨before, late, after, shape, early, isLate,
      receiveFileTimed_late options regular shape early isLate⟩

/--
Content that comes at its deadline is still in time, and the end of the stream
that never comes is not.
-/
theorem receiveFileTimed_refines_until_stall :
    let header : List (Timed Inlet.Step) :=
      [.delay 20, .now (.data [0]), .delay 10, .now (.data [1, 0x61])]
    let run (steps : List (Timed Inlet.Step)) :=
      receiveFileTimed ⟨0, false⟩ (some 30) [Path.dot] (.bare [])
        (.ofSteps (header ++ steps) none)
    let content : Timed Inlet.Step := .now (.data [0x68])
    (FileTree.bare []).OffersFiles [Path.dot] ∧
      ((run [.delay 30, content]).1.outcome.map Receipt.untimed =
          .ok ⟨.server, "a", [Path.dot, Path.slash, 0x61], 1, ⟨0, 0⟩, none⟩ ∧
        (run [.delay 30, content]).2.clock = 60) ∧
      (run [.delay 30, content, .stall]).1.outcome =
          .error ⟨.receiveBody, .timeout "read body" 30⟩ ∧
        (run [.delay 30, content, .stall]).2.clock = 90 := by
  intro header run content
  have regular := FileTree.offersFiles_bare [] [Path.dot]
  have shape (steps : List (Timed Inlet.Step)) :
      (TimedInlet.ofSteps (header ++ steps) none).operations 1 [Path.dot]
          (.bare []) =
        ⟨.lengthField, some 30, [0, 1]⟩ :: ⟨.name, some 0, [0x61]⟩ ::
          TimedInlet.contentOperations 1 ⟨steps, none, 3, 3, 30⟩ := by
    have field :
        (TimedInlet.ofSteps (header ++ steps) none).readExact? none 2 =
          (some (.ok [0, 1]),
            ⟨.now (.data [0x61]) :: steps, none, 2, 2, 30⟩) := by
      cbv
    have name :
        TimedInlet.readExact? none 1
            ⟨.now (.data [0x61]) :: steps, none, 2, 2, 30⟩ =
          (some (.ok [0x61]), ⟨steps, none, 3, 3, 30⟩) := by
      cbv
    have opens :
        Output.open? [Path.dot] (.bare []) [0x61] =
          .ok (⟨"a", [Path.dot, Path.slash, 0x61], .file [[0x61]]⟩,
            (FileTree.bare []).put [[0x61]] (.file [])) := by
      cbv
    exact TimedInlet.operations_of_header field (by cbv) name opens
  refine ⟨regular, ?_, ?_⟩
  · have operations :
        (TimedInlet.ofSteps (header ++ [.delay 30, content]) none).operations
            (TransferOptions.room ⟨0, false⟩) [Path.dot] (.bare []) =
          [⟨.lengthField, some 30, [0, 1]⟩, ⟨.name, some 0, [0x61]⟩,
            ⟨.content, some 30, [0x68]⟩, ⟨.content, some 0, []⟩] := by
      refine (shape _).trans ?_
      simp +decide [TimedInlet.contentOperations_eq, TimedInlet.readSome?,
        TimedInlet.read?, TimedInlet.readSteps?, capped, content,
        TimedInlet.operation]
    obtain ⟨outcome, -, -, clock, -⟩ :=
      (receiveFileTimed_refines ⟨0, false⟩ (some 30) regular
        (.ofSteps (header ++ [.delay 30, content]) none)).1
        (by rw [operations]; decide)
    rw [operations] at clock
    rw [(receiveFile_eq_session _ fun raw name _ => regular raw name).1] at outcome
    exact ⟨outcome.trans (by cbv), clock⟩
  · have operations :
        (TimedInlet.ofSteps (header ++ [.delay 30, content, .stall]) none).operations
            (TransferOptions.room ⟨0, false⟩) [Path.dot] (.bare []) =
          [⟨.lengthField, some 30, [0, 1]⟩, ⟨.name, some 0, [0x61]⟩,
            ⟨.content, some 30, [0x68]⟩, ⟨.content, none, []⟩] := by
      refine (shape _).trans ?_
      simp +decide [TimedInlet.contentOperations_eq, TimedInlet.readSome?,
        TimedInlet.read?, TimedInlet.readSteps?, capped, content,
        TimedInlet.operation]
    obtain ⟨before, late, after, cut, early, isLate, outcome, clock, -⟩ :=
      (receiveFileTimed_refines ⟨0, false⟩ (some 30) regular
        (.ofSteps (header ++ [.delay 30, content, .stall]) none)).2
        (by rw [operations]; decide)
    rw [operations] at cut
    have stalls :
        [⟨.lengthField, some 30, [0, 1]⟩, ⟨.name, some 0, [0x61]⟩,
            ⟨.content, some 30, [0x68]⟩] ++ [⟨.content, none, []⟩] =
          before ++ late :: after :=
      cut
    obtain ⟨rfl, rfl⟩ :=
      first_without_unique stalls (by decide) (by decide) early isLate
    exact ⟨outcome, clock⟩

end FileTransfer
