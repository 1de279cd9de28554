import FileTransfer.Proofs.Pieces

namespace FileTransfer

/-!
# A stream in chunks

Whoever asks for chunks gets the pieces of the stream one after another, then the
failure that stopped it, if one did, and then nothing (`Chunks.ask_eq`).  What is lent
out of the buffer and what is copied from it are the same pieces, whatever longer
pieces left behind them.  After the end no request reads from the stream again
(`Chunks.answers_of_finished`), and interruptions of the stream do not show at all
(`Inlet.Undisturbed.pieces`).
-/

/-!
## Interruptions
-/

namespace Inlet

/-- Whether an entry of a script does more than interrupt a read. -/
def Step.matters : Step → Bool
  | .failure error => !error.isInterrupted
  | .data _ => true
  | .close => true

/-- The same stream if nothing ever interrupted a read of it. -/
def uninterrupted (inlet : Inlet) : Inlet :=
  { inlet with steps := inlet.steps.filter Step.matters }

/-- A script without the entries that only interrupt a read. -/
abbrev kept (steps : List Step) : List Step :=
  steps.filter Step.matters

theorem kept_data (bytes : Bytes) (more : List Step) :
    kept (.data bytes :: more) = .data bytes :: kept more := rfl

theorem kept_failure (error : HostError) (more : List Step) :
    kept (.failure error :: more) =
      if error.isInterrupted then kept more else .failure error :: kept more := by
  by_cases interrupted : error.isInterrupted <;> simp [kept, Step.matters, interrupted]

/-- A read finds the same without the interruptions, unless it is interrupted itself. -/
theorem readSteps_kept (amount : Nat) (steps : List Step) :
    match readSteps amount steps with
    | (.ok piece, rest) => readSteps amount (kept steps) = (.ok piece, kept rest)
    | (.error error, rest) =>
        readSteps amount (kept steps) =
          if error.isInterrupted then readSteps amount (kept rest)
          else (.error error, kept rest) := by
  fun_induction readSteps amount steps with
  | case1 => rfl
  | case2 more ih => simpa only [kept_data, readSteps] using ih
  | case3 bytes more nonempty rest =>
      have filled : bytes ≠ [] := fun empty => nonempty (by rw [empty])
      obtain ⟨octet, others, rfl⟩ := List.exists_cons_of_ne_nil filled
      by_cases whole : rest = []
      · simp only [whole, if_true, kept_data, readSteps]
        simp only [rest] at whole
        simp only [whole, if_true]
      · simp only [whole, if_false, kept_data, readSteps]
        simp only [rest] at whole
        simp only [whole, if_false, rest]
  | case4 error more =>
      simp only [kept_failure]
      split
      case isTrue => rfl
      case isFalse => rfl
  | case5 more => rfl

/-- Two streams that differ in the interruptions of the second one. -/
structure Undisturbed (clean inlet : Inlet) : Prop where
  limit : clean.limit = inlet.limit
  steps : clean.steps = kept inlet.steps

theorem undisturbed_uninterrupted (inlet : Inlet) : Undisturbed inlet.uninterrupted inlet :=
  ⟨rfl, rfl⟩

theorem read_eq_iff
    {room : Nat}
    {inlet rest : Inlet}
    {reply : Except HostError Bytes}
    (found : inlet.read room = (reply, rest)) :
    readSteps (capped inlet.limit room) inlet.steps = (reply, rest.steps) ∧
      rest.limit = inlet.limit := by
  simp only [read, Prod.mk.injEq] at found
  obtain ⟨rfl, rfl⟩ := found
  exact ⟨rfl, rfl⟩

/-- Interruptions change neither what is read next nor what is left after it. -/
theorem Undisturbed.readSome
    {clean inlet : Inlet}
    (undisturbed : Undisturbed clean inlet)
    (room : Nat) :
    ∃ rest, clean.readSome room = ((inlet.readSome room).1, rest) ∧
      Undisturbed rest (inlet.readSome room).2 := by
  fun_induction Inlet.readSome room inlet generalizing clean with
  | case1 inlet piece rest reads =>
      obtain ⟨found, limit⟩ := read_eq_iff reads
      have same := readSteps_kept (capped inlet.limit room) inlet.steps
      simp only [found] at same
      rw [readSome_eq]
      simp only [read, undisturbed.limit, undisturbed.steps, same]
      exact ⟨_, rfl, ⟨by rw [limit], rfl⟩⟩
  | case2 inlet error rest reads interrupted ih =>
      obtain ⟨found, limit⟩ := read_eq_iff reads
      have same := readSteps_kept (capped inlet.limit room) inlet.steps
      simp only [found, interrupted, if_true] at same
      have skips : clean.read room = read room { clean with steps := kept rest.steps } := by
        simp only [read, undisturbed.limit, undisturbed.steps, same]
      rw [readSome_eq, skips, ← readSome_eq]
      exact ih ⟨undisturbed.limit.trans limit.symm, rfl⟩
  | case3 inlet error rest reads final =>
      obtain ⟨found, limit⟩ := read_eq_iff reads
      have same := readSteps_kept (capped inlet.limit room) inlet.steps
      simp only [found, final, if_false, Bool.false_eq_true] at same
      rw [readSome_eq]
      simp only [read, undisturbed.limit, undisturbed.steps, same, final, if_false,
        Bool.false_eq_true]
      exact ⟨_, rfl, ⟨by rw [limit], rfl⟩⟩

theorem Undisturbed.pieces
    {clean inlet : Inlet}
    (undisturbed : Undisturbed clean inlet)
    (room : Nat) :
    clean.pieces room = inlet.pieces room := by
  fun_induction Inlet.pieces room inlet generalizing clean with
  | case1 inlet octet others rest reads ih =>
      obtain ⟨left, found, further⟩ := undisturbed.readSome room
      rw [reads] at found further
      rw [pieces_eq, found]
      simp only [ih further]
  | case2 inlet nothing =>
      obtain ⟨left, found, further⟩ := undisturbed.readSome room
      rw [pieces_eq, found]
      split
      case h_1 octet others rest same =>
        obtain ⟨piece, -⟩ := Prod.mk.inj same
        exact (nothing octet others _ (Prod.ext piece rfl)).elim
      case h_2 => rfl

theorem Undisturbed.wire
    {clean inlet : Inlet}
    (undisturbed : Undisturbed clean inlet) :
    clean.wire = inlet.wire := by
  have same (limit : Option Nat) (steps : List Step) :
      wireOf limit (kept steps) = wireOf limit steps := by
    induction steps with
    | nil => rfl
    | cons step more ih =>
        cases step with
        | data bytes => simp only [kept_data, wireOf, ih]
        | failure error =>
            by_cases interrupted : error.isInterrupted <;>
              simp [kept_failure, wireOf, interrupted, ih]
        | close => rfl
  rw [Inlet.wire, Inlet.wire, undisturbed.limit, undisturbed.steps, same]

/-- No piece is empty, and none is longer than the room for it. -/
theorem bounds_of_mem_pieces
    {room : Nat}
    (positive : 0 < room)
    (inlet : Inlet) :
    ∀ piece ∈ inlet.pieces room, piece ≠ [] ∧ piece.length ≤ room := by
  fun_induction pieces room inlet with
  | case1 inlet octet others rest reads ih =>
      obtain ⟨short, -⟩ := readSome_piece positive reads (by simp)
      exact List.forall_mem_cons.mpr ⟨⟨by simp, short⟩, ih⟩
  | case2 => exact List.forall_mem_nil _

end Inlet

/-!
## Requests
-/

/-- What stops a stream, as those who ask for chunks see it. -/
def Inlet.Stop.item? : Inlet.Stop → Option (Except Fault Bytes)
  | .ended => none
  | .failed error => some (.error (.host "read body" error))

/-- What a stream has to show to those who ask for chunks of it. -/
def Inlet.items (room : Nat) (inlet : Inlet) : List (Except Fault Bytes) :=
  (inlet.pieces room).map Except.ok ++ inlet.wire.stop.item?.toList

namespace Chunks

/-- The two ways to ask for a chunk. -/
inductive Request where
  | lend
  | copy
  deriving Repr, DecidableEq

/-- What a request finds.  What is lent is looked at before the next request. -/
def ask : Request → Chunks → Option (Except Fault Bytes) × Chunks
  | .copy, chunks => chunks.next?
  | .lend, chunks =>
      match chunks.lend? with
      | (reply, after) => (reply.map (Except.map after.front), after)

/-- What some requests find one after another. -/
def answers : List Request → Chunks → List (Option (Except Fault Bytes)) × Chunks
  | [], chunks => ([], chunks)
  | request :: more, chunks =>
      match chunks.ask request with
      | (answer, after) =>
          match answers more after with
          | (others, last) => (answer :: others, last)

/-- What there still is to show. -/
def items (chunks : Chunks) : List (Except Fault Bytes) :=
  if chunks.finished then [] else chunks.inlet.items chunks.buffer.length

/-- A piece is found in the buffer it was read into, whatever else is left there. -/
theorem front_overwritten
    (inlet : Inlet)
    (piece buffer : Bytes)
    (finished : Bool) :
    front ⟨inlet, overwritten piece buffer, finished⟩ piece.length = piece := by
  simp [front, overwritten]

/-- Reading a piece into a buffer does not change the size of the buffer. -/
theorem length_overwritten
    {piece buffer : Bytes}
    (fits : piece.length ≤ buffer.length) :
    (overwritten piece buffer).length = buffer.length := by
  simp only [overwritten, List.length_append, List.length_drop]
  omega

/--
What one request does: it answers with the first of what there is to show, leaves the
rest of it and the size of the buffer, and does nothing once the sequence is finished.
-/
structure Continues
    (chunks : Chunks)
    (answer : Option (Except Fault Bytes))
    (after : Chunks) :
    Prop where
  answer : answer = chunks.items.head?
  items : after.items = chunks.items.tail
  room : after.buffer.length = chunks.buffer.length
  progress :
    after.finished ∨
      ∃ piece,
        chunks.inlet.pieces chunks.buffer.length =
          piece :: after.inlet.pieces chunks.buffer.length
  settled : chunks.finished → after = chunks

/-- Both kinds of requests do the same. -/
theorem ask_eq (request : Request) (chunks : Chunks) :
    chunks.ask request = chunks.next? := by
  cases request <;> rfl

theorem next?_continues
    {chunks after : Chunks}
    {answer : Option (Except Fault Bytes)}
    (positive : 0 < chunks.buffer.length)
    (found : chunks.next? = (answer, after)) :
    Continues chunks answer after := by
  unfold next? lend? at found
  by_cases finished : chunks.finished
  · simp only [finished, if_true, Option.map_none, Prod.mk.injEq] at found
    obtain ⟨rfl, rfl⟩ := found
    exact ⟨by simp [items, finished], by simp [items, finished], rfl, .inl finished,
      fun _ => rfl⟩
  simp only [finished, if_false, Bool.false_eq_true] at found
  rcases reads : chunks.inlet.readSome chunks.buffer.length with ⟨error | piece, rest⟩
  · obtain ⟨wire, -⟩ := Inlet.readSome_failed positive reads
    simp only [reads, Option.map_some, Except.map, Prod.mk.injEq] at found
    obtain ⟨rfl, rfl⟩ := found
    have shows : chunks.items = [.error (.host "read body" error)] := by
      simp only [items, finished, if_false, Bool.false_eq_true, Inlet.items, wire]
      rw [Inlet.pieces_eq, reads]
      rfl
    exact ⟨by rw [shows]; rfl, by rw [shows]; rfl, rfl, .inl rfl,
      fun isFinished => absurd isFinished finished⟩
  cases piece with
  | nil =>
      obtain ⟨wire, -⟩ := Inlet.readSome_ended positive reads
      simp only [reads, Option.map_none, Prod.mk.injEq] at found
      obtain ⟨rfl, rfl⟩ := found
      have shows : chunks.items = [] := by
        simp only [items, finished, if_false, Bool.false_eq_true, Inlet.items, wire]
        rw [Inlet.pieces_eq, reads]
        rfl
      exact ⟨by rw [shows]; rfl, by rw [shows]; rfl, rfl, .inl rfl,
        fun isFinished => absurd isFinished finished⟩
  | cons octet others =>
      obtain ⟨fits, wire, -⟩ := Inlet.readSome_piece positive reads (by simp)
      simp only [reads, Option.map_some, Except.map, Prod.mk.injEq] at found
      obtain ⟨rfl, rfl⟩ := found
      have same := length_overwritten fits
      have shows :
          chunks.items = .ok (octet :: others) :: rest.items chunks.buffer.length := by
        simp only [items, finished, if_false, Bool.false_eq_true, Inlet.items, wire]
        rw [Inlet.pieces_eq, reads]
        rfl
      refine ⟨?_, ?_, same, ?_, fun isFinished => absurd isFinished finished⟩
      · rw [shows, front_overwritten]
        rfl
      · rw [shows]
        simp [items, same]
      · rw [Inlet.pieces_eq, reads]
        exact .inr ⟨_, rfl⟩

theorem ask_continues
    {chunks : Chunks}
    (positive : 0 < chunks.buffer.length)
    (request : Request) :
    Continues chunks (chunks.ask request).1 (chunks.ask request).2 := by
  rw [ask_eq]
  exact next?_continues positive rfl

theorem answers_cons (request : Request) (more : List Request) (chunks : Chunks) :
    chunks.answers (request :: more) =
      ((chunks.ask request).1 :: ((chunks.ask request).2.answers more).1,
        ((chunks.ask request).2.answers more).2) := rfl

/-- The answers to some requests are the first of what there is to show, and then nothing. -/
theorem answers_eq
    {chunks : Chunks}
    (positive : 0 < chunks.buffer.length)
    (requests : List Request) :
    (chunks.answers requests).1 =
      (List.range requests.length).map fun index => chunks.items[index]? := by
  induction requests generalizing chunks with
  | nil => rfl
  | cons request more ih =>
      have step := ask_continues positive request
      have further := ih (step.room ▸ positive)
      simp only [answers_cons, List.length_cons, List.range_succ_eq_map, List.map_cons,
        List.map_map, further, step.items, step.answer, Function.comp_def,
        List.getElem?_tail, List.head?_eq_getElem?]

theorem answers_of_finished
    {chunks : Chunks}
    (positive : 0 < chunks.buffer.length)
    (finished : chunks.finished)
    (requests : List Request) :
    (chunks.answers requests).2 = chunks := by
  induction requests with
  | nil => rfl
  | cons request more ih =>
      have step := ask_continues positive request
      rw [answers_cons, step.settled finished, ih]

/-- Requests after other requests go on where these stopped. -/
theorem answers_append (requests more : List Request) (chunks : Chunks) :
    chunks.answers (requests ++ more) =
      ((chunks.answers requests).1 ++ ((chunks.answers requests).2.answers more).1,
        ((chunks.answers requests).2.answers more).2) := by
  induction requests generalizing chunks with
  | nil => rfl
  | cons request others ih => simp [answers_cons, ih]

theorem room_answers
    {chunks : Chunks}
    (positive : 0 < chunks.buffer.length)
    (requests : List Request) :
    (chunks.answers requests).2.buffer.length = chunks.buffer.length := by
  induction requests generalizing chunks with
  | nil => rfl
  | cons request more ih =>
      have step := ask_continues positive request
      rw [answers_cons]
      exact (ih (step.room ▸ positive)).trans step.room

/-- The request after the last piece finishes the sequence. -/
theorem finished_answers
    {chunks : Chunks}
    (positive : 0 < chunks.buffer.length)
    {requests : List Request}
    (enough :
      chunks.finished ∨
        (chunks.inlet.pieces chunks.buffer.length).length < requests.length) :
    (chunks.answers requests).2.finished := by
  induction requests generalizing chunks with
  | nil => simpa [answers] using enough
  | cons request more ih =>
      have step := ask_continues positive request
      rw [answers_cons]
      refine ih (step.room ▸ positive) ?_
      rw [step.room]
      rcases enough with finished | enough
      · exact .inl (by rw [step.settled finished]; exact finished)
      rcases step.progress with finished | ⟨piece, shape⟩
      · exact .inl finished
      · rw [shape, List.length_cons, List.length_cons] at enough
        exact .inr (Nat.lt_of_succ_lt_succ enough)

end Chunks

/--
The chunks of a stream, for every script, chunk size, and sequence of requests of both
kinds.  The answers are the pieces of the stream, then the failure that stopped it, if
one did, and then nothing for ever.  The pieces are neither empty nor too long, and
make up what the stream delivers before its first end or failure.  The request after
the last piece is the last one that reads, so all further requests leave everything as
it is; and interruptions change none of the answers.
-/
theorem chunks_exact (inlet : Inlet) (chunkSize : Nat) :
    let room := max 1 chunkSize
    let pieces := inlet.pieces room
    let chunks := Chunks.ofInlet inlet chunkSize
    (∀ piece ∈ pieces, piece ≠ [] ∧ piece.length ≤ room) ∧
      pieces.flatten = inlet.wire.bytes ∧
      ∀ requests,
        let run := chunks.answers requests
        let shown :=
          pieces.map Except.ok ++
            match inlet.wire.stop with
            | .ended => []
            | .failed error => [.error (.host "read body" error)]
        run.1 = (List.range requests.length).map (fun index => shown[index]?) ∧
          (pieces.length < requests.length →
            ∀ more, (chunks.answers (requests ++ more)).2 = run.2) ∧
          ((Chunks.ofInlet inlet.uninterrupted chunkSize).answers requests).1 = run.1 := by
  intro room pieces chunks
  have positive : 0 < room := by omega
  have size : (Limits.room chunkSize) = room := Nat.max_comm chunkSize 1
  have length (source : Inlet) : (Chunks.ofInlet source chunkSize).buffer.length = room := by
    simp [Chunks.ofInlet, size]
  have shows (source : Inlet) :
      (Chunks.ofInlet source chunkSize).items = source.items room := by
    rw [Chunks.items, length]
    rfl
  refine ⟨Inlet.bounds_of_mem_pieces positive inlet, Inlet.flatten_pieces positive inlet, ?_⟩
  intro requests run shown
  have answers := Chunks.answers_eq (by rwa [length inlet]) requests
  have same : chunks.items = shown := by
    simp only [chunks, shows, Inlet.items, shown, pieces]
    cases inlet.wire.stop <;> rfl
  refine ⟨by rw [← same]; exact answers, ?_, ?_⟩
  · intro enough more
    have finished : run.2.finished :=
      Chunks.finished_answers (by rwa [length inlet]) (.inr (by rwa [length inlet]))
    have room' : 0 < run.2.buffer.length := by
      rw [Chunks.room_answers (by rwa [length inlet]), length]
      exact positive
    rw [Chunks.answers_append]
    exact Chunks.answers_of_finished room' finished more
  · have undisturbed := Inlet.undisturbed_uninterrupted inlet
    have shown :
        (Chunks.ofInlet inlet.uninterrupted chunkSize).items = chunks.items := by
      simp only [chunks, shows, Inlet.items, undisturbed.pieces, undisturbed.wire]
    rw [Chunks.answers_eq (by rwa [length]), shown]
    exact answers.symm

/-- A shorter piece does not show what a longer one left in the buffer. -/
example :
    let steps : List Inlet.Step :=
      [.data [1, 2, 3], .failure (.ofKind .interrupted), .data [4],
        .failure (.ofKind .connectionReset), .data [5]]
    ((Chunks.ofInlet (.ofSteps steps none) 2).answers
        [.lend, .lend, .copy, .lend, .copy]).1 =
      [some (.ok [1, 2]), some (.ok [3]), some (.ok [4]),
        some (.error (.host "read body" (.ofKind .connectionReset))), none] := by
  cbv

end FileTransfer
