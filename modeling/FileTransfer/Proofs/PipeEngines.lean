import FileTransfer.Proofs.PipeInvariant
import FileTransfer.Proofs.TimedReceiving

namespace FileTransfer

/-!
# The sides are the transfers

A side that rests on a pipe is a transfer that was cut off: given what the pipe
took of its writes, or what its reads got, `sendFileTimed` and `receiveFileTimed`
go on exactly from where the side rests (`Sending.Resumes`,
`Receiving.Resumes`).  When both sides have finished, their outcomes and files
are those of the two functions.
-/

/-!
## Sender
-/

/-- An outlet that takes a part of each write, of given sizes, and then everything. -/
def TimedOutlet.taking (counts : List Nat) (calls : List Outlet.Call) : TimedOutlet where
  steps := counts.map fun count => .now (.take count)
  limit := none
  flushError := none
  finishError := none
  calls := calls
  clock := 0

namespace TimedOutlet

/-- A write of which a part is taken leaves the rest to be written. -/
theorem writeAll?_of_write?
    {latest : Option Nat}
    {buffer : Bytes}
    {outlet rest : TimedOutlet}
    {count : Nat}
    (written : outlet.write? latest buffer = (some (.ok count), rest))
    (nonempty : buffer ≠ [])
    (positive : 0 < count) :
    outlet.writeAll? latest buffer = rest.writeAll? latest (buffer.drop count) := by
  obtain ⟨less, rfl⟩ : ∃ less, count = less + 1 := ⟨count - 1, by omega⟩
  rw [writeAll?_eq, if_neg nonempty, written]

theorem write?_taking_cons
    (latest : Option Nat)
    (buffer : Bytes)
    (count : Nat)
    (more : List Nat)
    (calls : List Outlet.Call) :
    (taking (count :: more) calls).write? latest buffer =
      (some (.ok (min count buffer.length)),
        taking more (.write buffer (.ok (min count buffer.length)) :: calls)) := by
  simp [write?, taking, replySteps?, Outlet.replySteps, Outlet.reach]

theorem write?_taking_nil
    (latest : Option Nat)
    (buffer : Bytes)
    (calls : List Outlet.Call) :
    (taking [] calls).write? latest buffer =
      (some (.ok buffer.length),
        taking [] (.write buffer (.ok buffer.length) :: calls)) := by
  simp [write?, taking, replySteps?, Outlet.reach]

/-- An outlet that takes a part of every write passes every buffer on in time. -/
theorem writeAll?_taking
    {counts : List Nat}
    (positive : ∀ count ∈ counts, 0 < count)
    (buffer : Bytes)
    (calls : List Outlet.Call) :
    ∃ left later,
      (∀ latest,
        (taking counts calls).writeAll? latest buffer =
          (some (.ok ()), taking left later)) ∧
        ∀ count ∈ left, 0 < count := by
  induction counts generalizing buffer calls with
  | nil =>
      by_cases empty : buffer = []
      · exact ⟨[], calls, fun latest => by rw [writeAll?_eq, if_pos empty], by simp⟩
      · refine ⟨[], .write buffer (.ok buffer.length) :: calls, fun latest => ?_,
          by simp⟩
        rw [writeAll?_of_write? (write?_taking_nil latest buffer calls) empty
          (List.length_pos_iff.mpr empty), List.drop_length, writeAll?_eq,
          if_pos rfl]
  | cons count more ih =>
      by_cases empty : buffer = []
      · exact ⟨_, calls, fun latest => by rw [writeAll?_eq, if_pos empty], positive⟩
      · have given := List.length_pos_iff.mpr empty
        have taken := positive count List.mem_cons_self
        obtain ⟨left, later, written, remain⟩ :=
          ih (fun other member => positive other (List.mem_cons_of_mem _ member))
            (buffer.drop (min count buffer.length))
            (.write buffer (.ok (min count buffer.length)) :: calls)
        refine ⟨left, later, fun latest => ?_, remain⟩
        rw [writeAll?_of_write? (write?_taking_cons latest buffer count more calls)
          empty (by omega), written]

/-- The outlet after a buffer that it takes in parts. -/
def wrote (buffer : Bytes) (outlet : TimedOutlet) : TimedOutlet :=
  (outlet.writeAll? none buffer).2

/-- Writing a buffer under any deadline comes to the outlet after the buffer. -/
theorem writeWithin_taking
    {counts : List Nat}
    (positive : ∀ count ∈ counts, 0 < count)
    (step : String)
    (buffer : Bytes)
    (calls : List Outlet.Call) :
    (taking counts calls).writeWithin step buffer =
        (.ok (), (taking counts calls).wrote buffer) ∧
      ((taking counts calls).wrote buffer).clock = 0 := by
  obtain ⟨left, later, written, -⟩ := writeAll?_taking positive buffer calls
  constructor
  · simp only [writeWithin, within, wrote, written]
  · rw [wrote, written]
    rfl

theorem wrote_nil (outlet : TimedOutlet) : outlet.wrote [] = outlet := by
  rw [wrote, writeAll?_eq, if_pos rfl]

theorem wrote_taking
    {count : Nat}
    {buffer : Bytes}
    (positive : 0 < count)
    (most : count ≤ buffer.length)
    (more : List Nat)
    (calls : List Outlet.Call) :
    (taking (count :: more) calls).wrote buffer =
      (taking more (.write buffer (.ok count) :: calls)).wrote
        (buffer.drop count) := by
  have nonempty : buffer ≠ [] := List.length_pos_iff.mp (by omega)
  have written := write?_taking_cons none buffer count more calls
  rw [Nat.min_eq_left most] at written
  rw [wrote, writeAll?_of_write? written nonempty positive, wrote]

end TimedOutlet

namespace Link

/-- The transfer of the sender to a stream that takes parts of its writes. -/
def send
    (link : Link)
    (tree : FileTree)
    (counts : List Nat) :
    Except Fault Receipt × TimedOutlet :=
  sendFileTimed link.sending tree link.path
    (.ofSteps (counts.map fun count => .now (.take count)) none none none)

/-- The end of a transfer whose content was moved, or failed to be. -/
def concluded
    (link : Link)
    (name : String) :
    (Except Fault Unit × Tally) × TimedOutlet → Except Fault Receipt × TimedOutlet
  | ((.error fault, _), last) => (.error fault, last)
  | ((.ok (), tally), last) =>
      match last.flush with
      | (.error error, flushed) => (.error (.host "flush" error), flushed)
      | (.ok (), flushed) =>
          (.ok (tally.finish .client name link.path
            (.ofMilliseconds flushed.clock)), flushed)

end Link

/--
Whether a transfer goes on from where a sender rests, after the pipe took what
it took of each write so far.
-/
def Sending.Resumes
    (link : Link)
    (tree : FileTree)
    (name : String)
    (content : Bytes)
    (written : List Nat) :
    Sending → Prop
  | .opening => written = []
  | .writing rest progress =>
      ∃ source calls,
        source.Over (some timedSourceLimit) (content.drop progress.offset) ∧
          ∀ more, (∀ count ∈ more, 0 < count) →
            link.send tree (written ++ more) =
              link.concluded name
                (sendBodyTimed link.sending.room source progress.tally
                  ((TimedOutlet.taking more calls).wrote rest))
  | .reading progress =>
      ∃ source calls,
        source.Over (some timedSourceLimit) (content.drop progress.offset) ∧
          ∀ more, (∀ count ∈ more, 0 < count) →
            link.send tree (written ++ more) =
              link.concluded name
                (sendBodyTimed link.sending.room source progress.tally
                  (.taking more calls))
  | .flushing progress =>
      ∃ calls, ∀ more, (∀ count ∈ more, 0 < count) →
        link.send tree (written ++ more) =
          link.concluded name ((.ok (), progress.tally), .taking more calls)
  | .finished outcome => (link.send tree written).1 = outcome

variable
  {link : Link}
  {tree : FileTree}
  {name : String}
  {content : Bytes}
  {place output : Location}

namespace Link.Arranged

/-- A transfer opens its source, and then writes its header. -/
theorem resumes_header
    (arranged : link.Arranged tree name content place output)
    (tally : Tally)
    (started : tally = .start link.sending.digesting) :
    (Sending.writing (Header.announcement name) ⟨name, place, 0, tally⟩).Resumes
      link tree name content [] := by
  subst started
  refine ⟨.ofBytes content (some timedSourceLimit), [],
    Inlet.over_ofBytes _ content, fun more positive => ?_⟩
  have opened := Source.open?_of_sendable arranged.sendable (some timedSourceLimit)
  obtain ⟨header, began⟩ :=
    TimedOutlet.writeWithin_taking positive "write header"
      (Header.announcement name) []
  have same : TimedOutlet.ofSteps
      (more.map fun count => .now (.take count)) none none none =
      .taking more [] := rfl
  simp only [List.nil_append, Link.send, sendFileTimed, opened, sendSourceTimed,
    same, header, began, Nat.sub_zero]
  rfl

/-- What a sender does by itself is what its transfer does next. -/
theorem resumes_advances
    (arranged : link.Arranged tree name content place output)
    {sender next : Sending}
    {written : List Nat}
    (sound : sender.Sound link name content place)
    (advances : link.Advances name content place sender next)
    (resumes : sender.Resumes link tree name content written) :
    next.Resumes link tree name content written := by
  cases advances with
  | opens =>
      rcases resumes with rfl
      exact arranged.resumes_header _ rfl
  | writes progress =>
      rcases resumes with ⟨source, calls, spans, continues⟩
      refine ⟨source, calls, spans, ?_⟩
      intro more positive
      rw [continues more positive, TimedOutlet.wrote_nil]
  | @reads progress octet others piece =>
      rcases resumes with ⟨source, calls, spans, continues⟩
      obtain ⟨after, reads, rest⟩ := spans.readSome link.sending.room
      have left :
          (content.drop progress.offset).drop
              (capped (some timedSourceLimit) link.sending.room) =
            content.drop (progress.offset + (octet :: others).length) := by
        rw [List.drop_drop, piece, List.length_take, List.length_drop,
          List.drop_eq_drop_iff]
        omega
      rw [left] at rest
      refine ⟨after, calls, rest, ?_⟩
      intro more positive
      obtain ⟨body, -⟩ :=
        TimedOutlet.writeWithin_taking positive "write body" (octet :: others) calls
      rw [continues more positive, sendBodyTimed_eq, reads, ← piece]
      simp only [body]
  | drains progress drained =>
      rcases resumes with ⟨source, calls, spans, continues⟩
      obtain ⟨after, reads, -⟩ := spans.readSome link.sending.room
      rw [drained, List.take_nil] at reads
      refine ⟨calls, ?_⟩
      intro more positive
      rw [continues more positive, sendBodyTimed_eq, reads]
  | flushes progress =>
      rcases resumes with ⟨calls, continues⟩
      have ends := continues [] (by simp)
      rw [List.append_nil] at ends
      simp [Sending.Resumes, ends, sound.1.name, Link.concluded,
        TimedOutlet.flush, TimedOutlet.taking, Elapsed.ofMilliseconds]

end Link.Arranged

/-- What the pipe takes of a write is what the stream of the transfer takes. -/
theorem Sending.Resumes.write
    {rest : Bytes}
    {progress : Progress}
    {written : List Nat}
    {count : Nat}
    (resumes :
      (Sending.writing rest progress).Resumes link tree name content written)
    (positive : 0 < count)
    (most : count ≤ rest.length) :
    (Sending.writing (rest.drop count) progress).Resumes link tree name content
      (written ++ [count]) := by
  rcases resumes with ⟨source, calls, spans, continues⟩
  refine ⟨source, .write rest (.ok count) :: calls, spans, ?_⟩
  intro more others
  have all : ∀ other ∈ count :: more, 0 < other :=
    List.forall_mem_cons.mpr ⟨positive, others⟩
  rw [List.append_assoc, List.singleton_append, continues _ all,
    TimedOutlet.wrote_taking positive most]

/-!
## Receiver
-/

/-- An inlet of which each read gets one of some pieces, until it ends. -/
def TimedInlet.delivering
    (pieces : List Bytes)
    (calls consumed : Nat) :
    TimedInlet where
  steps := pieces.map fun piece => .now (.data piece)
  limit := none
  calls := calls
  consumed := consumed
  clock := 0

namespace TimedInlet

theorem read?_delivering
    {piece : Bytes}
    {room : Nat}
    (fits : piece.length ≤ room)
    (nonempty : piece ≠ [])
    (latest : Option Nat)
    (more : List Bytes)
    (calls consumed : Nat) :
    (delivering (piece :: more) calls consumed).read? latest room =
      (some (.ok piece),
        delivering more (calls + 1) (consumed + piece.length)) := by
  obtain ⟨octet, others, rfl⟩ := List.exists_cons_of_ne_nil nonempty
  have whole : (octet :: others).take room = octet :: others :=
    List.take_of_length_le fits
  have nothing : (octet :: others).drop room = [] :=
    List.drop_eq_nil_iff.mpr fits
  simp only [read?, delivering, List.map_cons, readSteps?, capped, whole, nothing,
    if_true]

theorem fill?_of_read?
    {latest : Option Nat}
    {missing : Nat}
    {piece : Bytes}
    {inlet rest : TimedInlet}
    (reads : inlet.read? latest missing = (some (.ok piece), rest))
    (nonempty : piece ≠ [])
    (positive : 0 < missing) :
    inlet.fill? latest missing =
      match rest.fill? latest (missing - piece.length) with
      | (found, last) =>
          (found.map fun (more, stop) => (piece ++ more, stop), last) := by
  obtain ⟨octet, others, rfl⟩ := List.exists_cons_of_ne_nil nonempty
  rw [fill?_eq, if_neg (by omega), reads]
  rfl

/-- A field is filled by the pieces that make it up. -/
theorem fill?_delivering
    {pieces : List Bytes}
    (nonempty : ∀ piece ∈ pieces, piece ≠ [])
    (latest : Option Nat)
    (more : List Bytes)
    (calls consumed : Nat) :
    (delivering (pieces ++ more) calls consumed).fill? latest
        pieces.flatten.length =
      (some (pieces.flatten, none),
        delivering more (calls + pieces.length)
          (consumed + pieces.flatten.length)) := by
  induction pieces generalizing calls consumed with
  | nil => rw [fill?_eq]; simp
  | cons piece others ih =>
      have given := nonempty piece List.mem_cons_self
      have size := List.length_pos_iff.mpr given
      have filled :=
        ih (fun other member => nonempty other (List.mem_cons_of_mem _ member))
          (calls + 1) (consumed + piece.length)
      have fits : piece.length ≤ (piece :: others).flatten.length := by simp
      have reads :=
        read?_delivering fits given latest (others ++ more) calls consumed
      have left : (piece :: others).flatten.length - piece.length =
          others.flatten.length := by
        simp
      rw [List.cons_append, fill?_of_read? reads given (by simp; omega), left, filled]
      simp [Nat.add_assoc, Nat.add_comm 1]

/-- A field is read from the pieces that make it up, however little time it has. -/
theorem readField_delivering
    {pieces : List Bytes}
    (nonempty : ∀ piece ∈ pieces, piece ≠ [])
    (step : String)
    (milliseconds : Nat)
    (more : List Bytes)
    (calls consumed : Nat) :
    (delivering (pieces ++ more) calls consumed).readField step milliseconds
        pieces.flatten.length =
      (.ok pieces.flatten,
        delivering more (calls + pieces.length)
          (consumed + pieces.flatten.length)) := by
  simp only [readField, within, readExact?, fill?_delivering nonempty]
  rfl

/-- A header is read from the pieces that make up its two fields. -/
theorem readName_delivering
    {field name : List Bytes}
    (fieldPieces : ∀ piece ∈ field, piece ≠ [])
    (namePieces : ∀ piece ∈ name, piece ≠ [])
    (size : field.flatten.length = 2)
    (announced : Header.nameLength field.flatten = .ok name.flatten.length)
    (milliseconds : Nat)
    (more : List Bytes) :
    (delivering (field ++ (name ++ more)) 0 0).readName milliseconds =
      (.ok name.flatten,
        delivering more (field.length + name.length)
          (2 + name.flatten.length)) := by
  have first :=
    readField_delivering fieldPieces "read header" milliseconds (name ++ more) 0 0
  rw [size, Nat.zero_add, Nat.zero_add] at first
  simp only [readName, Limits.lengthFieldSize, first, announced,
    readField_delivering namePieces]

/-- A piece of content is read at once, however little time it has. -/
theorem readBody_delivering
    {piece : Bytes}
    {room : Nat}
    (nonempty : piece ≠ [])
    (fits : piece.length ≤ room)
    (milliseconds : Nat)
    (more : List Bytes)
    (calls consumed : Nat) :
    (delivering (piece :: more) calls consumed).readBody milliseconds room =
      (.ok piece, delivering more (calls + 1) (consumed + piece.length)) := by
  have reads (latest : Option Nat) :
      (delivering (piece :: more) calls consumed).readSome? latest room =
        (some (.ok piece),
          delivering more (calls + 1) (consumed + piece.length)) := by
    rw [readSome?_eq, read?_delivering fits nonempty]
  simp only [readBody, within, reads]
  rfl

theorem readBody_delivered (milliseconds room calls consumed : Nat) :
    (delivering [] calls consumed).readBody milliseconds room =
      (.ok [], delivering [] (calls + 1) consumed) := by
  have reads (latest : Option Nat) :
      (delivering [] calls consumed).readSome? latest room =
        (some (.ok []), delivering [] (calls + 1) consumed) := by
    rw [readSome?_eq]
    rfl
  simp only [readBody, within, reads]
  rfl

end TimedInlet

namespace Link

/-- The session of the receiver on a stream that delivers pieces. -/
def receive
    (link : Link)
    (readDeadline : Option Nat)
    (tree : FileTree)
    (pieces : List Bytes) :
    Reception × TimedInlet :=
  receiveFileTimed link.receiving readDeadline link.directory tree
    (.ofSteps (pieces.map fun piece => .now (.data piece)) none)

/-- The end of a session that opened an output. -/
def closed
    (output : Output)
    (opened : FileTree) :
    (Except Fault Unit × Tally) × TimedInlet → Reception × TimedInlet
  | ((ended, tally), last) =>
      (output.close (.ofMilliseconds last.clock) opened ended tally, last)

end Link

/--
Whether a session goes on from where a receiver rests, after its reads got the
pieces that they got so far.
-/
def Receiving.Resumes
    (link : Link)
    (readDeadline : Option Nat)
    (tree : FileTree)
    (received : List Bytes)
    (now : FileTree) :
    Receiving → Prop
  | .field got => received.flatten = got
  | .name length got =>
      ∃ field name,
        received = field ++ name ∧ field.flatten.length = 2 ∧
          Header.nameLength field.flatten = .ok length ∧ name.flatten = got
  | .opening raw =>
      ∃ field name,
        received = field ++ name ∧ field.flatten.length = 2 ∧
          Header.nameLength field.flatten = .ok name.flatten.length ∧
          name.flatten = raw
  | .content output owed tally =>
      ∃ opened calls consumed,
        now = opened.store output.sink tally.content ∧
          ∀ more,
            link.receive readDeadline tree (received ++ more) =
              Link.closed output opened
                (receiveBodyTimed
                  (bodyAllowance readDeadline link.receiving.room)
                  link.receiving.room output.sink owed tally
                  (.delivering more calls consumed))
  | .finished outcome => (link.receive readDeadline tree received).1 = ⟨outcome, now⟩

namespace Receiving.Resumes

variable
  {readDeadline : Option Nat}
  {received : List Bytes}
  {consumed : Bytes}
  {now : FileTree}

/-- What a read gets out of the pipe is what the stream of the session delivers. -/
theorem deliver
    {receiver : Receiving}
    {piece : Bytes}
    (resumes : receiver.Resumes link readDeadline tree received now)
    (sound : receiver.Sound link tree name content output consumed now)
    (later :
      (Link.afterPiece now piece receiver).1.Sound link tree name content output
        (consumed ++ piece) (Link.afterPiece now piece receiver).2)
    (nonempty : piece ≠ [])
    (fits : piece.length ≤ link.wants receiver) :
    let after := Link.afterPiece now piece receiver
    after.1.Resumes link readDeadline tree (received ++ [piece]) after.2 := by
  have positive := List.length_pos_iff.mpr nonempty
  cases receiver with
  | field got =>
      rcases sound with ⟨rfl, short, -⟩
      simp only [Receiving.Resumes] at resumes
      simp only [Link.wants, Limits.lengthFieldSize] at fits
      simp only [Link.afterPiece, Link.afterField] at later ⊢
      have flat : (received ++ [piece]).flatten = consumed ++ piece := by
        simp [resumes]
      by_cases small : (consumed ++ piece).length < Limits.lengthFieldSize
      · rw [if_pos small]
        exact flat
      · rw [if_neg small] at later ⊢
        have size : (received ++ [piece]).flatten.length = 2 := by
          rw [flat]
          simp only [List.length_append, Limits.lengthFieldSize] at small ⊢
          omega
        cases announced : Header.nameLength (consumed ++ piece) with
        | error fault =>
            simp only [announced] at later
            exact absurd later.2.1 (by simp)
        | ok length =>
            exact ⟨received ++ [piece], [], by simp, size, by rw [flat, announced], rfl⟩
  | name length got =>
      rcases resumes with ⟨field, first, rfl, size, announced, rfl⟩
      simp only [Link.wants] at fits
      have flat : (first ++ [piece]).flatten = first.flatten ++ piece := by
        simp
      simp only [Link.afterPiece, Link.afterName]
      split
      case isTrue small =>
        exact ⟨field, first ++ [piece], by simp, size, announced, flat⟩
      case isFalse whole =>
        have all : length = (first ++ [piece]).flatten.length := by
          rw [flat]
          simp only [List.length_append] at whole ⊢
          have short := sound.2.1
          omega
        exact ⟨field, first ++ [piece], by simp, size, by rw [announced, all], flat⟩
  | opening raw => exact absurd fits (Nat.not_le.mpr positive)
  | content opened owed tally =>
      rcases sound with ⟨rfl, rfl, -⟩
      rcases resumes with ⟨emptied, calls, moved, rfl, continues⟩
      refine ⟨emptied, calls + 1, moved + piece.length, ?_, fun more => ?_⟩
      · exact FileTree.put_put _ _ output emptied
      · have small : piece.length ≤ link.receiving.room := fits
        rw [List.append_assoc, List.singleton_append, continues,
          receiveBodyTimed_file_eq, TimedInlet.readBody_delivering nonempty small]
        obtain ⟨octet, others, rfl⟩ := List.exists_cons_of_ne_nil nonempty
        rfl
  | finished outcome => exact absurd fits (Nat.not_le.mpr positive)

theorem finish
    {receiver : Receiving}
    (resumes : receiver.Resumes link readDeadline tree received now)
    (sound :
      receiver.Sound link tree name content output
        (Header.announcement name ++ content) now)
    (asks : 0 < link.wants receiver) :
    (Link.afterEnd receiver).Resumes link readDeadline tree received now := by
  obtain ⟨tally, rfl, -, -⟩ := Link.Arranged.stored_of_end sound asks
  rcases resumes with ⟨emptied, calls, moved, rfl, continues⟩
  have ends := continues []
  rw [List.append_nil, receiveBodyTimed_file_eq,
    TimedInlet.readBody_delivered] at ends
  simp [Link.afterEnd, Receiving.Resumes, ends, Link.closed, Output.close,
    TimedInlet.delivering, Elapsed.ofMilliseconds]

theorem create
    (arranged : link.Arranged tree name content place output)
    {raw : Bytes}
    (resumes :
      (Receiving.opening raw).Resumes link readDeadline tree received now)
    (pieces : ∀ piece ∈ received, piece ≠ [])
    (sound :
      (Receiving.opening raw).Sound link tree name content output consumed now) :
    let after := link.afterOpen now raw
    after.1.Resumes link readDeadline tree received after.2 := by
  rcases resumes with ⟨field, second, rfl, size, announced, rfl⟩
  rcases sound with ⟨named, -, rfl⟩
  have opens := arranged.opens
  rw [← named] at opens
  simp only [Link.afterOpen, opens]
  have fieldPieces : ∀ piece ∈ field, piece ≠ [] := fun piece member =>
    pieces piece (List.mem_append_left _ member)
  have namePieces : ∀ piece ∈ second, piece ≠ [] := fun piece member =>
    pieces piece (List.mem_append_right _ member)
  refine ⟨now.put output (.file []), field.length + second.length,
    2 + second.flatten.length, (FileTree.put_put _ _ output now).symm,
    fun more => ?_⟩
  have reads :=
    TimedInlet.readName_delivering fieldPieces namePieces size announced
      (headerAllowance readDeadline) more
  have clock :
      (TimedInlet.delivering more (field.length + second.length)
        (2 + second.flatten.length)).clock = 0 := rfl
  have same :
      TimedInlet.ofSteps
          ((field ++ second ++ more).map fun piece => .now (.data piece)) none =
        .delivering (field ++ (second ++ more)) 0 0 := by
    rw [List.append_assoc]
    rfl
  simp only [Link.receive, receiveFileTimed, same, reads, opens, clock,
    Nat.sub_zero]
  rfl

end Receiving.Resumes

/-!
## Both
-/

/-- Both sides rest where their transfers would be after the same moves. -/
structure Joint.Resumes
    (link : Link)
    (readDeadline : Option Nat)
    (tree : FileTree)
    (name : String)
    (content : Bytes)
    (joint : Joint) :
    Prop where
  sender : joint.sender.Resumes link tree name content joint.written
  receiver :
    joint.receiver.Resumes link readDeadline tree joint.received joint.tree
  pieces : ∀ piece ∈ joint.received, piece ≠ []

namespace Joint.Resumes

variable {readDeadline : Option Nat}

/-- Every step of either side is what its transfer does next. -/
theorem step
    (arranged : link.Arranged tree name content place output)
    {joint next : Joint}
    (sound : joint.Sound link tree name content place output)
    (resumes : joint.Resumes link readDeadline tree name content)
    (steps : link.Step joint next) :
    next.Resumes link readDeadline tree name content := by
  have later := sound.step arranged steps
  cases steps with
  | advance moves =>
      exact ⟨arranged.resumes_advances sound.sender (sound.advances arranged moves)
        resumes.sender, resumes.receiver, resumes.pieces⟩
  | write offers positive most free =>
      have sends := resumes.sender
      rw [offers] at sends
      exact ⟨sends.write positive most, resumes.receiver, resumes.pieces⟩
  | @read count positive most fits =>
      have nonempty : joint.pipe.take count ≠ [] :=
        List.length_pos_iff.mp (by rw [List.length_take]; omega)
      have flat :
          (joint.received ++ [joint.pipe.take count]).flatten =
            joint.consumed ++ joint.pipe.take count := by
        simp [Joint.consumed]
      have receives := later.receiver
      simp only [Joint.consumed, flat] at receives
      refine ⟨resumes.sender, ?_, ?_⟩
      · exact resumes.receiver.deliver sound.receiver receives nonempty
          (by rw [List.length_take]; omega)
      · simp only [List.mem_append, List.mem_singleton]
        rintro piece (known | rfl)
        · exact resumes.pieces piece known
        · exact nonempty
  | finish drained dropped asks =>
      have receives := sound.receiver
      rw [sound.consumed_of_finished drained dropped] at receives
      exact ⟨resumes.sender, resumes.receiver.finish receives asks, resumes.pieces⟩
  | create named =>
      have receives := sound.receiver
      have goesOn := resumes.receiver
      rw [named] at receives goesOn
      exact ⟨resumes.sender, goesOn.create arranged resumes.pieces receives,
        resumes.pieces⟩

/-- Whatever the order of the steps, both sides rest where their transfers would. -/
theorem of_reaches
    (arranged : link.Arranged tree name content place output)
    (readDeadline : Option Nat)
    {joint : Joint}
    (reaches : link.Reaches (.start tree) joint) :
    joint.Resumes link readDeadline tree name content := by
  induction reaches with
  | refl => exact ⟨rfl, rfl, by simp [Joint.start]⟩
  | tail before steps resumes =>
      exact resumes.step arranged (.of_reaches arranged before) steps

end Joint.Resumes

end FileTransfer
