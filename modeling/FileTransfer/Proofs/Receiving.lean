import FileTransfer.Proofs.Content
import FileTransfer.Proofs.Outputs
import FileTransfer.Proofs.Wire
import FileTransfer.Transfer.Receive
import Mathlib

namespace FileTransfer

/-!
# A session read off a whole stream

`Wire.session` says what a session comes to when everything that its stream
delivers is known at once: it cuts the octets into length field, name and
content, and the first part that is missing or wrong decides.

The session that reads piece by piece comes to the same
(`receiveFile_eq_session`): neither the cuts between its reads, nor interrupted
reads, nor the size of its buffer show in the outcome, in the files, or in how
much of the stream was taken.
-/

/-- A session after its end, and the number of octets that it took. -/
structure Verdict where
  reception : Reception
  consumed : Nat

/-- A session that ended before it opened an output. -/
def Verdict.refused
    (tree : FileTree)
    (phase : Phase)
    (fault : Fault)
    (consumed : Nat) :
    Verdict where
  reception := ⟨.error ⟨phase, fault⟩, tree⟩
  consumed := consumed

namespace Wire

/-- How a session ends that received some content before its stream stopped. -/
def outcome (receipt : Receipt) : Inlet.Stop → Except Abort Receipt
  | .ended => .ok receipt
  | .failed error => .error ⟨.receiveBody, .host "read body" error⟩

/-- What a session comes to whose stream delivers exactly this. -/
def session
    (digesting : Bool)
    (directory : Path)
    (tree : FileTree)
    (wire : Wire) :
    Verdict :=
  let received := wire.bytes.length
  let length := Bytes.toNat (wire.bytes.take 2)
  let raw := (wire.bytes.drop 2).take length
  let content := wire.bytes.drop (2 + length)
  if received < 2 then
    .refused tree .awaitHeaderLength (wire.stop.fault received 2) received
  else if length = 0 ∨ 255 < length then
    .refused tree .awaitHeaderLength (.malformedFrame length) 2
  else if received < 2 + length then
    .refused tree .awaitFilename (wire.stop.fault (received - 2) length) received
  else
    match Filename.validate raw with
    | .error fault => .refused tree .validateFilename fault (2 + length)
    | .ok name =>
        let path := Path.join directory raw
        match tree.create path with
        | .error error =>
            .refused tree .openOutput (.host "open output" error) (2 + length)
        | .ok (sink, _) =>
            let receipt :=
              Receipt.ofContent .server digesting name path ⟨0, 0⟩ content
            { reception := ⟨outcome receipt wire.stop, tree.store sink content⟩
              consumed := received }

end Wire

/-- How moving the content of a stream ends that stops in this way. -/
def Inlet.Stop.afterContent : Inlet.Stop → Except Fault Unit
  | .ended => .ok ()
  | .failed error => .error (.host "read body" error)

/-- Moving the rest of a stream into a regular file takes all that it delivers. -/
theorem receiveBody_file
    {room : Nat}
    {location : Location}
    {tally counted : Tally}
    {inlet last : Inlet}
    {ended : Except Fault Unit}
    (positive : 0 < room)
    (received :
      receiveBody room (.file location) tally inlet = ((ended, counted), last)) :
    Tally.Extended tally inlet.wire.bytes counted ∧
      ended = inlet.wire.stop.afterContent ∧
      last.consumed = inlet.consumed + inlet.wire.bytes.length := by
  fun_induction receiveBody room (.file location) tally inlet with
  | case1 tally inlet error rest reads =>
      cases received
      obtain ⟨wire, consumed⟩ := Inlet.readSome_failed positive reads
      rw [wire]
      exact ⟨.refl _, rfl, consumed⟩
  | case2 tally inlet rest reads =>
      cases received
      obtain ⟨wire, consumed⟩ := Inlet.readSome_ended positive reads
      rw [wire]
      exact ⟨.refl _, rfl, consumed⟩
  | case3 tally inlet octet others rest reads error refused =>
      simp [Sink.refusal?] at refused
  | case4 tally inlet octet others rest reads accepted ih =>
      obtain ⟨-, wire, consumed⟩ :=
        Inlet.readSome_piece positive reads (by simp)
      obtain ⟨extended, ends, exhausted⟩ := ih received
      rw [wire]
      refine ⟨(Tally.Extended.record _ tally).trans extended, ends, ?_⟩
      rw [exhausted, consumed, Wire.bytes_after, List.length_append]
      omega

/-- A session that moved its content keeps it, and ends as its stream did. -/
theorem Output.close_extended
    {digesting : Bool}
    {content : Bytes}
    {counted : Tally}
    (extended : Tally.Extended (.start digesting) content counted)
    (output : Output)
    (elapsed : Elapsed)
    (opened : FileTree)
    (stop : Inlet.Stop) :
    output.close elapsed opened stop.afterContent counted =
      ⟨Wire.outcome
          (.ofContent .server digesting output.name output.path elapsed content)
          stop,
        opened.store output.sink content⟩ := by
  have gathered : counted.content = content := by
    simpa [Tally.content_start] using extended.content
  cases stop with
  | ended =>
      simp [close, Inlet.Stop.afterContent, Wire.outcome, gathered,
        Tally.finish_of_extended extended]
  | failed error =>
      simp [close, Inlet.Stop.afterContent, Wire.outcome, gathered]

namespace Inlet

theorem readName_no_field
    {inlet : Inlet}
    (short : inlet.wire.bytes.length < 2) :
    ∃ rest,
      inlet.readName =
          (.error ⟨.awaitHeaderLength,
            inlet.wire.stop.fault inlet.wire.bytes.length 2⟩, rest) ∧
        rest.consumed = inlet.consumed + inlet.wire.bytes.length := by
  obtain ⟨rest, field, consumed⟩ := readExact_of_lt short
  refine ⟨rest, ?_, consumed⟩
  simp [readName, Limits.lengthFieldSize, field]

theorem readName_malformed
    {inlet : Inlet}
    {length : Nat}
    (announced : Bytes.toNat (inlet.wire.bytes.take 2) = length)
    (malformed : length = 0 ∨ 255 < length)
    (field : 2 ≤ inlet.wire.bytes.length) :
    ∃ rest,
      inlet.readName =
          (.error ⟨.awaitHeaderLength, .malformedFrame length⟩, rest) ∧
        rest.consumed = inlet.consumed + 2 := by
  obtain ⟨rest, reads, -, consumed⟩ := readExact_of_le field
  have refused : ¬(1 ≤ length ∧ length ≤ 255) := by omega
  refine ⟨rest, ?_, consumed⟩
  simp [readName, Limits.lengthFieldSize, reads, Header.nameLength, announced,
    Limits.maxNameLength, refused]

/-- After a length field in range, the name decides. -/
theorem readName_of_field
    {inlet : Inlet}
    {length : Nat}
    (announced : Bytes.toNat (inlet.wire.bytes.take 2) = length)
    (allowed : 1 ≤ length ∧ length ≤ 255)
    (field : 2 ≤ inlet.wire.bytes.length) :
    ∃ middle : Inlet,
      (inlet.readName =
        match middle.readExact length with
        | (.error fault, last) => (.error ⟨.awaitFilename, fault⟩, last)
        | (.ok raw, last) => (.ok raw, last)) ∧
        middle.wire = inlet.wire.drop 2 ∧
        middle.consumed = inlet.consumed + 2 := by
  obtain ⟨middle, reads, dropped, consumed⟩ := readExact_of_le field
  refine ⟨middle, ?_, dropped, consumed⟩
  rcases name : middle.readExact length with ⟨fault | raw, last⟩ <;>
    simp only [readName, Limits.lengthFieldSize, reads, Header.nameLength, announced,
      Limits.maxNameLength, allowed, and_self, if_true, name]

theorem readName_no_name
    {inlet : Inlet}
    {length : Nat}
    (announced : Bytes.toNat (inlet.wire.bytes.take 2) = length)
    (allowed : 1 ≤ length ∧ length ≤ 255)
    (field : 2 ≤ inlet.wire.bytes.length)
    (short : inlet.wire.bytes.length < 2 + length) :
    ∃ rest,
      inlet.readName =
          (.error ⟨.awaitFilename,
            inlet.wire.stop.fault (inlet.wire.bytes.length - 2) length⟩, rest) ∧
        rest.consumed = inlet.consumed + inlet.wire.bytes.length := by
  obtain ⟨middle, reads, dropped, counted⟩ :=
    readName_of_field announced allowed field
  have remains : middle.wire.bytes.length = inlet.wire.bytes.length - 2 := by
    simp [dropped, Wire.drop]
  have less : middle.wire.bytes.length < length := by omega
  obtain ⟨rest, name, consumed⟩ := readExact_of_lt less
  refine ⟨rest, ?_, by omega⟩
  rw [reads, name, remains, dropped]
  rfl

/-- A whole header gives the name that it announces, and nothing beyond it is read. -/
theorem readName_whole
    {inlet : Inlet}
    {length : Nat}
    (announced : Bytes.toNat (inlet.wire.bytes.take 2) = length)
    (allowed : 1 ≤ length ∧ length ≤ 255)
    (enough : 2 + length ≤ inlet.wire.bytes.length) :
    ∃ rest,
      inlet.readName = (.ok ((inlet.wire.bytes.drop 2).take length), rest) ∧
        rest.wire = inlet.wire.drop (2 + length) ∧
        rest.consumed = inlet.consumed + (2 + length) := by
  obtain ⟨middle, reads, dropped, counted⟩ :=
    readName_of_field announced allowed (by omega)
  have remains : length ≤ middle.wire.bytes.length := by
    simp only [dropped, Wire.drop, List.length_drop]
    omega
  obtain ⟨rest, name, further, consumed⟩ := readExact_of_le remains
  refine ⟨rest, ?_, ?_, by omega⟩
  · rw [reads, name, dropped]
    rfl
  · rw [further, dropped]
    simp [Wire.drop, List.drop_drop]

end Inlet

/-- A session that knows its name comes to what the name and the rest come to. -/
theorem receiveFile_of_name
    (options : TransferOptions)
    {directory : Path}
    {tree : FileTree}
    {inlet rest : Inlet}
    {raw : Bytes}
    (regular :
      ∀ name, Filename.validate raw = .ok name →
        tree.RegularOutput (Path.join directory raw))
    (named : inlet.readName = (.ok raw, rest)) :
    let run := receiveFile options directory tree inlet
    match Filename.validate raw with
    | .error fault =>
        run.1 = ⟨.error ⟨.validateFilename, fault⟩, tree⟩ ∧ run.2 = rest
    | .ok name =>
        match tree.create (Path.join directory raw) with
        | .error error =>
            run.1 = ⟨.error ⟨.openOutput, .host "open output" error⟩, tree⟩ ∧
              run.2 = rest
        | .ok (sink, _) =>
            run.1 =
                ⟨Wire.outcome
                    (.ofContent .server options.digesting name
                      (Path.join directory raw) ⟨0, 0⟩ rest.wire.bytes)
                    rest.wire.stop,
                  tree.store sink rest.wire.bytes⟩ ∧
              run.2.consumed = rest.consumed + rest.wire.bytes.length := by
  simp only [receiveFile, named, Output.open?, Filename.place]
  cases validated : Filename.validate raw with
  | error fault => exact ⟨rfl, rfl⟩
  | ok text =>
      simp only [Except.map]
      cases opens : tree.create (Path.join directory raw) with
      | error error => exact ⟨rfl, rfl⟩
      | ok output =>
          rcases output with ⟨sink, opened⟩
          obtain ⟨location, rfl⟩ := regular text validated sink opened opens
          simp only
          generalize received : receiveBody options.room (.file location)
            (.start options.digesting) rest = answer
          rcases answer with ⟨⟨ended, counted⟩, last⟩
          obtain ⟨extended, rfl, exhausted⟩ :=
            receiveBody_file (Limits.room_pos _) received
          refine ⟨?_, exhausted⟩
          rw [Output.close_extended extended, FileTree.store_of_create opens]

/-- A session comes to what the whole of its stream comes to. -/
theorem receiveFile_eq_session
    (options : TransferOptions)
    {directory : Path}
    {tree : FileTree}
    {inlet : Inlet}
    (regular :
      ∀ raw name, inlet.readName.1 = .ok raw → Filename.validate raw = .ok name →
        tree.RegularOutput (Path.join directory raw)) :
    let run := receiveFile options directory tree inlet
    let verdict := inlet.wire.session options.digesting directory tree
    run.1 = verdict.reception ∧
      run.2.consumed = inlet.consumed + verdict.consumed := by
  simp only [Wire.session]
  generalize announced : Bytes.toNat (inlet.wire.bytes.take 2) = length
  split
  case isTrue noField =>
    obtain ⟨rest, reads, consumed⟩ := Inlet.readName_no_field noField
    simp [receiveFile, reads, consumed, Verdict.refused]
  split
  case isTrue noField malformed =>
    obtain ⟨rest, reads, consumed⟩ :=
      Inlet.readName_malformed announced malformed (by omega)
    simp [receiveFile, reads, consumed, Verdict.refused]
  split
  case isTrue noField wellFormed noName =>
    obtain ⟨rest, reads, consumed⟩ :=
      Inlet.readName_no_name announced (by omega) (by omega) noName
    simp [receiveFile, reads, consumed, Verdict.refused]
  case isFalse noField wellFormed enough =>
    obtain ⟨rest, named, further, consumed⟩ :=
      Inlet.readName_whole announced (by omega) (by omega)
    have law := receiveFile_of_name options
      (fun name => regular _ name (by rw [named])) named
    generalize (inlet.wire.bytes.drop 2).take length = raw at law ⊢
    simp only at law
    cases validated : Filename.validate raw with
    | error fault =>
        simp only [validated] at law
        rw [law.1, law.2]
        exact ⟨rfl, consumed⟩
    | ok name =>
        cases opens : tree.create (Path.join directory raw) with
        | error error =>
            simp only [validated, opens] at law
            rw [law.1, law.2]
            exact ⟨rfl, consumed⟩
        | ok output =>
            simp only [validated, opens, further, Wire.drop] at law
            refine ⟨law.1, ?_⟩
            rw [law.2, consumed, List.length_drop]
            simp only
            omega

/-- In a tree with nothing below its root, the stream alone decides a session. -/
theorem receiveFile_bare
    (options : TransferOptions)
    (directory : Path)
    (current : Location)
    (inlet : Inlet) :
    (receiveFile options directory (.bare current) inlet).1 =
      (inlet.wire.session options.digesting directory (.bare current)).reception :=
  (receiveFile_eq_session options fun raw name _ =>
    FileTree.offersFiles_bare current directory raw name).1

/-- Once an output is open, the content goes into one file and nothing else changes. -/
theorem Wire.session_opened
    {digesting : Bool}
    {directory : Path}
    {tree : FileTree}
    {wire : Wire}
    (regular : tree.OffersFiles directory)
    (opened :
      ∀ aborted,
        (wire.session digesting directory tree).reception.outcome =
            .error aborted →
          aborted.phase = .receiveBody) :
    let after := (wire.session digesting directory tree).reception.tree
    ∃ location,
      after.lookup? location =
          some (.file
            (wire.bytes.drop (2 + Bytes.toNat (wire.bytes.take 2)))) ∧
        ∀ other, other ≠ location → after.lookup? other = tree.lookup? other := by
  simp only [session] at opened ⊢
  generalize Bytes.toNat (wire.bytes.take 2) = length at opened ⊢
  split at opened
  case isTrue noField => exact absurd (opened _ rfl) (by simp)
  rw [if_neg ‹_›]
  split at opened
  case isTrue malformed => exact absurd (opened _ rfl) (by simp)
  rw [if_neg ‹_›]
  split at opened
  case isTrue noName => exact absurd (opened _ rfl) (by simp)
  rw [if_neg ‹_›]
  generalize (wire.bytes.drop 2).take length = raw at opened ⊢
  cases validated : Filename.validate raw with
  | error fault =>
      simp only [validated] at opened
      exact absurd (opened _ rfl) (by simp)
  | ok name =>
      cases opens : tree.create (Path.join directory raw) with
      | error error =>
          simp only [validated, opens] at opened
          exact absurd (opened _ rfl) (by simp)
      | ok output =>
          rcases output with ⟨sink, emptied⟩
          obtain ⟨location, rfl⟩ := regular raw name validated sink emptied opens
          obtain ⟨named, -⟩ := FileTree.create_file opens
          exact ⟨location, FileTree.lookup?_put_self _ tree named,
            fun other apart => FileTree.lookup?_put_of_ne _ tree apart⟩

/--
The octets that a stream delivers, and what stops it, decide a session: its
outcome, its files, and how much of the stream it takes.  Once an output is
open, the content goes into one file and nothing else changes.
-/
theorem receiveFile_decided_by_wire
    (options : TransferOptions)
    {directory : Path}
    {tree : FileTree}
    (regular : tree.OffersFiles directory)
    (inlet : Inlet) :
    let run := receiveFile options directory tree inlet
    let verdict := inlet.wire.session options.digesting directory tree
    let length := Bytes.toNat (inlet.wire.bytes.take 2)
    run.1 = verdict.reception ∧
      run.2.consumed = inlet.consumed + verdict.consumed ∧
      ((∀ aborted, run.1.outcome = .error aborted →
          aborted.phase = .receiveBody) →
        ∃ location,
          run.1.tree.lookup? location =
              some (.file (inlet.wire.bytes.drop (2 + length))) ∧
            ∀ other, other ≠ location →
              run.1.tree.lookup? other = tree.lookup? other) := by
  obtain ⟨same, consumed⟩ :=
    receiveFile_eq_session options
      fun raw name (_ : inlet.readName.1 = .ok raw) => regular raw name
  refine ⟨same, consumed, ?_⟩
  rw [same]
  exact Wire.session_opened regular

/-- A stream of single octets, interrupted in its length field, that ends before its script. -/
theorem receiveFile_decided_by_wire_octet_by_octet :
    let inlet := Inlet.ofSteps
      [.data [0], .failure (.ofKind .interrupted), .data [1, 0x61, 0x68],
        .close, .data [9]]
      (some 1)
    let run := receiveFile ⟨0, false⟩ [Path.dot] (.bare []) inlet
    (FileTree.bare []).OffersFiles [Path.dot] ∧
      run.1.outcome =
        .ok ⟨.server, "a", [Path.dot, Path.slash, 0x61], 1, ⟨0, 0⟩, none⟩ ∧
      run.2.consumed = 4 := by
  intro inlet run
  have regular := FileTree.offersFiles_bare [] [Path.dot]
  obtain ⟨same, consumed, -⟩ :=
    receiveFile_decided_by_wire ⟨0, false⟩ regular inlet
  refine ⟨regular, ?_, ?_⟩
  · rw [same]
    cbv
  · rw [consumed]
    cbv

end FileTransfer
