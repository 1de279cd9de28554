import FileTransfer.Proofs.TimedReceiving
import FileTransfer.Proofs.Walks
import FileTransfer.Proofs.Willing

namespace FileTransfer

/-!
# From one file to another

A receiver is given exactly the octets that a sender's stream accepted, in
whatever pieces they come, and then the end of its stream.  If the sender
succeeded, both sides hold the same content and give the same account of it.
Otherwise the receiver either misses a part of the header and changes nothing,
or stores a front of the content.
-/

/-- How a session is aborted whose stream ends within the header of a name. -/
def Header.cutOff (name : String) (received : Nat) : Abort :=
  if received < 2 then ⟨.awaitHeaderLength, .unexpectedEof received 2⟩
  else
    ⟨.awaitFilename,
      .unexpectedEof (received - 2) (Bytes.ofText name).length⟩

theorem Header.toNat_take_two
    {name : String}
    {octets following : Bytes}
    (front : octets <+: announcement name ++ following)
    (field : 2 ≤ octets.length)
    (short : (Bytes.ofText name).length ≤ 255) :
    Bytes.toNat (octets.take 2) = (Bytes.ofText name).length := by
  have same : octets.take 2 = Bytes.ofNat16 (Bytes.ofText name).length := by
    rw [List.prefix_iff_eq_take.mp front, List.take_take, Nat.min_eq_left field]
    rfl
  rw [same, Bytes.toNat_ofNat16 (by omega)]

theorem Header.take_drop_two (name : String) (content : Bytes) :
    ((announcement name ++ content).drop 2).take (Bytes.ofText name).length =
      Bytes.ofText name := by
  simp [announcement, Bytes.ofNat16]

/-- What is as long as a header, and in front of a header and content, contains the header. -/
theorem Header.eq_append_take
    {name : String}
    {octets content : Bytes}
    (front : octets <+: announcement name ++ content)
    (whole : (announcement name).length ≤ octets.length) :
    octets =
      announcement name ++
        content.take (octets.length - (announcement name).length) := by
  calc
    octets = (announcement name ++ content).take octets.length :=
      List.prefix_iff_eq_take.mp front
    _ = _ := by rw [List.take_append, List.take_of_length_le whole]

namespace Wire

/-- A session whose stream ends within its header changes nothing. -/
theorem session_of_short
    {name : String}
    {octets following : Bytes}
    (front : octets <+: Header.announcement name ++ following)
    (missing : octets.length < (Header.announcement name).length)
    (nonempty : Bytes.ofText name ≠ [])
    (short : (Bytes.ofText name).length ≤ 255)
    (digesting : Bool)
    (directory : Path)
    (tree : FileTree) :
    (session digesting directory tree ⟨octets, .ended⟩).reception =
      ⟨.error (Header.cutOff name octets.length), tree⟩ := by
  rw [Header.length_announcement] at missing
  have given := List.length_pos_iff.mpr nonempty
  simp only [session, Header.cutOff]
  split
  case isTrue noField => rfl
  case isFalse field =>
    rw [Header.toNat_take_two front (by omega) short, if_neg (by omega),
      if_pos missing]
    rfl

/-- A session that gets a whole header stores what comes after it. -/
theorem session_of_header
    {name : String}
    {content : Bytes}
    {directory : Path}
    {tree opened : FileTree}
    {location : Location}
    (valid : Filename.validate (Bytes.ofText name) = .ok name)
    (nonempty : Bytes.ofText name ≠ [])
    (short : (Bytes.ofText name).length ≤ 255)
    (opens :
      tree.create (Path.join directory (Bytes.ofText name)) =
        .ok (.file location, opened))
    (digesting : Bool) :
    (session digesting directory tree
        ⟨Header.announcement name ++ content, .ended⟩).reception =
      ⟨.ok (.ofContent .server digesting name
          (Path.join directory (Bytes.ofText name)) ⟨0, 0⟩ content),
        tree.put location (.file content)⟩ := by
  have size := Header.length_announcement name
  have given := List.length_pos_iff.mpr nonempty
  have rest :
      (Header.announcement name ++ content).drop
          (2 + (Bytes.ofText name).length) =
        content := by
    rw [← size, List.drop_left]
  simp only [session, List.length_append]
  rw [Header.toNat_take_two List.prefix_rfl
      (by rw [List.length_append]; omega) short,
    if_neg (by omega), if_neg (by omega), if_neg (by omega), Header.take_drop_two, rest]
  simp only [valid, opens]
  rfl

/-- The account that is read off a whole stream shows no time. -/
theorem session_untimed
    (digesting : Bool)
    (directory : Path)
    (tree : FileTree)
    (wire : Wire) :
    let outcome := (wire.session digesting directory tree).reception.outcome
    outcome.map Receipt.untimed = outcome := by
  simp only [session]
  split
  case isTrue => rfl
  split
  case isTrue => rfl
  split
  case isTrue => rfl
  cases Filename.validate _ with
  | error fault => rfl
  | ok name =>
      cases tree.create _ with
      | error error => rfl
      | ok output => cases wire.stop <;> rfl

end Wire

/-- A session that knows its name was given a whole header. -/
theorem Inlet.readName_ok
    {inlet : Inlet}
    {raw : Bytes}
    (named : inlet.readName.1 = .ok raw) :
    let length := Bytes.toNat (inlet.wire.bytes.take 2)
    2 + length ≤ inlet.wire.bytes.length ∧
      raw = (inlet.wire.bytes.drop 2).take length := by
  intro length
  by_cases field : inlet.wire.bytes.length < 2
  · obtain ⟨rest, reads, -⟩ := readName_no_field field
    simp [reads] at named
  by_cases allowed : length = 0 ∨ 255 < length
  · obtain ⟨rest, reads, -⟩ := readName_malformed rfl allowed (by omega)
    simp [reads] at named
  by_cases enough : inlet.wire.bytes.length < 2 + length
  · obtain ⟨rest, reads, -⟩ :=
      readName_no_name rfl (by omega) (by omega) enough
    simp [reads] at named
  · have whole : 2 + length ≤ inlet.wire.bytes.length := Nat.le_of_not_lt enough
    obtain ⟨rest, reads, -⟩ := readName_whole rfl (by omega) whole
    rw [reads] at named
    cases named
    exact ⟨by omega, rfl⟩

/-- A receiving side, with or without a clock. -/
inductive Receiver where
  | blocking (inlet : Inlet)
  | timed (readDeadline : Option Nat) (inlet : TimedInlet)
  deriving Repr

namespace Receiver

/-- What the stream of a receiver delivers, and what stops it. -/
def wire : Receiver → Wire
  | .blocking inlet => inlet.wire
  | .timed _ inlet => inlet.untimed.wire

/-- Whether no deadline of a receiver is missed. -/
def InTime
    (options : TransferOptions)
    (directory : Path)
    (tree : FileTree) :
    Receiver → Prop
  | .blocking _ => True
  | .timed readDeadline inlet =>
      ∀ operation ∈ inlet.operations options.room directory tree,
        operation.InTime readDeadline options.room

/-- Run one session. -/
def receive
    (options : TransferOptions)
    (directory : Path)
    (tree : FileTree) :
    Receiver → Reception
  | .blocking inlet => (receiveFile options directory tree inlet).1
  | .timed readDeadline inlet =>
      (receiveFileTimed options readDeadline directory tree inlet).1

/-- A session that misses no deadline comes to what its whole stream comes to. -/
theorem receive_eq_session
    (options : TransferOptions)
    (directory : Path)
    (tree : FileTree)
    (receiver : Receiver)
    (regular :
      let length := Bytes.toNat (receiver.wire.bytes.take 2)
      let raw := (receiver.wire.bytes.drop 2).take length
      2 + length ≤ receiver.wire.bytes.length →
        ∀ name, Filename.validate raw = .ok name →
          tree.RegularOutput (Path.join directory raw))
    (inTime : receiver.InTime options directory tree) :
    let reception := receiver.receive options directory tree
    let verdict := receiver.wire.session options.digesting directory tree
    reception.outcome.map Receipt.untimed = verdict.reception.outcome ∧
      reception.tree = verdict.reception.tree := by
  have instant (inlet : Inlet) (same : receiver.wire = inlet.wire) :
      (receiveFile options directory tree inlet).1 =
        (receiver.wire.session options.digesting directory tree).reception := by
    rw [same] at regular ⊢
    refine (receiveFile_eq_session options fun raw name named => ?_).1
    obtain ⟨enough, rfl⟩ := Inlet.readName_ok named
    exact regular enough name
  cases receiver with
  | blocking inlet =>
      simp only [receive, instant inlet rfl]
      exact ⟨Wire.session_untimed _ _ _ _, trivial⟩
  | timed readDeadline inlet =>
      obtain ⟨outcome, files, -⟩ :=
        receiveFileTimed_in_time options
          (fun raw name named => by
            obtain ⟨enough, rfl⟩ := Inlet.readName_ok named
            exact regular enough name)
          inTime
      rw [instant inlet.untimed rfl] at outcome files
      exact ⟨outcome, files⟩

/--
A receiver that is given a front of a header and a content changes nothing
unless the header is whole, and otherwise stores the front of the content.
-/
theorem receive_front
    {name : String}
    {content : Bytes}
    {directory : Path}
    {tree : FileTree}
    (valid : Filename.validate (Bytes.ofText name) = .ok name)
    (short : (Bytes.ofText name).length ≤ 255)
    (opensFile : tree.OpensFile (Path.join directory (Bytes.ofText name)))
    {options : TransferOptions}
    {receiver : Receiver}
    (front : receiver.wire.bytes <+: Header.announcement name ++ content)
    (ends : receiver.wire.stop = .ended)
    (inTime : receiver.InTime options directory tree) :
    let reception := receiver.receive options directory tree
    let octets := receiver.wire.bytes
    let header := Header.announcement name
    let output := Path.join directory (Bytes.ofText name)
    (octets.length < header.length →
        reception = ⟨.error (Header.cutOff name octets.length), tree⟩) ∧
      (header.length ≤ octets.length →
        let front := content.take (octets.length - header.length)
        reception.tree.contentOf output = .ok front ∧
          ∃ elapsed,
            reception.outcome =
              .ok (.ofContent .server options.digesting name output elapsed
                front)) := by
  intro reception octets header output
  have plain := Filename.isPlain_of_validate valid
  obtain ⟨nonempty, -⟩ := Filename.parts_of_isPlain plain
  have size := Header.length_announcement name
  have wire : receiver.wire = ⟨octets, .ended⟩ := by
    rw [← ends]
  obtain ⟨outcome, files⟩ :=
    receive_eq_session options directory tree receiver
      (fun enough _ _ => by
        have announced := Header.toNat_take_two front (by omega) short
        rw [announced] at enough ⊢
        rw [Header.eq_append_take front (by rw [size]; exact enough),
          Header.take_drop_two]
        exact opensFile.regularOutput)
      inTime
  rw [wire] at outcome files
  constructor
  · intro missing
    rw [Wire.session_of_short front missing nonempty short] at outcome files
    cases ended : reception.outcome with
    | error aborted =>
        have same : aborted = Header.cutOff name octets.length := by
          simpa [reception, ended, Except.map] using outcome
        calc
          reception = ⟨reception.outcome, reception.tree⟩ := rfl
          _ = ⟨.error (Header.cutOff name octets.length), tree⟩ := by
            rw [ended, same]
            exact congrArg _ files
    | ok receipt => simp [reception, ended, Except.map] at outcome
  · intro enough kept
    have whole : octets = header ++ kept := Header.eq_append_take front enough
    obtain ⟨location, opened, opens⟩ := opensFile
    rw [whole, Wire.session_of_header valid nonempty short opens] at outcome files
    refine ⟨?_, ?_⟩
    · rw [files]
      exact FileTree.contentOf_put_of_create opens kept
    · cases ended : reception.outcome with
      | error aborted => simp [reception, ended, Except.map] at outcome
      | ok receipt =>
          have same : receipt.untimed = .ofContent .server options.digesting name
              output ⟨0, 0⟩ kept := by
            simpa [reception, ended, Except.map] using outcome
          exact ⟨receipt.elapsed, by rw [← Receipt.eq_ofContent same]⟩

/-- A receiver that is given a whole header and content stores the content. -/
theorem receive_whole
    {name : String}
    {content : Bytes}
    {directory : Path}
    {tree : FileTree}
    (valid : Filename.validate (Bytes.ofText name) = .ok name)
    (short : (Bytes.ofText name).length ≤ 255)
    (opensFile : tree.OpensFile (Path.join directory (Bytes.ofText name)))
    {options : TransferOptions}
    {receiver : Receiver}
    (bytes : receiver.wire.bytes = Header.announcement name ++ content)
    (ends : receiver.wire.stop = .ended)
    (inTime : receiver.InTime options directory tree) :
    let reception := receiver.receive options directory tree
    let output := Path.join directory (Bytes.ofText name)
    reception.tree.contentOf output = .ok content ∧
      ∃ elapsed,
        reception.outcome =
          .ok (.ofContent .server options.digesting name output elapsed content) := by
  have front : receiver.wire.bytes <+: Header.announcement name ++ content := by
    rw [bytes]
  obtain ⟨-, stored⟩ := receive_front valid short opensFile front ends inTime
  have size :
      receiver.wire.bytes.length =
        (Header.announcement name).length + content.length := by
    rw [bytes, List.length_append]
  simpa only [size, Nat.add_sub_cancel_left, List.take_length] using
    stored (by omega)

end Receiver

/--
A receiver whose output opens as a regular file, and that is given what a sender
passed on, holds the same file as the sender, if that succeeded.  Otherwise it
either changes nothing, because a part of the header is missing, or holds the
front of the file that was passed on.
-/
theorem receive_of_send
    {source tree : FileTree}
    {path directory : Path}
    {name : String}
    {content : Bytes}
    (sendable : source.Sendable path name content)
    (opensFile : tree.OpensFile (Path.join directory (Bytes.ofText name)))
    {sending receiving : TransferOptions}
    {sender : Sender}
    {receiver : Receiver}
    (joined :
      (sender.send sending source path).2.accepted =
        sender.accepted ++ receiver.wire.bytes)
    (ends : receiver.wire.stop = .ended)
    (inTime : receiver.InTime receiving directory tree) :
    let sent := (sender.send sending source path).1
    let reception := receiver.receive receiving directory tree
    let octets := receiver.wire.bytes
    let header := Header.announcement name
    let output := Path.join directory (Bytes.ofText name)
    octets <+: header ++ content ∧
      (∀ receipt, sent = .ok receipt →
        octets = header ++ content ∧
          reception.tree.contentOf output = .ok content ∧
          ∃ received, reception.outcome = .ok received ∧
            received.name = receipt.name ∧
            received.bytes = receipt.bytes ∧
            (sending.digesting → receiving.digesting →
              received.digest = receipt.digest)) ∧
      (octets.length < header.length →
        reception = ⟨.error (Header.cutOff name octets.length), tree⟩) ∧
      (header.length ≤ octets.length →
        let front := content.take (octets.length - header.length)
        reception.tree.contentOf output = .ok front ∧
          ∃ elapsed,
            reception.outcome =
              .ok (.ofContent .server receiving.digesting name output elapsed
                front)) := by
  intro sent reception octets header output
  obtain ⟨⟨moved, accepted, front, whole⟩, account⟩ :=
    sender.send_sent sendable sending
  obtain rfl : octets = moved :=
    List.append_cancel_left (joined.symm.trans accepted)
  obtain ⟨cut, stored⟩ :=
    Receiver.receive_front sendable.plain sendable.short opensFile front ends inTime
  refine ⟨front, fun receipt succeeded => ?_, cut, stored⟩
  have entire : octets = header ++ content := whole ⟨receipt, succeeded⟩
  have enough : header.length ≤ octets.length := by
    rw [entire, List.length_append]
    omega
  obtain ⟨holds, elapsed, outcome⟩ := stored enough
  have all : content.take (octets.length - header.length) = content := by
    rw [entire, List.length_append, Nat.add_sub_cancel_left, List.take_length]
  rw [all] at holds outcome
  refine ⟨entire, holds, _, outcome, ?_⟩
  rw [Receipt.eq_ofContent (account receipt succeeded)]
  refine ⟨rfl, rfl, ?_⟩
  intro asked wanted
  simp [Receipt.ofContent, asked, wanted]

/--
A file that is sent through short writes, and received octet by octet, below a
directory where its name is a link to a free place.
-/
theorem receive_of_send_octet_by_octet :
    let source := (FileTree.bare []).put [[0x61]] (.file [7])
    let tree := (FileTree.bare []).put [[0x61]] (.link [0x62])
    let sender := Sender.timed
      (.ofSteps [.delay 20, .now (.take 1), .now (.failure (.ofKind .interrupted))]
        none none none)
    let receiver := Receiver.blocking
      (.ofSteps [.data [0], .failure (.ofKind .interrupted), .data [1, 0x61, 7]]
        (some 1))
    let reception := receiver.receive ⟨0, false⟩ [Path.dot] tree
    source.Sendable [0x61] "a" [7] ∧
      tree.OpensFile [Path.dot, Path.slash, 0x61] ∧
      (sender.send ⟨4096, false⟩ source [0x61]).2.accepted = receiver.wire.bytes ∧
      reception.tree.contentOf [Path.dot, Path.slash, 0x61] = .ok [7] := by
  intro source tree sender receiver reception
  have sendable : source.Sendable [0x61] "a" [7] :=
    ⟨⟨[[0x61]], by cbv⟩, ⟨"a", by cbv, by cbv⟩, by cbv, by cbv⟩
  have opensFile : tree.OpensFile (Path.join [Path.dot] (Bytes.ofText "a")) :=
    ⟨[[0x62]], tree.put [[0x62]] (.file []), by cbv⟩
  have joined :
      (sender.send ⟨4096, false⟩ source [0x61]).2.accepted =
        sender.accepted ++ receiver.wire.bytes := by
    have opened :
        Source.open? (some timedSourceLimit) source [0x61] =
          .ok ⟨"a", [0, 1, 0x61], .ofBytes [7] (some timedSourceLimit)⟩ :=
      Source.open?_of_sendable sendable _
    have body :=
      sendBodyTimed_of_fits (by cbv : [7].length ≤ capped (some timedSourceLimit) 4096)
        (List.cons_ne_nil 7 [])
    have room : TransferOptions.room ⟨4096, false⟩ = 4096 := rfl
    simp only [sender, Sender.send, sendFileTimed, opened, sendSourceTimed, room,
      body]
    cbv
  have inTime : receiver.InTime ⟨0, false⟩ [Path.dot] tree := trivial
  obtain ⟨-, -, -, stored⟩ :=
    receive_of_send sendable opensFile joined (by cbv) inTime
  exact ⟨sendable, opensFile, joined, (stored (by cbv)).1⟩

/-- A link to itself is not a directory, and no output opens through it. -/
theorem looping_link_takes_nothing :
    let source := (FileTree.bare []).put [[0x61]] (.file [7])
    let tree := (FileTree.bare []).put [[0x61]] (.link [0x61])
    let sender := Sender.blocking (.ofSteps [] none none none)
    let receiver := Receiver.blocking (.ofBytes [0, 1, 0x61, 7] none)
    let run := sender.send .standard source [0x61]
    source.Sendable [0x61] "a" [7] ∧
      tree.find [Path.dot] = .ok ([], .directory) ∧
      (∀ location, tree.find [Path.dot, Path.slash, 0x61] ≠
        .ok (location, .directory)) ∧
      (∃ receipt, run.1 = .ok receipt) ∧
      run.2.accepted = receiver.wire.bytes ∧ receiver.wire.stop = .ended ∧
      receiver.InTime .standard [Path.dot] tree ∧
      receiver.receive .standard [Path.dot] tree =
        ⟨.error ⟨.openOutput, .host "open output" (.ofErrno .linkLoop)⟩, tree⟩ := by
  intro source tree sender receiver run
  have sendable : source.Sendable [0x61] "a" [7] :=
    ⟨⟨[[0x61]], by cbv⟩, ⟨"a", by cbv, by cbv⟩, by cbv, by cbv⟩
  have willing : sender.Willing := Outlet.willing_unscripted none
  have succeeds : ∃ receipt, run.1 = .ok receipt :=
    Sender.send_of_willing sendable willing trivial
  obtain ⟨⟨moved, accepted, -, whole⟩, -⟩ := sender.send_sent sendable .standard
  refine ⟨sendable, by cbv, ?_, succeeds, ?_, by cbv, trivial, by cbv⟩
  · intro location found
    have loops :
        tree.find [Path.dot, Path.slash, 0x61] = .error (.ofErrno .linkLoop) := by
      cbv
    rw [loops] at found
    cases found
  · rw [accepted, whole succeeds]
    cbv

end FileTransfer
