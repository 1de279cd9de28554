import FileTransfer.Proofs.Aftermath
import FileTransfer.Proofs.LastNames
import FileTransfer.Proofs.Willing

namespace FileTransfer

/-!
# Store and forward

A session that gives an account and stored its content in a regular file loses
nothing of its stream: the stream is the header of the name in the account,
followed by the stored content (`Receiver.Stores.stored`).  The name is found
again at the end of the path of the file, so sending that file passes on the
same stream (`send_of_receive`).
-/

namespace Filename

theorem ofPath_eq_ok_iff {text name : String} :
    ofPath text = .ok name ↔ lastName text = name ∧ name ≠ "" := by
  by_cases empty : lastName text = ""
  · simp only [ofPath, empty, if_true, reduceCtorEq, false_iff, not_and, not_not]
    exact fun same => same.symm
  · simp only [ofPath, empty, if_false, Except.ok.injEq]
    exact ⟨fun same => ⟨same, same ▸ empty⟩, And.left⟩

/-- The path of a valid name yields the name again, whatever the directory is called. -/
theorem ofPath_of_place
    {directory raw path : Path}
    {dirText name : String}
    (spelled : Bytes.text? directory = some dirText)
    (placed : place directory raw = .ok (name, path)) :
    ∃ text, Bytes.text? path = some text ∧ ofPath text = .ok name := by
  obtain ⟨valid, rfl⟩ := place_eq_ok_iff.mp placed
  obtain rfl := ofText_of_validate valid
  obtain ⟨nonempty, single, -⟩ := parts_of_isPlain (isPlain_of_validate valid)
  obtain ⟨text, reads⟩ := text?_join spelled name
  refine ⟨text, reads, ofPath_eq_ok_iff.mpr ⟨?_, ?_⟩⟩
  · exact lastName_of_join (Bytes.ofText_of_text? reads) single
  · rintro rfl
    exact nonempty Bytes.ofText_empty

end Filename

namespace Receiver

/-- A session gives an account of what it stored in a regular file. -/
structure Stores
    (options : TransferOptions)
    (directory : Path)
    (tree : FileTree)
    (receiver : Receiver)
    (receipt : Receipt) :
    Prop where
  outcome : (receiver.receive options directory tree).outcome = .ok receipt
  regular : tree.RegularOutput receipt.path

/-- What a session stored is what its stream carried under the name of its account. -/
theorem Stores.stored
    {options : TransferOptions}
    {directory : Path}
    {tree : FileTree}
    {receiver : Receiver}
    {receipt : Receipt}
    (stores : receiver.Stores options directory tree receipt) :
    let name := Bytes.ofText receipt.name
    Filename.place directory name = .ok (receipt.name, receipt.path) ∧
      ∃ location content, receiver.wire.Carries name content ∧
        (receiver.receive options directory tree).tree.find receipt.path =
          .ok (location, .file content) ∧
        receipt.untimed =
          .ofContent .server options.digesting receipt.name receipt.path ⟨0, 0⟩
            content := by
  rcases stores with ⟨outcome, regular⟩
  obtain refused | ⟨raw, name, sink, content, opened⟩ :=
    receiver.receive_cases options directory tree
  · obtain ⟨aborted, fails, -⟩ := refused.outcome
    rw [outcome] at fails
    cases fails
  · obtain ⟨carries, account⟩ := opened.completed receipt outcome
    have named : receipt.name = name := congrArg Receipt.name account
    have placed : receipt.path = Path.join directory raw :=
      congrArg Receipt.path account
    have octets : Bytes.ofText name = raw := Filename.ofText_of_validate opened.valid
    obtain ⟨emptied, opens⟩ := opened.opens
    rw [← placed] at opens
    obtain ⟨location, rfl⟩ := regular _ _ opens
    refine ⟨?_, location, content, ?_, ?_, ?_⟩
    · rw [named, octets]
      exact Filename.place_eq_ok_iff.mpr ⟨opened.valid, placed.symm⟩
    · rw [named, octets]
      exact carries
    · rw [opened.stored]
      exact FileTree.find_put_of_create opens content
    · rw [named, placed]
      exact account

/-- What a session stored can be sent. -/
theorem Stores.sendable
    {options : TransferOptions}
    {directory : Path}
    {dirText : String}
    {tree : FileTree}
    {receiver : Receiver}
    {receipt : Receipt}
    (stores : receiver.Stores options directory tree receipt)
    (spelled : Bytes.text? directory = some dirText) :
    ∃ content,
      receiver.wire.bytes = Header.announcement receipt.name ++ content ∧
        (receiver.receive options directory tree).tree.Sendable receipt.path
          receipt.name content ∧
        receipt.untimed =
          .ofContent .server options.digesting receipt.name receipt.path ⟨0, 0⟩
            content := by
  obtain ⟨placed, location, content, carries, stands, account⟩ := stores.stored
  obtain ⟨text, reads, named⟩ := Filename.ofPath_of_place spelled placed
  refine ⟨content, carries.bytes, ⟨⟨location, stands⟩, ⟨text, reads, ?_⟩, ?_, carries.short⟩,
    account⟩
  · exact (Filename.ofPath_eq_ok_iff.mp named).1
  · exact (Filename.place_eq_ok_iff.mp placed).1

/-- Sending what a session stored passes on its stream, and gives its account. -/
theorem Stores.sent_again
    {receiving sending : TransferOptions}
    {directory : Path}
    {dirText : String}
    {tree : FileTree}
    {receiver : Receiver}
    {receipt : Receipt}
    {sender : Sender}
    (stores : receiver.Stores receiving directory tree receipt)
    (spelled : Bytes.text? directory = some dirText)
    (willing : sender.Willing)
    (inTime :
      sender.InTime sending (receiver.receive receiving directory tree).tree
        receipt.path) :
    let run :=
      sender.send sending (receiver.receive receiving directory tree).tree receipt.path
    run.2.accepted = sender.accepted ++ receiver.wire.bytes ∧
      ∃ sent, run.1 = .ok sent ∧ sent.name = receipt.name ∧
        sent.bytes = receipt.bytes ∧
        (sending.digesting = receiving.digesting → sent.digest = receipt.digest) := by
  obtain ⟨content, bytes, sendable, received⟩ := stores.sendable spelled
  obtain ⟨sent, succeeded⟩ := Sender.send_of_willing sendable willing inTime
  obtain ⟨⟨moved, accepted, -, whole⟩, account⟩ := sender.send_sent sendable sending
  refine ⟨by rw [accepted, whole ⟨sent, succeeded⟩, bytes], sent, succeeded, ?_⟩
  rw [Receipt.eq_ofContent (account sent succeeded), Receipt.eq_ofContent received]
  refine ⟨rfl, rfl, ?_⟩
  intro alike
  simp [Receipt.ofContent, alike]

/-- Sessions that stored the same content under the same name had the same stream. -/
theorem Stores.same_stream
    {options others : TransferOptions}
    {directory place : Path}
    {tree files : FileTree}
    {receiver other : Receiver}
    {receipt account : Receipt}
    (stores : receiver.Stores options directory tree receipt)
    (otherStores : other.Stores others place files account)
    (sameName : account.name = receipt.name)
    (sameContent :
      (other.receive others place files).tree.contentOf account.path =
        (receiver.receive options directory tree).tree.contentOf receipt.path) :
    other.wire.bytes = receiver.wire.bytes := by
  obtain ⟨-, location, content, carries, stands, -⟩ := stores.stored
  obtain ⟨-, otherLocation, otherContent, otherCarries, otherStands, -⟩ :=
    otherStores.stored
  have same : otherContent = content := by
    simpa [FileTree.contentOf, stands, otherStands] using sameContent
  rw [carries.bytes, otherCarries.bytes, sameName, same]

end Receiver

/--
Sending the file that a session stored passes on the stream of the session once
more, and gives the same account.  The path of a valid name below a directory
yields that name, and the name and the stored content determine the stream.
-/
theorem send_of_receive
    {receiving : TransferOptions}
    {directory : Path}
    {dirText : String}
    {tree : FileTree}
    {receiver : Receiver}
    {receipt : Receipt}
    (spelled : Bytes.text? directory = some dirText)
    (stores : receiver.Stores receiving directory tree receipt) :
    let stored := (receiver.receive receiving directory tree).tree
    (∀ (sending : TransferOptions) (sender : Sender),
        sender.Willing → sender.InTime sending stored receipt.path →
          let run := sender.send sending stored receipt.path
          run.2.accepted = sender.accepted ++ receiver.wire.bytes ∧
            ∃ sent, run.1 = .ok sent ∧ sent.name = receipt.name ∧
              sent.bytes = receipt.bytes ∧
              (sending.digesting = receiving.digesting →
                sent.digest = receipt.digest)) ∧
      (∀ (raw path : Path) (name : String),
        Filename.place directory raw = .ok (name, path) →
          ∃ text, Bytes.text? path = some text ∧ Filename.ofPath text = .ok name) ∧
      ∀ (options : TransferOptions) (place : Path) (files : FileTree)
        (other : Receiver) (account : Receipt),
        other.Stores options place files account →
          account.name = receipt.name →
          (other.receive options place files).tree.contentOf account.path =
              stored.contentOf receipt.path →
            other.wire.bytes = receiver.wire.bytes := by
  intro stored
  refine ⟨?_, ?_, ?_⟩
  · intro sending sender willing inTime
    exact stores.sent_again spelled willing inTime
  · intro raw path name placed
    exact Filename.ofPath_of_place spelled placed
  · intro options place files other account otherStores sameName sameContent
    exact stores.same_stream otherStores sameName sameContent

/--
What was received octet by octet is sent again, also to a stream that takes its time
and its octets one by one.
-/
theorem send_of_receive_octet_by_octet :
    let receiver := Receiver.timed (some 30)
      (.ofSteps [.delay 30, .now (.data [0, 1, 0x61]), .now (.data [7])] (some 1))
    let stored := (receiver.receive ⟨0, false⟩ [Path.dot] (.bare [])).tree
    let blocking := Sender.blocking (.ofSteps [] none none none)
    let timed := Sender.timed
      (.ofSteps [.delay 5000, .now (.take 3), .delay 100, .now (.take 1)] none none none)
    ∃ receipt, receiver.Stores ⟨0, false⟩ [Path.dot] (.bare []) receipt ∧
      (blocking.send .standard stored receipt.path).2.accepted = [0, 1, 0x61, 7] ∧
      timed.InTime .standard stored receipt.path ∧
      (timed.send .standard stored receipt.path).2.accepted = [0, 1, 0x61, 7] := by
  intro receiver stored blocking timed
  have spelled : Bytes.text? [Path.dot] = some "." := by cbv
  have opensFile :
      (FileTree.bare []).OpensFile (Path.join [Path.dot] (Bytes.ofText "a")) :=
    FileTree.create_of_takes (by cbv) (by cbv) ⟨[], by cbv, .inl ⟨by cbv, by cbv⟩⟩
  have bytes : receiver.wire.bytes = Header.announcement "a" ++ [7] := by cbv
  have receivesInTime : receiver.InTime ⟨0, false⟩ [Path.dot] (.bare []) := by
    have field :
        TimedInlet.readExact? none 2
            (.ofSteps [.delay 30, .now (.data [0, 1, 0x61]), .now (.data [7])] (some 1)) =
          (some (.ok [0, 1]),
            ⟨[.now (.data [0x61]), .now (.data [7])], some 1, 2, 2, 30⟩) := by
      cbv
    have name :
        TimedInlet.readExact? none 1
            ⟨[.now (.data [0x61]), .now (.data [7])], some 1, 2, 2, 30⟩ =
          (some (.ok [0x61]), ⟨[.now (.data [7])], some 1, 3, 3, 30⟩) := by
      cbv
    have opens :
        Output.open? [Path.dot] (.bare []) [0x61] =
          .ok (⟨"a", [Path.dot, Path.slash, 0x61], .file [[0x61]]⟩,
            (FileTree.bare []).put [[0x61]] (.file [])) := by
      cbv
    have content :
        TimedInlet.contentOperations 1 ⟨[.now (.data [7])], some 1, 3, 3, 30⟩ =
          [⟨.content, some 0, [7]⟩, ⟨.content, some 0, []⟩] := by
      simp +decide [TimedInlet.contentOperations_eq, TimedInlet.readSome?,
        TimedInlet.read?, TimedInlet.readSteps?, capped, TimedInlet.operation]
    have operations :
        TimedInlet.operations 1 [Path.dot] (.bare [])
            (.ofSteps [.delay 30, .now (.data [0, 1, 0x61]), .now (.data [7])]
              (some 1)) =
          [⟨.lengthField, some 30, [0, 1]⟩, ⟨.name, some 0, [0x61]⟩,
            ⟨.content, some 0, [7]⟩, ⟨.content, some 0, []⟩] := by
      rw [TimedInlet.operations_of_header field (by cbv) name opens, content]
      rfl
    intro operation member
    change operation ∈ TimedInlet.operations 1 _ _ _ at member
    rw [operations] at member
    revert operation
    decide
  obtain ⟨-, elapsed, outcome⟩ :=
    receiver.receive_whole (by cbv) (by cbv) opensFile bytes (by cbv) receivesInTime
  let receipt : Receipt :=
    .ofContent .server false "a" [Path.dot, Path.slash, 0x61] elapsed [7]
  have stores : receiver.Stores ⟨0, false⟩ [Path.dot] (.bare []) receipt :=
    ⟨outcome, opensFile.regularOutput⟩
  have sendsInTime : timed.InTime .standard stored receipt.path := by
    obtain ⟨content, stream, sendable, -⟩ := stores.sendable spelled
    obtain rfl : content = [7] := List.append_cancel_left (stream.symm.trans bytes)
    have opens := Source.open?_of_sendable sendable (some timedSourceLimit)
    have header : Header.announcement receipt.name = [0, 1, 0x61] := by cbv
    have pieces :
        (Inlet.ofBytes [7] (some timedSourceLimit)).pieces
            TransferOptions.standard.room =
          [[7]] :=
      Inlet.pieces_of_fits (by decide) (by simp)
    have operations :
        TimedOutlet.operations TransferOptions.standard.room stored receipt.path
            (.ofSteps [.delay 5000, .now (.take 3), .delay 100, .now (.take 1)] none none
              none) =
          [⟨"write header", [0, 1, 0x61], some 5000⟩, ⟨"write body", [7], some 100⟩] := by
      simp only [TimedOutlet.operations, stored, opens, Source.steps, header, pieces]
      cbv
    intro operation member
    rw [operations] at member
    revert operation
    decide
  obtain ⟨forwards, -⟩ := send_of_receive spelled stores
  obtain ⟨accepted, -⟩ :=
    forwards .standard blocking (Outlet.willing_unscripted none) trivial
  have willing : timed.Willing :=
    ⟨List.forall_mem_cons.mpr ⟨Nat.succ_pos 2, List.forall_mem_singleton.mpr Nat.one_pos⟩,
      by decide, rfl⟩
  obtain ⟨acceptedInTime, -⟩ := forwards .standard timed willing sendsInTime
  refine ⟨receipt, stores, ?_, sendsInTime, ?_⟩
  · rw [accepted]
    cbv
  · rw [acceptedInTime]
    cbv

end FileTransfer
