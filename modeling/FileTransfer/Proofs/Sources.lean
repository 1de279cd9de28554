import FileTransfer.Proofs.Aftermath
import FileTransfer.Proofs.Willing

namespace FileTransfer

/-!
# What can be sent

A sender succeeds only if it reads its source to the end (`Sender.stop_of_sendSource`).
A source that cannot be read is therefore never sent.  Most of them are found
out before the stream is touched, but not a directory: it can be opened, and
only the first read of it fails, when its header is already on its way
(`send_of_unreadable`).
-/

/-- Content that was moved entirely was read up to the end of its source. -/
theorem stop_of_sendBody
    {room : Nat}
    {source : Inlet}
    {tally counted : Tally}
    {outlet last : Outlet}
    (positive : 0 < room)
    (sent : sendBody room source tally outlet = ((.ok (), counted), last)) :
    source.wire.stop = .ended := by
  fun_induction sendBody room source tally outlet with
  | case1 => cases sent
  | case2 source tally outlet rest reads =>
      obtain ⟨wire, -⟩ := Inlet.readSome_ended positive reads
      rw [wire]
  | case3 => cases sent
  | case4 source tally outlet octet others rest reads after writes ih =>
      obtain ⟨-, wire, -⟩ := Inlet.readSome_piece positive reads (by simp)
      rw [wire]
      exact ih sent

theorem stop_of_sendBodyTimed
    {room : Nat}
    {source : Inlet}
    {tally counted : Tally}
    {outlet last : TimedOutlet}
    (positive : 0 < room)
    (sent : sendBodyTimed room source tally outlet = ((.ok (), counted), last)) :
    source.wire.stop = .ended := by
  fun_induction sendBodyTimed room source tally outlet with
  | case1 => cases sent
  | case2 source tally outlet rest reads =>
      obtain ⟨wire, -⟩ := Inlet.readSome_ended positive reads
      rw [wire]
  | case3 => cases sent
  | case4 source tally outlet octet others rest reads after writes ih =>
      obtain ⟨-, wire, -⟩ := Inlet.readSome_piece positive reads (by simp)
      rw [wire]
      exact ih sent

/-- A source that was sent was read up to its end. -/
theorem Sender.stop_of_sendSource
    {options : TransferOptions}
    {path : Path}
    {source : Source}
    {sender : Sender}
    {receipt : Receipt}
    (sent : (sender.sendSource options path source).1 = .ok receipt) :
    source.inlet.wire.stop = .ended := by
  cases sender with
  | blocking outlet =>
      simp only [sendSource, FileTransfer.sendSource] at sent
      split at sent
      case h_1 => cases sent
      case h_2 after header =>
        split at sent
        case h_1 => cases sent
        case h_2 counted last body =>
          exact stop_of_sendBody (Limits.room_pos _) body
  | timed outlet =>
      simp only [sendSource, sendSourceTimed] at sent
      split at sent
      case h_1 => cases sent
      case h_2 after header =>
        split at sent
        case h_1 => cases sent
        case h_2 counted last body =>
          exact stop_of_sendBodyTimed (Limits.room_pos _) body

/-- Reading a directory fails at once. -/
theorem Entry.wire_directory (limit : Option Nat) :
    (inlet limit .directory).wire = .stopped (.failed (.ofErrno .isDirectory)) := by
  rfl

namespace FileTree

/-- Whatever exists has a content that is read from it, unless it is a directory. -/
theorem contentOf_of_find
    {tree : FileTree}
    {path : Path}
    {location : Location}
    {entry : Entry}
    (stands : tree.find path = .ok (location, entry))
    (notDirectory : entry ≠ .directory) :
    ∃ content, tree.contentOf path = .ok content ∧
      ∀ limit, entry.inlet limit = .ofBytes content limit := by
  cases entry with
  | directory => exact absurd rfl notDirectory
  | file content => exact ⟨content, by simp [contentOf, stands], fun _ => rfl⟩
  | link target => exact ⟨[], by simp [contentOf, stands], fun _ => rfl⟩
  | device device => exact ⟨[], by simp [contentOf, stands], fun _ => rfl⟩

/-- Of what exists, only a directory cannot be read. -/
theorem directory_of_contentOf
    {tree : FileTree}
    {path : Path}
    {error : HostError}
    {location : Location}
    {entry : Entry}
    (unreadable : tree.contentOf path = .error error)
    (stands : tree.find path = .ok (location, entry)) :
    entry = .directory := by
  by_contra notDirectory
  obtain ⟨content, reads, -⟩ := contentOf_of_find stands notDirectory
  rw [unreadable] at reads
  cases reads

theorem isDirectory_iff
    {tree : FileTree}
    {path : Path} :
    tree.isDirectory path ↔
      ∃ location, tree.find path = .ok (location, .directory) := by
  unfold isDirectory
  split
  case h_1 location found => simp [found]
  case h_2 other =>
    simp only [Bool.false_eq_true, false_iff, not_exists]
    exact other

end FileTree

/-- A session changes nothing if its stream delivers nothing. -/
theorem Receiver.tree_of_nothing
    {receiver : Receiver}
    (nothing : receiver.wire.bytes = [])
    (options : TransferOptions)
    (directory : Path)
    (tree : FileTree) :
    (receiver.receive options directory tree).tree = tree := by
  obtain refused | ⟨raw, name, sink, content, opened⟩ :=
    receiver.receive_cases options directory tree
  · exact refused.unchanged
  · obtain ⟨missed, carries⟩ := opened.carries
    have announced := carries.bytes
    rw [nothing] at announced
    simp [carries.nonempty] at announced

namespace Sender

variable
  {tree : FileTree}
  {path : Path}
  {error : HostError}

theorem send_of_open?
    {sender : Sender}
    {source : Source}
    (opens : Source.open? sender.sourceLimit tree path = .ok source)
    (options : TransferOptions) :
    sender.send options tree path = sender.sendSource options path source := by
  simp only [send_eq, opens]

/--
A sender that succeeds has passed on the header of a name that its path
announces, and the content that stands there.
-/
theorem sent_of_send
    {options : TransferOptions}
    {sender : Sender}
    {receipt : Receipt}
    (sent : (sender.send options tree path).1 = .ok receipt) :
    ∃ content, tree.contentOf path = .ok content ∧
      Filename.Announces path receipt.name ∧
      (sender.send options tree path).2.accepted =
        sender.accepted ++ (Header.announcement receipt.name ++ content) ∧
      receipt.untimed =
        .ofContent .client options.digesting receipt.name path ⟨0, 0⟩ content := by
  cases opens : Source.open? sender.sourceLimit tree path with
  | error fault =>
      rw [send_eq, opens] at sent
      cases sent
  | ok source =>
      obtain ⟨location, entry, stands, announces, header, inlet⟩ :=
        Source.announced_of_open? opens
      rw [send_of_open? opens] at sent ⊢
      have notDirectory : entry ≠ .directory := by
        rintro rfl
        have stop := stop_of_sendSource sent
        rw [inlet, Entry.wire_directory] at stop
        cases stop
      obtain ⟨content, reads, delivers⟩ := FileTree.contentOf_of_find stands notDirectory
      have wire : source.inlet.wire = ⟨content, .ended⟩ := by
        rw [inlet, delivers, Inlet.wire_ofBytes sender.sourceLimit_moves]
      obtain ⟨⟨moved, accepted, -, whole⟩, account⟩ :=
        sender.sendSource_sent options path source
      have named : receipt.name = source.name :=
        congrArg Receipt.name (account receipt sent)
      refine ⟨content, reads, by rw [named]; exact announces, ?_, ?_⟩
      · rw [accepted, whole ⟨receipt, sent⟩, header, named, wire]
      · rw [account receipt sent, named, wire]

theorem send_fails_of_unreadable
    (unreadable : tree.contentOf path = .error error)
    (options : TransferOptions)
    (sender : Sender) :
    ∃ fault, (sender.send options tree path).1 = .error fault := by
  cases sent : (sender.send options tree path).1 with
  | error fault => exact ⟨fault, rfl⟩
  | ok receipt =>
      obtain ⟨content, reads, -⟩ := sent_of_send sent
      rw [unreadable] at reads
      cases reads

/-- A source that is not even opened leaves the stream alone. -/
theorem untouched_of_unreadable
    (unreadable : tree.contentOf path = .error error)
    (harmless : ¬tree.isDirectory path ∨ ∀ name, ¬Filename.Announces path name)
    (options : TransferOptions)
    (sender : Sender) :
    (sender.send options tree path).2 = sender := by
  cases opens : Source.open? sender.sourceLimit tree path with
  | error fault => simp only [send_eq, opens]
  | ok source =>
      obtain ⟨location, entry, stands, announces, -⟩ := Source.announced_of_open? opens
      obtain rfl := FileTree.directory_of_contentOf unreadable stands
      rcases harmless with elsewhere | nameless
      · exact absurd (FileTree.isDirectory_iff.mpr ⟨location, stands⟩) elsewhere
      · exact absurd announces (nameless source.name)

/-- Of a directory, a stream is offered the header and nothing else. -/
theorem send_of_directory
    {name : String}
    (isDirectory : tree.isDirectory path)
    (announces : Filename.Announces path name)
    (options : TransferOptions)
    (sender : Sender) :
    let run := sender.send options tree path
    ∃ moved, run.2.accepted = sender.accepted ++ moved ∧
      moved <+: Header.announcement name ∧
      (sender.Willing → sender.InTime options tree path →
        moved = Header.announcement name) := by
  intro run
  obtain ⟨location, stands⟩ := FileTree.isDirectory_iff.mp isDirectory
  have opens := Source.open?_of_announced announces stands sender.sourceLimit
  have sent := sender.sendSource_sent options path
    ⟨name, Header.announcement name, Entry.inlet sender.sourceLimit .directory⟩
  rw [← send_of_open? opens, Entry.wire_directory] at sent
  obtain ⟨moved, accepted, front, -⟩ := sent.accepted
  have header : moved <+: Header.announcement name := by
    simpa [Wire.stopped] using front
  refine ⟨moved, accepted, header, fun willing inTime => ?_⟩
  obtain ⟨⟨more, whole⟩, -⟩ := send_opened_of_willing opens willing inTime
  have all : sender.accepted ++ moved =
      sender.accepted ++ (Header.announcement name ++ more) := by
    rw [← accepted, ← List.append_assoc]
    exact whole
  rw [List.append_cancel_left all] at header ⊢
  exact header.eq_of_length_le (by rw [List.length_append]; omega)

end Sender

/--
A source that cannot be read is not sent.  Unless it is a directory with a name
that can be announced, its sender does nothing to its stream, so that a receiver
of what was passed on changes nothing.  Of such a directory the stream is
offered the header, and a stream that keeps accepting takes all of it.
-/
theorem send_of_unreadable
    {source : FileTree}
    {path : Path}
    {error : HostError}
    (unreadable : source.contentOf path = .error error)
    (sending : TransferOptions)
    (sender : Sender) :
    let run := sender.send sending source path
    (∃ fault, run.1 = .error fault) ∧
      ((¬source.isDirectory path ∨ ∀ name, ¬Filename.Announces path name) →
        run.2 = sender ∧
          ∀ (receiving : TransferOptions) (directory : Path) (tree : FileTree)
            (receiver : Receiver),
            run.2.accepted = sender.accepted ++ receiver.wire.bytes →
              (receiver.receive receiving directory tree).tree = tree) ∧
      (source.isDirectory path →
        ∀ name, Filename.Announces path name →
          ∃ moved, run.2.accepted = sender.accepted ++ moved ∧
            moved <+: Header.announcement name ∧
            (sender.Willing → sender.InTime sending source path →
              moved = Header.announcement name)) := by
  intro run
  refine ⟨sender.send_fails_of_unreadable unreadable sending, fun harmless => ?_,
    fun isDirectory name announces =>
      sender.send_of_directory isDirectory announces sending⟩
  have untouched : run.2 = sender :=
    sender.untouched_of_unreadable unreadable harmless sending
  refine ⟨untouched, fun receiving directory tree receiver joined => ?_⟩
  rw [untouched] at joined
  have nothing : receiver.wire.bytes = [] := List.append_right_eq_self.mp joined.symm
  exact receiver.tree_of_nothing nothing receiving directory tree

/-- A sender of a missing file does nothing to its stream. -/
theorem send_of_unreadable_missing :
    let source := FileTree.bare []
    let sender := Sender.blocking (.ofSteps [] none none none)
    source.contentOf [0x61] = .error (.ofErrno .noEntry) ∧
      ¬source.isDirectory [0x61] ∧
      (sender.send .standard source [0x61]).2 = sender := by
  intro source sender
  have unreadable : source.contentOf [0x61] = .error (.ofErrno .noEntry) := by cbv
  have elsewhere : ¬source.isDirectory [0x61] := by
    rw [Bool.not_eq_true]
    cbv
  obtain ⟨-, untouched, -⟩ := send_of_unreadable unreadable .standard sender
  exact ⟨unreadable, elsewhere, (untouched (.inl elsewhere)).1⟩

/-- The header of a directory empties the file that has its name on the other side. -/
theorem directory_empties_file :
    let source := (FileTree.bare []).put [[0x64]] .directory
    let tree := (FileTree.bare []).put [[0x64]] (.file [7])
    let sender := Sender.blocking (.ofSteps [] none none none)
    let receiver := Receiver.blocking (.ofBytes [0, 1, 0x64] none)
    let reception := receiver.receive .standard [Path.slash] tree
    source.contentOf [0x64] = .error (.ofErrno .isDirectory) ∧
      (sender.send .standard source [0x64]).2.accepted = [0, 1, 0x64] ∧
      tree.contentOf [Path.slash, 0x64] = .ok [7] ∧
      reception.tree.contentOf [Path.slash, 0x64] = .ok [] := by
  intro source tree sender receiver reception
  have announces : Filename.Announces [0x64] "d" :=
    ⟨⟨"d", by cbv, by cbv⟩, by decide, by cbv⟩
  have willing : sender.Willing := Outlet.willing_unscripted none
  have isDirectory : source.isDirectory [0x64] := by cbv
  obtain ⟨moved, accepted, -, whole⟩ :=
    sender.send_of_directory isDirectory announces .standard
  have opensFile : tree.OpensFile (Path.join [Path.slash] (Bytes.ofText "d")) :=
    FileTree.create_of_takes (by cbv) (by cbv)
      ⟨[], by cbv, .inr ⟨[[0x64]], [7], by cbv⟩⟩
  have bytes : receiver.wire.bytes = Header.announcement "d" ++ [] := by cbv
  obtain ⟨emptied, -⟩ :=
    receiver.receive_whole (by cbv) (by cbv) opensFile bytes (by cbv) trivial
  refine ⟨by cbv, ?_, by cbv, emptied⟩
  rw [accepted, whole willing trivial]
  cbv

end FileTransfer
