import FileTransfer.Proofs.LastNames
import FileTransfer.Proofs.Pieces
import FileTransfer.Proofs.Sources

namespace FileTransfer

/-!
# What a sender does, call by call

A sender that blocks is determined by its source path, the files, and how its
stream replies.  A source is refused for one of four reasons, none of which
touches the stream (`Source.Refused`); a source that is opened is written in order,
and the outcome is told by the replies of the stream (`sendFile_exact`).
-/

/-- Why the file at a path is not sent at all, in the order in which it is found out. -/
inductive Source.Refused (tree : FileTree) (path : Path) : Fault → Prop where
  | undecodable
      (unread : Bytes.text? path = none) :
      Refused tree path (.invalidPath (Path.display path))
  | nameless
      {text : String}
      (reads : Bytes.text? path = some text)
      (ends : path = [] ∨ Path.endsInSlash path) :
      Refused tree path (.invalidPath text)
  | long
      {text : String}
      (reads : Bytes.text? path = some text)
      (long : 255 < (Path.lastPart path).length) :
      Refused tree path (.nameTooLong (Path.lastPart path).length)
  | unopened
      {name : String}
      {error : HostError}
      (announces : Filename.Announces path name)
      (missing : tree.find path = .error error) :
      Refused tree path (.host "open source file" error)

/-- Only a path that is empty or ends in a slash has no last part. -/
theorem Path.lastPart_eq_nil_iff (path : Path) :
    lastPart path = [] ↔ path = [] ∨ endsInSlash path := by
  rw [lastPart, List.rtakeWhile_eq_nil_iff]
  cases path using List.reverseRecOn with
  | nil => simp
  | append_singleton front octet => simp [endsInSlash]

namespace Source

variable
  {tree : FileTree}
  {path : Path}

/-- What is refused is not opened, and refused for this very reason. -/
theorem Refused.open?
    {fault : Fault}
    (refused : Refused tree path fault)
    (limit : Option Nat) :
    Source.open? limit tree path = .error fault := by
  cases refused with
  | undecodable unread => simp [Source.open?, unread, bind, Except.bind]
  | @nameless text reads ends =>
      have nothing : Filename.lastName text = "" := by
        apply Bytes.ofText_injective
        rw [Filename.ofText_lastName, Bytes.ofText_of_text? reads, Bytes.ofText_empty]
        exact (Path.lastPart_eq_nil_iff path).mpr ends
      simp [Source.open?, reads, Filename.ofPath, nothing, bind, Except.bind]
  | @long text reads long =>
      have same : Bytes.ofText (Filename.lastName text) = Path.lastPart path := by
        rw [Filename.ofText_lastName, Bytes.ofText_of_text? reads]
      have given : Filename.lastName text ≠ "" := by
        intro nothing
        rw [nothing, Bytes.ofText_empty] at same
        simp [← same] at long
      simp [Source.open?, reads, Filename.ofPath, given, same, Limits.maxNameLength,
        long, bind, Except.bind, throw, throwThe, MonadExceptOf.throw]
  | @unopened name error announces missing =>
      obtain ⟨⟨text, reads, rfl⟩, given, short⟩ := announces
      simp [Source.open?, reads, Filename.ofPath, given, Nat.not_lt.mpr short,
        FileTree.openInput, missing, Except.map, Except.mapError, bind, Except.bind]

/-- A source is refused, or its path announces a name and stands for something. -/
theorem refused_or_announced (tree : FileTree) (path : Path) :
    (∃ fault, Refused tree path fault) ∨
      ∃ name location entry,
        Filename.Announces path name ∧ tree.find path = .ok (location, entry) := by
  cases reads : Bytes.text? path with
  | none => exact .inl ⟨_, .undecodable reads⟩
  | some text =>
      have same : Bytes.ofText (Filename.lastName text) = Path.lastPart path := by
        rw [Filename.ofText_lastName, Bytes.ofText_of_text? reads]
      by_cases nothing : Path.lastPart path = []
      · exact .inl ⟨_, .nameless reads ((Path.lastPart_eq_nil_iff path).mp nothing)⟩
      by_cases long : 255 < (Path.lastPart path).length
      · exact .inl ⟨_, .long reads long⟩
      have announces : Filename.Announces path (Filename.lastName text) := by
        refine ⟨⟨text, reads, rfl⟩, ?_, by rw [same]; exact Nat.le_of_not_lt long⟩
        intro empty
        rw [empty, Bytes.ofText_empty] at same
        exact nothing same.symm
      cases stands : tree.find path with
      | error error => exact .inl ⟨_, .unopened announces stands⟩
      | ok found => exact .inr ⟨_, found.1, found.2, announces, rfl⟩

end Source

/-!
## Buffers in turn
-/

namespace Outlet

/-- Buffers that are written in turn are written like one. -/
theorem inTurn_writes
    {buffers : List Bytes}
    {outlet after : Outlet}
    {reply : Except Fault Unit}
    (written : inTurn writeAll buffers outlet = (reply, after)) :
    ∃ made, Made outlet made after ∧ Writes buffers.flatten made (some reply) := by
  induction buffers generalizing outlet with
  | nil =>
      cases written
      exact ⟨[], .refl _, .done⟩
  | cons buffer more ih =>
      rcases first : outlet.writeAll buffer with ⟨fault | done, rest⟩
      · simp only [inTurn, first] at written
        cases written
        obtain ⟨made, further, writes⟩ := writeAll_writes first
        exact ⟨made, further, writes.before (by simp) more.flatten⟩
      · simp only [inTurn, first] at written
        obtain ⟨made, further, writes⟩ := writeAll_writes first
        obtain ⟨others, last, later⟩ := ih written
        exact ⟨made ++ others, further.trans last, writes.trans later⟩

/--
How a transmission ends after its writes, and what it still calls: nothing after a
fault, and one flush otherwise, which decides the outcome.
-/
def conclusion
    (flushError : Option HostError)
    (receipt : Receipt) :
    Except Fault Unit → Except Fault Unit → Except Fault Receipt × List Call
  | .error fault, _ => (.error fault, [])
  | .ok (), .error fault => (.error fault, [])
  | .ok (), .ok () =>
      match flushError with
      | some error => (.error (.host "flush" error), [.flush])
      | none => (.ok receipt, [.flush])

theorem moved_conclusion
    (flushError : Option HostError)
    (receipt : Receipt)
    (written reading : Except Fault Unit) :
    moved (conclusion flushError receipt written reading).2 = [] := by
  rcases written with fault | done
  · rfl
  rcases reading with fault | done
  · rfl
  cases flushError <;> rfl

/-- The calls of a transmission are its writes, in order, and at most one flush. -/
theorem transmit_writes
    (buffers : List Bytes)
    (reading : Except Fault Unit)
    (receipt : Receipt)
    (outlet : Outlet) :
    let run := transmit writeAll flush buffers reading receipt outlet
    ∃ writes written,
      Writes buffers.flatten writes (some written) ∧
        let ended := conclusion outlet.flushError receipt written reading
        run.1 = ended.1 ∧ Made outlet (writes ++ ended.2) run.2 := by
  unfold transmit
  rcases turns : inTurn writeAll buffers outlet with ⟨fault | done, after⟩
  · obtain ⟨writes, made, calls⟩ := inTurn_writes turns
    exact ⟨writes, _, calls, rfl, by simpa [conclusion] using made⟩
  obtain ⟨writes, made, calls⟩ := inTurn_writes turns
  refine ⟨writes, _, calls, ?_⟩
  cases reading with
  | error fault => exact ⟨rfl, by simpa [conclusion] using made⟩
  | ok done =>
      have flushed : Made after [.flush] after.flush.2 := rfl
      have whole := made.trans flushed
      simp only [flush, made.flushError, conclusion] at whole ⊢
      cases refused : outlet.flushError with
      | none => exact ⟨rfl, by simpa only [refused] using whole⟩
      | some error => exact ⟨rfl, by simpa only [refused] using whole⟩

/-- How a transmission ends of which everything that was to be written could be read. -/
theorem Writes.conclusion
    {stream : Bytes}
    {writes : List Call}
    {written : Except Fault Unit}
    (calls : Writes stream writes (some written))
    (flushError : Option HostError)
    (receipt : Receipt) :
    let ended := Outlet.conclusion flushError receipt written (.ok ())
    (ended.1 = .error .connectionClosed ↔ Closes writes) ∧
      (∀ error, ended.1 = .error (.host "write" error) ↔ Fails error writes) ∧
      ((Closes writes ∨ ∃ error, Fails error writes) →
        moved writes ≠ stream ∧ ended.2 = []) ∧
      (¬Closes writes →
        (∀ error, ¬Fails error writes) →
        moved writes = stream ∧ ended.2 = [.flush] ∧
          ended.1 =
            match flushError with
            | some error => .error (.host "flush" error)
            | none => .ok receipt) := by
  simp only [← calls.closed_iff, ← calls.failed_iff, ne_eq, calls.moved_eq_iff]
  obtain nothing | rfl | rfl | ⟨error, rfl⟩ :
      some written = none ∨ written = .ok () ∨ written = .error .connectionClosed ∨
        ∃ error, written = .error (.host "write" error) := by
    simpa using calls.reply_cases
  · cases nothing
  · cases flushError <;> simp [Outlet.conclusion]
  · simp [Outlet.conclusion]
  · simp [Outlet.conclusion]

end Outlet

/-- What reading the source at a path delivers, and what stops it. -/
def FileTree.wireAt (tree : FileTree) (path : Path) : Wire :=
  match tree.contentOf path with
  | .ok content => ⟨content, .ended⟩
  | .error error => .stopped (.failed error)

/-- What stands at a path delivers its content, or fails at once as a directory. -/
theorem FileTree.wire_of_find
    {tree : FileTree}
    {path : Path}
    {location : Location}
    {entry : Entry}
    (stands : tree.find path = .ok (location, entry))
    {limit : Option Nat}
    (moves : limit ≠ some 0) :
    (entry.inlet limit).wire = tree.wireAt path := by
  by_cases directory : entry = .directory
  · subst directory
    simp only [wireAt, contentOf, stands]
    exact Entry.wire_directory limit
  · obtain ⟨content, reads, delivers⟩ := contentOf_of_find stands directory
    simp only [wireAt, reads]
    rw [delivers, Inlet.wire_ofBytes moves]

/-- What is sent for a path that announces a name: its header, and what it delivers. -/
def FileTree.streamOf (tree : FileTree) (path : Path) (name : String) : Bytes :=
  Header.announcement name ++ (tree.wireAt path).bytes

theorem FileTree.streamOf_readable
    {tree : FileTree}
    {path : Path}
    {content : Bytes}
    (readable : tree.contentOf path = .ok content)
    (name : String) :
    tree.streamOf path name = Header.announcement name ++ content := by
  simp only [streamOf, wireAt, readable]

/-- Sending what stands at a path writes its header and content, in order. -/
theorem sendFile_writes
    {tree : FileTree}
    {path : Path}
    {name : String}
    {location : Location}
    {entry : Entry}
    (announces : Filename.Announces path name)
    (stands : tree.find path = .ok (location, entry))
    (options : TransferOptions)
    (outlet : Outlet) :
    let run := sendFile options tree path outlet
    let wire := tree.wireAt path
    ∃ writes written,
      Outlet.Writes (tree.streamOf path name) writes (some written) ∧
        let ended :=
          Outlet.conclusion outlet.flushError
            (.ofContent .client options.digesting name path ⟨0, 0⟩ wire.bytes)
            written (wire.stop.reading "read body")
        run.1 = ended.1 ∧ Outlet.Made outlet (writes ++ ended.2) run.2 := by
  have positive : 0 < options.room := Limits.room_pos options.chunkSize
  have opens := Source.open?_of_announced announces stands none
  have wire : (entry.inlet none).wire = tree.wireAt path :=
    FileTree.wire_of_find stands (by simp)
  have buffers :
      (Header.announcement name :: (entry.inlet none).pieces options.room).flatten =
        tree.streamOf path name := by
    rw [List.flatten_cons, Inlet.flatten_pieces positive, wire]
    rfl
  simp only [sendFile, opens, sendSource_eq, wire, ← buffers]
  exact Outlet.transmit_writes _ _ _ outlet

/--
A sender that blocks, for every source path, files, options and stream.  A source is
refused before the stream is touched, or its header and content are offered to it in
order.  Of a source that can be read, the replies of the stream alone decide the
outcome: a write that takes nothing or fails ends the transfer before all was taken,
and otherwise one flush ends it.
-/
theorem sendFile_exact
    (options : TransferOptions)
    (tree : FileTree)
    (path : Path)
    (outlet : Outlet) :
    let run := sendFile options tree path outlet
    ((∃ fault, Source.Refused tree path fault) ∨
        ∃ name location entry,
          Filename.Announces path name ∧
            tree.find path = .ok (location, entry)) ∧
      (∀ fault, Source.Refused tree path fault → run = (.error fault, outlet)) ∧
      ∀ name location entry,
        Filename.Announces path name →
        tree.find path = .ok (location, entry) →
        let stream := tree.streamOf path name
        Bytes.ofText name = Path.lastPart path ∧
          Header.encode name = .ok (Header.announcement name) ∧
          ∃ writes flushes,
            run.2.calls = (writes ++ flushes).reverse ++ outlet.calls ∧
              run.2.accepted = outlet.accepted ++ Outlet.moved writes ∧
              Outlet.moved writes <+: stream ∧
              (∀ before call after,
                writes = before ++ call :: after →
                  ∃ offered reply, call = .write offered reply ∧ offered ≠ [] ∧
                    Outlet.moved before ++ offered <+: stream) ∧
              ∀ content,
                tree.contentOf path = .ok content →
                stream = Header.announcement name ++ content ∧
                  (run.1 = .error .connectionClosed ↔ Outlet.Closes writes) ∧
                  (∀ error,
                    run.1 = .error (.host "write" error) ↔
                      Outlet.Fails error writes) ∧
                  ((Outlet.Closes writes ∨ ∃ error, Outlet.Fails error writes) →
                    Outlet.moved writes ≠ stream ∧ flushes = []) ∧
                  (¬Outlet.Closes writes →
                    (∀ error, ¬Outlet.Fails error writes) →
                    Outlet.moved writes = stream ∧ flushes = [.flush] ∧
                      run.1 =
                        match outlet.flushError with
                        | some error => .error (.host "flush" error)
                        | none =>
                            .ok
                              (.ofContent .client options.digesting name path ⟨0, 0⟩
                                content)) := by
  intro run
  refine ⟨Source.refused_or_announced tree path, ?_, ?_⟩
  · intro fault refused
    simp only [run, sendFile, refused.open? none]
  · intro name location entry announces stands stream
    obtain ⟨writes, written, calls, outcome, made⟩ :=
      sendFile_writes announces stands options outlet
    have accepted := made.accepted
    rw [Outlet.moved_append, Outlet.moved_conclusion, List.append_nil] at accepted
    refine ⟨announces.octets,
      Header.encode_of_short announces.nonempty announces.short, writes, _,
      made.calls, accepted, calls.moved_prefix,
      fun before call after splits => calls.in_order splits, ?_⟩
    intro content readable
    have wire : tree.wireAt path = ⟨content, .ended⟩ := by
      simp only [FileTree.wireAt, readable]
    rw [wire] at outcome
    refine ⟨FileTree.streamOf_readable readable name, ?_⟩
    simp only [run, outcome, wire]
    exact calls.conclusion outlet.flushError _

end FileTransfer
