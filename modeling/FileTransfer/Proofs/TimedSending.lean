import FileTransfer.Proofs.ExactSending
import FileTransfer.Proofs.Patience
import FileTransfer.Proofs.TimedWriting

namespace FileTransfer

/-!
# A transfer against a clock

A sender with deadlines offers its stream the header and the pieces of its source,
each within a deadline of its own.  If all of them keep their deadlines, it does to
the stream what a sender without a clock does; only the failure to read a source
that could be opened has another name (`sendFileTimed_refines`).  Otherwise the first
piece that does not keep its deadline ends the transfer when that is over.
-/

/-- A source as a sender with deadlines opens it. -/
def Source.timed (name : String) (entry : Entry) : Source where
  name := name
  header := Header.announcement name
  inlet := entry.inlet (some timedSourceLimit)

theorem Source.timed_moves : some timedSourceLimit ≠ some 0 := by
  simp [timedSourceLimit, Limits.mebibyte]

/-- The steps of a source make up its stream. -/
theorem Source.steps_timed
    {tree : FileTree}
    {path : Path}
    {location : Location}
    {entry : Entry}
    (stands : tree.find path = .ok (location, entry))
    (name : String)
    {room : Nat}
    (positive : 0 < room) :
    (((Source.timed name entry).steps room).map Prod.snd).flatten =
      tree.streamOf path name := by
  have octets : (entry.inlet (some timedSourceLimit)).wire = tree.wireAt path :=
    FileTree.wire_of_find stands Source.timed_moves
  simp [buffers_steps, timed, Inlet.flatten_pieces positive, octets,
    FileTree.streamOf]

/-- Up to the limit of one read, a source is cut the same with and without a clock. -/
theorem Entry.pieces_inlet
    {most room : Nat}
    (fits : room ≤ most)
    (entry : Entry) :
    (entry.inlet (some most)).pieces room = (entry.inlet none).pieces room := by
  cases entry with
  | directory => rw [pieces_directory, pieces_directory]
  | file content => exact Inlet.pieces_ofBytes fits content
  | link target => exact Inlet.pieces_ofBytes fits []
  | device device => exact Inlet.pieces_ofBytes fits []

/-- A value that could not be read cannot be found by reading it differently. -/
theorem error_of_map
    {α β ε : Type}
    {found : Except ε α}
    {reading : α → β}
    {error : ε}
    (failed : found.map reading = .error error) :
    found = .error error := by
  cases found with
  | error other => exact congrArg Except.error (Except.error.inj failed)
  | ok value => cases failed

namespace TimedOutlet

/-- The operations of some buffers are these buffers, up to the first that fails. -/
theorem writeOperations_prefix
    (named : List (String × Bytes))
    (outlet : TimedOutlet) :
    (outlet.writeOperations named).map (fun operation => (operation.step, operation.buffer)) <+:
      named := by
  induction named generalizing outlet with
  | nil => simp [writeOperations]
  | cons first more ih =>
      obtain ⟨step, buffer⟩ := first
      obtain ⟨delay, others, operations, -, further⟩ :=
        writeOperations_cons step buffer more outlet
      rw [operations, List.map_cons]
      by_cases nothing : others = []
      · simp [nothing]
      · obtain ⟨after, -, rfl⟩ := further nothing
        exact List.prefix_cons_inj _ |>.mpr (ih after)

end TimedOutlet

theorem FileTree.contentOf_of_stop
    {tree : FileTree}
    {path : Path}
    {error : HostError}
    (stopped : (tree.wireAt path).stop = .failed error) :
    tree.contentOf path = .error error := by
  unfold wireAt at stopped
  split at stopped
  case h_1 => cases stopped
  case h_2 failed =>
    cases stopped
    exact failed

section

variable
  {tree : FileTree}
  {path : Path}
  {name : String}
  {location : Location}
  {entry : Entry}

/-- Sending what stands at a path under deadlines is transmitting its steps. -/
theorem sendFileTimed_eq
    (announces : Filename.Announces path name)
    (stands : tree.find path = .ok (location, entry))
    (options : TransferOptions)
    (outlet : TimedOutlet) :
    let run := sendFileTimed options tree path outlet
    let wire := tree.wireAt path
    (run.1.map Receipt.untimed, run.2) =
      transmit TimedOutlet.writeStep TimedOutlet.flush
        ((Source.timed name entry).steps options.room)
        (wire.stop.reading "read source file")
        (.ofContent .client options.digesting name path ⟨0, 0⟩ wire.bytes)
        outlet := by
  have opens := Source.open?_of_announced announces stands (some timedSourceLimit)
  have wire : (entry.inlet (some timedSourceLimit)).wire = tree.wireAt path :=
    FileTree.wire_of_find stands Source.timed_moves
  simp only [sendFileTimed, opens, ← wire]
  exact sendSourceTimed_eq options path (Source.timed name entry) outlet

/-- Sending it without a clock is transmitting the same octets, cut the same way. -/
theorem sendFile_eq_of_fits
    (announces : Filename.Announces path name)
    (stands : tree.find path = .ok (location, entry))
    {options : TransferOptions}
    (fits : options.room ≤ timedSourceLimit)
    (outlet : Outlet) :
    let wire := tree.wireAt path
    sendFile options tree path outlet =
      transmit Outlet.writeAll Outlet.flush
        (((Source.timed name entry).steps options.room).map Prod.snd)
        (wire.stop.reading "read body")
        (.ofContent .client options.digesting name path ⟨0, 0⟩ wire.bytes)
        outlet := by
  have opens := Source.open?_of_announced announces stands none
  have wire : (entry.inlet none).wire = tree.wireAt path :=
    FileTree.wire_of_find stands (by simp)
  have buffers :
      ((Source.timed name entry).steps options.room).map Prod.snd =
        Header.announcement name :: (entry.inlet none).pieces options.room := by
    simp [Source.buffers_steps, Source.timed, Entry.pieces_inlet fits]
  simp only [sendFile, opens, sendSource_eq, buffers, wire]

/-- A sender under deadlines passes on a front of its stream, whatever happens. -/
theorem sendFileTimed_front
    (announces : Filename.Announces path name)
    (stands : tree.find path = .ok (location, entry))
    (options : TransferOptions)
    (outlet : TimedOutlet) :
    ∃ moved,
      (sendFileTimed options tree path outlet).2.accepted =
          outlet.accepted ++ moved ∧
        moved <+: tree.streamOf path name := by
  have opens := Source.open?_of_announced announces stands (some timedSourceLimit)
  have wire : (entry.inlet (some timedSourceLimit)).wire = tree.wireAt path :=
    FileTree.wire_of_find stands Source.timed_moves
  obtain ⟨moved, accepted, front, -⟩ :=
    (sendSourceTimed_sent options path (Source.timed name entry) outlet).accepted
  simp only [Source.timed, wire] at accepted front
  exact ⟨moved, by simpa only [sendFileTimed, opens] using accepted, front⟩

/-- The first step that does not keep its deadline ends the transfer. -/
theorem sendFileTimed_late
    (announces : Filename.Announces path name)
    (stands : tree.find path = .ok (location, entry))
    {options : TransferOptions}
    {outlet : TimedOutlet}
    {before after : List WriteOperation}
    {late : WriteOperation}
    (shape :
      outlet.writeOperations ((Source.timed name entry).steps options.room) =
        before ++ late :: after)
    (early : ∀ operation ∈ before, operation.InTime)
    (isLate : ¬late.InTime) :
    let run := sendFileTimed options tree path outlet
    let moment := outlet.clock + WriteOperation.duration before + late.deadline
    run.1 = .error (.timeout late.step late.deadline) ∧
      ∃ paused left,
        TimedOutlet.Paused moment (tree.streamOf path name)
            (WriteOperation.octets before ++ late.buffer) outlet paused left ∧
          left <:+ late.buffer ∧ run.2 = { paused with clock := moment } := by
  intro run moment
  have positive : 0 < options.room := Limits.room_pos options.chunkSize
  obtain ⟨paused, left, pauses, behind, stops⟩ :=
    TimedOutlet.inTurn_late shape early isLate
  rw [Source.steps_timed stands name positive] at pauses
  have transmits := sendFileTimed_eq announces stands options outlet
  unfold transmit at transmits
  rw [stops] at transmits
  obtain ⟨outcome, final⟩ := Prod.mk.inj transmits
  rw [TimedOutlet.expire_some] at final
  exact ⟨error_of_map outcome, paused, left, pauses, behind, final⟩

/-- If every step keeps its deadline, the transfer is the one without a clock. -/
theorem sendFileTimed_in_time
    (announces : Filename.Announces path name)
    (stands : tree.find path = .ok (location, entry))
    {options : TransferOptions}
    {outlet : TimedOutlet}
    (inTime :
      ∀ operation ∈
        outlet.writeOperations ((Source.timed name entry).steps options.room),
        operation.InTime) :
    let run := sendFileTimed options tree path outlet
    let instant := sendFile options tree path outlet.untimed
    run.2.clock =
        outlet.clock +
          WriteOperation.duration
            (outlet.writeOperations ((Source.timed name entry).steps options.room)) ∧
      (options.room ≤ timedSourceLimit →
        run.2.untimed = instant.2 ∧
          (run.1.map Receipt.untimed = instant.1 ∨
            ∃ error, tree.contentOf path = .error error ∧
              run.1 = .error (.host "read source file" error) ∧
              instant.1 = .error (.host "read body" error))) := by
  intro run instant
  have transmits := sendFileTimed_eq announces stands options outlet
  obtain ⟨same, clock, told⟩ :=
    TimedOutlet.transmit_in_time inTime (tree.wireAt path).stop
      "read source file" "read body"
      (.ofContent .client options.digesting name path ⟨0, 0⟩ (tree.wireAt path).bytes)
  simp only [← transmits] at same clock told
  refine ⟨clock, fun fits => ?_⟩
  have whole := sendFile_eq_of_fits announces stands fits outlet.untimed
  rw [← whole] at same told
  refine ⟨same, told.imp_right fun ⟨error, stopped, timed, untimed⟩ => ?_⟩
  refine ⟨error, FileTree.contentOf_of_stop stopped, error_of_map timed, untimed⟩

end

/--
A sender with deadlines, for every source path, files, options and stream.  What it
passes on is a front of its header and content, and nothing if its source is refused.
If some step would take longer than the deadline of its buffer, the first such step
ends the transfer when that is over, with exactly those octets accepted that were
taken in time, and with no further call.  If every step keeps its deadline, then up
to the limit of one read the stream, the clock aside, and the outcome are those of
the sender that blocks; only the failure to read a source that was opened is told
under another name.
-/
theorem sendFileTimed_refines
    (options : TransferOptions)
    (tree : FileTree)
    (path : Path)
    (outlet : TimedOutlet) :
    let run := sendFileTimed options tree path outlet
    let instant := sendFile options tree path outlet.untimed
    ((∃ fault, Source.Refused tree path fault) ∨
        ∃ name location entry,
          Filename.Announces path name ∧
            tree.find path = .ok (location, entry)) ∧
      (∀ fault,
        Source.Refused tree path fault →
        run = (.error fault, outlet) ∧ instant = (.error fault, outlet.untimed)) ∧
      ∀ name location entry,
        Filename.Announces path name →
        tree.find path = .ok (location, entry) →
        let stream := tree.streamOf path name
        let steps := (Source.timed name entry).steps options.room
        let operations := outlet.writeOperations steps
        (Header.encode name = .ok (Header.announcement name) ∧
            ∀ content,
              tree.contentOf path = .ok content →
                stream = Header.announcement name ++ content) ∧
          ((steps.map Prod.snd).flatten = stream ∧
            operations.map (fun operation => (operation.step, operation.buffer)) <+:
              steps) ∧
          (∃ moved,
            run.2.accepted = outlet.accepted ++ moved ∧ moved <+: stream) ∧
          ((¬∀ operation ∈ operations, operation.InTime) →
            ∃ before late after,
              operations = before ++ late :: after ∧
                (∀ operation ∈ before, operation.InTime) ∧ ¬late.InTime ∧
                let moment :=
                  outlet.clock + WriteOperation.duration before + late.deadline
                run.1 = .error (.timeout late.step late.deadline) ∧
                  ∃ (paused : TimedOutlet) (left : Bytes) (writes : List Outlet.Call),
                    run.2 = { paused with clock := moment } ∧
                      run.2.calls = writes.reverse ++ outlet.calls ∧
                      (∀ call ∈ writes, ∃ offered reply, call = .write offered reply) ∧
                      Outlet.moved writes ++ left =
                        WriteOperation.octets before ++ late.buffer ∧
                      left <:+ late.buffer ∧ left ≠ [] ∧
                      Outlet.moved writes ≠ stream ∧
                      paused.clock ≤ moment ∧
                      ∀ reply next,
                        paused.write? none left = (some reply, next) →
                          moment < next.clock) ∧
          ((∀ operation ∈ operations, operation.InTime) →
            run.2.clock = outlet.clock + WriteOperation.duration operations ∧
              (options.chunkSize ≤ 2097152 →
                run.2.untimed = instant.2 ∧
                  (run.1.map Receipt.untimed = instant.1 ∨
                    ∃ error, tree.contentOf path = .error error ∧
                      run.1 = .error (.host "read source file" error) ∧
                      instant.1 = .error (.host "read body" error)))) := by
  intro run instant
  refine ⟨Source.refused_or_announced tree path, ?_, ?_⟩
  · intro fault refused
    simp only [run, instant, sendFileTimed, sendFile, refused.open?, and_self]
  · intro name location entry announces stands stream steps operations
    have positive : 0 < options.room := Limits.room_pos options.chunkSize
    refine ⟨⟨Header.encode_of_short announces.nonempty announces.short,
        fun content readable => FileTree.streamOf_readable readable name⟩,
      ⟨Source.steps_timed stands name positive,
        TimedOutlet.writeOperations_prefix steps outlet⟩,
      sendFileTimed_front announces stands options outlet, ?_, ?_⟩
    · intro someLate
      obtain ⟨before, late, after, shape, early, isLate⟩ :=
        exists_first_without someLate
      obtain ⟨outcome, paused, left, pauses, behind, final⟩ :=
        sendFileTimed_late announces stands shape early isLate
      obtain ⟨writes, made, calls, split⟩ := pauses.made
      refine ⟨before, late, after, shape, early, isLate, outcome, paused, left,
        writes, final, ?_, ?_, split, behind, pauses.nonempty, ?_, pauses.early,
        pauses.late⟩
      · rw [final]
        exact made.calls
      · intro call member
        obtain ⟨earlier, later, splits⟩ := List.append_of_mem member
        obtain ⟨offered, reply, shape, -⟩ := calls.in_order splits
        exact ⟨offered, reply, shape⟩
      · rw [ne_eq, calls.moved_eq_iff]
        simp
    · intro inTime
      obtain ⟨clock, fitting⟩ := sendFileTimed_in_time announces stands inTime
      refine ⟨clock, fun small => fitting ?_⟩
      simp only [TransferOptions.room, Limits.room, timedSourceLimit, Limits.mebibyte]
      omega

/--
The second octet of the content would be taken one millisecond after the deadline of
its piece, so the transfer ends at that deadline.
-/
theorem sendFileTimed_refines_until_late :
    let tree := (FileTree.bare []).put [[0x61]] (.file [7, 8])
    let outlet :=
      TimedOutlet.ofSteps
        [.now (.take 3), .delay 5000, .now (.take 1), .delay 101, .now (.take 1)]
        none none none
    let run := sendFileTimed .standard tree [0x61] outlet
    run.1 = .error (.timeout "write body" 5100) ∧ run.2.clock = 5100 := by
  intro tree outlet run
  have announces : Filename.Announces [0x61] "a" :=
    ⟨⟨"a", by cbv, by cbv⟩, by decide, by cbv⟩
  have stands : tree.find [0x61] = .ok ([[0x61]], .file [7, 8]) := by cbv
  have steps :
      (Source.timed "a" (.file [7, 8])).steps TransferOptions.standard.room =
        [("write header", [0, 1, 0x61]), ("write body", [7, 8])] := by
    have header : Header.announcement "a" = [0, 1, 0x61] := by cbv
    have pieces :
        (Entry.inlet (some timedSourceLimit) (.file [7, 8])).pieces
            TransferOptions.standard.room =
          [[7, 8]] :=
      Inlet.pieces_of_fits (by decide) (by simp)
    simp only [Source.steps, Source.timed, header, pieces, List.map_cons, List.map_nil]
  have operations :
      outlet.writeOperations
          ((Source.timed "a" (.file [7, 8])).steps TransferOptions.standard.room) =
        [⟨"write header", [0, 1, 0x61], some 0⟩,
          ⟨"write body", [7, 8], some 5101⟩] := by
    rw [steps]
    cbv
  obtain ⟨-, -, opened⟩ := sendFileTimed_refines .standard tree [0x61] outlet
  obtain ⟨-, -, -, cut, -⟩ := opened "a" _ _ announces stands
  obtain ⟨before, late, after, shape, early, isLate, outcome, paused, left, writes,
    final, -⟩ := cut (by rw [operations]; decide)
  rw [operations] at shape
  have isSecond :
      [⟨"write header", [0, 1, 0x61], some 0⟩] ++
          [⟨"write body", [7, 8], some 5101⟩] =
        before ++ late :: after :=
    shape
  obtain ⟨rfl, rfl⟩ :=
    first_without_unique isSecond (by decide) (by decide) early isLate
  exact ⟨outcome, congrArg TimedOutlet.clock final⟩

/-- The failure to read a directory has two names, even if nothing is ever late. -/
theorem directory_is_told_apart :
    let tree := (FileTree.bare []).put [[0x64]] .directory
    let outlet := TimedOutlet.ofSteps [] none none none
    let steps := (Source.timed "d" .directory).steps TransferOptions.standard.room
    let error := HostError.ofErrno .isDirectory
    (∀ operation ∈ outlet.writeOperations steps, operation.InTime) ∧
      (sendFileTimed .standard tree [0x64] outlet).1 =
        .error (.host "read source file" error) ∧
      (sendFile .standard tree [0x64] outlet.untimed).1 =
        .error (.host "read body" error) := by
  intro tree outlet steps error
  have announces : Filename.Announces [0x64] "d" :=
    ⟨⟨"d", by cbv, by cbv⟩, by decide, by cbv⟩
  have stands : tree.find [0x64] = .ok ([[0x64]], .directory) := by cbv
  have header :
      (Source.timed "d" .directory).steps TransferOptions.standard.room =
        [("write header", [0, 1, 0x64])] := by
    have octets : Header.announcement "d" = [0, 1, 0x64] := by cbv
    simp only [Source.steps, Source.timed, octets, Entry.pieces_directory,
      List.map_nil]
  have operations :
      outlet.writeOperations steps = [⟨"write header", [0, 1, 0x64], some 0⟩] := by
    simp only [steps, header]
    cbv
  have transmits := sendFileTimed_eq announces stands .standard outlet
  have fits : TransferOptions.standard.room ≤ timedSourceLimit := by decide
  have instant := sendFile_eq_of_fits announces stands fits outlet.untimed
  rw [header] at transmits instant
  refine ⟨by rw [operations]; decide, ?_, ?_⟩
  · exact error_of_map ((congrArg Prod.fst transmits).trans (by cbv))
  · rw [instant]
    cbv

end FileTransfer
