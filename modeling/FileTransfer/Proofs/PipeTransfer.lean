import FileTransfer.Proofs.PipeEngines

namespace FileTransfer

/-!
# A transfer over a pipe under every schedule

Two sides on one pipe cannot block each other (`Joint.Sound.can_step`), and no
schedule goes on forever, because every step takes some effort off what both
still have to do (`Joint.Sound.effort_lt`).  So every schedule ends, and it ends
with the file on both sides.
-/

variable
  {link : Link}
  {tree : FileTree}
  {name : String}
  {content : Bytes}
  {place output : Location}

/-!
## Progress
-/

/-- A sender that has neither finished nor something to write advances by itself. -/
theorem Link.exists_advance
    (link : Link)
    (now : FileTree)
    {sender : Sending}
    (idle :
      ∀ octet others progress, sender ≠ .writing (octet :: others) progress)
    (unfinished : ∀ outcome, sender ≠ .finished outcome) :
    ∃ next, link.advance? now sender = some next := by
  cases sender with
  | opening =>
      simp only [advance?]
      split
      · exact ⟨_, rfl⟩
      · exact ⟨_, rfl⟩
  | writing rest progress =>
      cases rest with
      | nil => exact ⟨_, rfl⟩
      | cons octet others => exact absurd rfl (idle octet others progress)
  | reading progress => exact ⟨_, rfl⟩
  | flushing progress => exact ⟨_, rfl⟩
  | finished outcome => exact absurd rfl (unfinished outcome)

/-- A receiver that rests on the pipe asks it for something. -/
theorem Receiving.Sound.wants_pos
    {receiver : Receiving}
    {consumed : Bytes}
    {now : FileTree}
    (sound : receiver.Sound link tree name content output consumed now)
    (notOpening : ∀ raw, receiver ≠ .opening raw)
    (unfinished : ∀ outcome, receiver ≠ .finished outcome) :
    0 < link.wants receiver := by
  cases receiver with
  | field got =>
      rcases sound with ⟨-, short, -⟩
      simp only [Link.wants, Limits.lengthFieldSize]
      omega
  | name length got =>
      rcases sound with ⟨-, short, -⟩
      simp only [Link.wants]
      omega
  | opening raw => exact absurd rfl (notOpening raw)
  | content opened owed tally => exact Limits.room_pos _
  | finished outcome => exact absurd rfl (unfinished outcome)

namespace Joint.Sound

/-- A receiver that has not finished can step if there is something for it to read. -/
theorem receiver_can_step
    {joint : Joint}
    (sound : joint.Sound link tree name content place output)
    (unfinished : ∀ outcome, joint.receiver ≠ .finished outcome)
    (ready :
      joint.pipe ≠ [] ∨ ∃ outcome, joint.sender = .finished outcome) :
    ∃ next, link.Step joint next := by
  by_cases opening : ∃ raw, joint.receiver = .opening raw
  · rcases opening with ⟨raw, named⟩
    exact ⟨_, .create named⟩
  · have asks := sound.receiver.wants_pos (not_exists.mp opening) unfinished
    by_cases drained : joint.pipe = []
    · rcases ready with holds | ⟨outcome, dropped⟩
      · exact absurd drained holds
      · exact ⟨_, .finish drained dropped asks⟩
    · have some_octets := List.length_pos_iff.mpr drained
      exact ⟨_, .read Nat.one_pos some_octets asks⟩

/-- Both sides cannot block each other. -/
theorem can_step
    (arranged : link.Arranged tree name content place output)
    {joint : Joint}
    (sound : joint.Sound link tree name content place output)
    (unfinished : ¬joint.Final) :
    ∃ next, link.Step joint next := by
  by_cases dropped : ∃ sent, joint.sender = .finished sent
  · rcases dropped with ⟨sent, finished⟩
    apply sound.receiver_can_step _ (.inr ⟨sent, finished⟩)
    intro received ends
    exact unfinished ⟨sent, received, finished, ends⟩
  by_cases writes :
      ∃ octet others progress,
        joint.sender = .writing (octet :: others) progress
  · rcases writes with ⟨octet, others, progress, offers⟩
    by_cases free : joint.pipe.length < link.capacity
    · exact ⟨_, .write offers Nat.one_pos (by simp) free⟩
    · have capacity := arranged.capacity
      have bounded := sound.bounded
      have full : joint.pipe ≠ [] := List.length_pos_iff.mp (by omega)
      apply sound.receiver_can_step _ (.inl full)
      intro received ends
      have receives := sound.receiver
      rw [ends] at receives
      have conserved := sound.conserved
      rw [receives.1, List.append_assoc, List.append_right_eq_self,
        List.append_eq_nil_iff] at conserved
      exact full conserved.1
  · obtain ⟨next, moves⟩ :=
      link.exists_advance joint.tree
        (fun octet others progress offers =>
          writes ⟨octet, others, progress, offers⟩)
        (fun sent finished => dropped ⟨sent, finished⟩)
    exact ⟨_, .advance moves⟩

end Joint.Sound

/-!
## Effort
-/

/-- What a sender still has to do, counted in moves of octets and of its own. -/
def Sending.effort (name : String) (content : Bytes) : Sending → Nat
  | .opening => 4 + 4 * content.length + 2 * (Header.announcement name).length
  | .writing rest progress =>
      3 + 4 * (content.drop progress.offset).length + 2 * rest.length
  | .reading progress => 2 + 4 * (content.drop progress.offset).length
  | .flushing _ => 1
  | .finished _ => 0

/-- What a receiver still has to do besides reading. -/
def Receiving.effort : Receiving → Nat
  | .field _ => 4
  | .name _ _ => 3
  | .opening _ => 2
  | .content _ _ _ => 1
  | .finished _ => 0

/-- What both sides still have to do. -/
def Joint.effort (name : String) (content : Bytes) (joint : Joint) : Nat :=
  joint.sender.effort name content + joint.pipe.length + joint.receiver.effort

theorem Link.Advances.effort_lt
    {sender next : Sending}
    (advances : link.Advances name content place sender next) :
    next.effort name content < sender.effort name content := by
  cases advances with
  | opens => simp [Sending.effort]
  | writes progress => simp [Sending.effort]
  | @reads progress octet others piece =>
      have shorter := congrArg List.length piece
      simp only [List.length_take, List.length_drop, List.length_cons] at shorter
      simp only [Sending.effort, afterRead, List.length_drop, List.length_cons]
      omega
  | drains progress drained =>
      simp only [Sending.effort]
      omega
  | flushes progress => simp [Sending.effort]

theorem Link.effort_afterPiece_le
    (now : FileTree)
    (piece : Bytes)
    (receiver : Receiving) :
    (afterPiece now piece receiver).1.effort ≤ receiver.effort := by
  cases receiver with
  | field got =>
      simp only [afterPiece, afterField]
      split
      case isTrue => exact Nat.le_refl _
      case isFalse =>
        cases Header.nameLength (got ++ piece) with
        | error fault => exact Nat.zero_le _
        | ok length => simp [Receiving.effort]
  | name length got =>
      simp only [afterPiece, afterName]
      split <;> simp [Receiving.effort]
  | opening raw => exact Nat.le_refl _
  | content opened owed tally =>
      simp only [afterPiece]
      split <;> simp [Receiving.effort]
  | finished outcome => exact Nat.le_refl _

theorem Link.effort_afterEnd_lt
    {receiver : Receiving}
    (asks : 0 < link.wants receiver) :
    (afterEnd receiver).effort < receiver.effort := by
  cases receiver with
  | field got => simp [afterEnd, Receiving.effort]
  | name length got => simp [afterEnd, Receiving.effort]
  | opening raw => exact absurd asks (Nat.lt_irrefl 0)
  | content opened owed tally =>
      cases owed <;> simp [afterEnd, Receiving.effort]
  | finished outcome => exact absurd asks (Nat.lt_irrefl 0)

theorem Link.effort_afterOpen_lt
    (link : Link)
    (now : FileTree)
    (raw : Bytes) :
    (link.afterOpen now raw).1.effort < (Receiving.opening raw).effort := by
  unfold afterOpen
  split <;> simp [Receiving.effort]

namespace Joint.Sound

/-- Every step of either side takes some effort off what both have to do. -/
theorem effort_lt
    (arranged : link.Arranged tree name content place output)
    {joint next : Joint}
    (sound : joint.Sound link tree name content place output)
    (steps : link.Step joint next) :
    next.effort name content < joint.effort name content := by
  unfold Joint.effort
  cases steps with
  | advance moves =>
      have less := (sound.advances arranged moves).effort_lt
      simp only
      omega
  | write offers positive most free =>
      simp only [offers, Sending.effort, List.length_append, List.length_take,
        List.length_drop]
      omega
  | @read count positive most fits =>
      have less := Link.effort_afterPiece_le joint.tree (joint.pipe.take count)
        joint.receiver
      simp only [List.length_drop]
      omega
  | finish drained dropped asks =>
      have less := Link.effort_afterEnd_lt asks
      simp only
      omega
  | @create raw named =>
      have less := link.effort_afterOpen_lt joint.tree raw
      simp only [named]
      omega

/-- No schedule goes on forever. -/
theorem accessible
    (arranged : link.Arranged tree name content place output)
    {joint : Joint}
    (sound : joint.Sound link tree name content place output) :
    Acc (fun next earlier => link.Step earlier next) joint := by
  generalize size : joint.effort name content = bound
  induction bound using Nat.strongRecOn generalizing joint with
  | ind bound ih =>
      apply Acc.intro
      intro next steps
      have less := sound.effort_lt arranged steps
      exact ih _ (size ▸ less) (sound.step arranged steps) rfl

/-- From wherever both sides are, they can come to their end. -/
theorem exists_final
    (arranged : link.Arranged tree name content place output)
    {joint : Joint}
    (sound : joint.Sound link tree name content place output) :
    ∃ last, link.Reaches joint last ∧ last.Final := by
  induction sound.accessible arranged with
  | intro joint _ ih =>
      by_cases final : joint.Final
      · exact ⟨joint, .refl, final⟩
      · obtain ⟨next, steps⟩ := sound.can_step arranged final
        obtain ⟨last, reaches, ends⟩ :=
          ih next steps (sound.step arranged steps)
        exact ⟨last, .head steps reaches, ends⟩

end Joint.Sound

/-!
## Transfer
-/

/-- What both sides have come to when they have finished. -/
structure Joint.Transferred
    (link : Link)
    (tree : FileTree)
    (name : String)
    (content : Bytes)
    (joint : Joint)
    (sent received : Receipt) :
    Prop where
  sender : joint.sender = .finished (.ok sent)
  receiver : joint.receiver = .finished (.ok received)
  drained : joint.pipe = []
  stored :
    joint.tree.contentOf (Path.join link.directory (Bytes.ofText name)) =
      .ok content
  names : sent.name = name ∧ received.name = name
  bytes : sent.bytes = content.length ∧ received.bytes = content.length
  digests :
    link.sending.digesting → link.receiving.digesting →
      sent.digest = received.digest
  /-- The transfer to a stream that takes what the pipe took ends in the same way. -/
  sends : (link.send tree joint.written).1 = .ok sent
  /-- The session on a stream that delivers what the reads got ends in the same way. -/
  receives :
    ∀ readDeadline,
      (link.receive readDeadline tree joint.received).1 =
        ⟨.ok received, joint.tree⟩

/-- Both sides that have finished have moved the whole content. -/
theorem Joint.transferred_of_final
    (arranged : link.Arranged tree name content place output)
    {joint : Joint}
    (sound : joint.Sound link tree name content place output)
    (resumes :
      ∀ readDeadline, joint.Resumes link readDeadline tree name content)
    (final : joint.Final) :
    ∃ sent received, joint.Transferred link tree name content sent received := by
  rcases final with ⟨sent, received, dropped, ends⟩
  have sends := sound.sender
  have receives := sound.receiver
  rw [dropped] at sends
  rw [ends] at receives
  rcases receives with ⟨whole, rfl, kept⟩
  rcases sends with rfl
  have conserved := sound.conserved
  rw [whole, dropped, Sending.pending, List.append_nil,
    List.append_right_eq_self] at conserved
  rcases arranged.creates with ⟨opened, creates⟩
  refine ⟨_, _, dropped, ends, conserved, ?_, ⟨rfl, rfl⟩, ⟨rfl, rfl⟩, ?_, ?_,
    fun readDeadline => ?_⟩
  · rw [kept]
    exact FileTree.contentOf_put_of_create creates content
  · intro asked wanted
    simp [Receipt.ofContent, asked, wanted]
  · have goesOn := (resumes none).sender
    rw [dropped] at goesOn
    exact goesOn
  · have goesOn := (resumes readDeadline).receiver
    rw [ends] at goesOn
    exact goesOn

/--
A sender and a receiver on one pipe transfer the file, whatever the capacity of
the pipe, the sizes that both sides move at a time, and the order of their steps.
-/
theorem Link.transfers_under_every_schedule
    (arranged : link.Arranged tree name content place output)
    {joint : Joint}
    (reaches : link.Reaches (.start tree) joint) :
    joint.consumed ++ joint.pipe ++ joint.sender.pending name content =
        Header.announcement name ++ content ∧
      joint.pipe.length ≤ link.capacity ∧
      (¬joint.Final → ∃ next, link.Step joint next) ∧
      Acc (fun next earlier => link.Step earlier next) joint ∧
      (joint.Final →
        ∃ sent received,
          joint.Transferred link tree name content sent received) := by
  have sound := Joint.Sound.of_reaches arranged reaches
  refine ⟨sound.conserved, sound.bounded, sound.can_step arranged,
    sound.accessible arranged, fun final => ?_⟩
  exact Joint.transferred_of_final arranged sound
    (fun readDeadline => .of_reaches arranged readDeadline reaches) final

/-- A file of one octet is transferred over a pipe that holds one octet. -/
theorem Link.transfers_under_every_schedule_one_octet :
    let tree :=
      ((FileTree.bare []).put [[0x64]] .directory).put [[0x61]] (.file [7])
    let link : Link := ⟨1, ⟨0, true⟩, ⟨4096, true⟩, [0x61], [0x64]⟩
    link.Arranged tree "a" [7] [[0x61]] [[0x64], [0x61]] ∧
      ∃ last,
        link.Reaches (.start tree) last ∧
          last.tree.contentOf [0x64, Path.slash, 0x61] = .ok [7] := by
  intro tree link
  have arranged : link.Arranged tree "a" [7] [[0x61]] [[0x64], [0x61]] := by
    refine ⟨Nat.one_pos, ⟨⟨[[0x61]], by cbv⟩, ⟨"a", by cbv, by cbv⟩, by cbv,
      by cbv⟩, by cbv, ⟨tree.put [[0x64], [0x61]] (.file []), by cbv⟩, by decide⟩
  obtain ⟨last, reaches, final⟩ :=
    Joint.sound_start.exists_final arranged
  obtain ⟨-, -, -, -, transferred⟩ :=
    Link.transfers_under_every_schedule arranged reaches
  obtain ⟨sent, received, done⟩ := transferred final
  exact ⟨arranged, last, reaches, done.stored⟩

end FileTransfer
