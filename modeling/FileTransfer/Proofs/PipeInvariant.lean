import FileTransfer.Proofs.Content
import FileTransfer.Proofs.Names
import FileTransfer.Proofs.Outputs
import FileTransfer.Proofs.Pipe
import FileTransfer.Proofs.Sending
import FileTransfer.Proofs.Walks

namespace FileTransfer

/-!
# What every schedule preserves

Nothing is lost, repeated or reordered between two sides: what the receiver has
consumed, what is in the pipe, and what the sender has yet to write make up the
header and the content (`Joint.Sound`).  The invariant also says what either
side knows where it rests.  It holds in the beginning, and every step of either
side preserves it (`Joint.Sound.step`).
-/

/--
Two sides that can do what they are asked for: the pipe holds something, the
source can be sent, and the output is a regular file other than the source.
-/
structure Link.Arranged
    (link : Link)
    (tree : FileTree)
    (name : String)
    (content : Bytes)
    (place output : Location) :
    Prop where
  capacity : 0 < link.capacity
  sendable : tree.Sendable link.path name content
  stands : tree.find link.path = .ok (place, .file content)
  creates :
    ∃ opened,
      tree.create (Path.join link.directory (Bytes.ofText name)) =
        .ok (.file output, opened)
  apart : place ≠ output

/-!
## What either side knows
-/

/-- A sender that has read a front of its source. -/
structure Progress.Sound
    (digesting : Bool)
    (name : String)
    (content : Bytes)
    (place : Location)
    (progress : Progress) :
    Prop where
  name : progress.name = name
  place : progress.place = place
  within : progress.offset ≤ content.length
  extended :
    Tally.Extended (.start digesting) (content.take progress.offset)
      progress.tally

/-- The octets that a sender has yet to write. -/
def Sending.pending (name : String) (content : Bytes) : Sending → Bytes
  | .opening => Header.announcement name ++ content
  | .writing rest progress => rest ++ content.drop progress.offset
  | .reading progress => content.drop progress.offset
  | .flushing _ => []
  | .finished _ => []

/-- What a sender knows where it rests. -/
def Sending.Sound
    (link : Link)
    (name : String)
    (content : Bytes)
    (place : Location) :
    Sending → Prop
  | .opening => True
  | .writing _ progress =>
      progress.Sound link.sending.digesting name content place
  | .reading progress =>
      progress.Sound link.sending.digesting name content place
  | .flushing progress =>
      progress.Sound link.sending.digesting name content place ∧
        progress.offset = content.length
  | .finished outcome =>
      outcome =
        .ok (.ofContent .client link.sending.digesting name link.path ⟨0, 0⟩
          content)

/-- What a receiver knows where it rests, once it has consumed some octets. -/
def Receiving.Sound
    (link : Link)
    (tree : FileTree)
    (name : String)
    (content : Bytes)
    (output : Location)
    (consumed : Bytes)
    (now : FileTree) :
    Receiving → Prop
  | .field got => consumed = got ∧ got.length < 2 ∧ now = tree
  | .name length got =>
      length = (Bytes.ofText name).length ∧ got.length < length ∧
        consumed = Bytes.ofNat16 length ++ got ∧ now = tree
  | .opening raw =>
      raw = Bytes.ofText name ∧ consumed = Header.announcement name ∧ now = tree
  | .content opened owed tally =>
      opened =
          ⟨name, Path.join link.directory (Bytes.ofText name), .file output⟩ ∧
        owed = none ∧
        ∃ front,
          consumed = Header.announcement name ++ front ∧
            Tally.Extended (.start link.receiving.digesting) front tally ∧
            now = tree.put output (.file front)
  | .finished outcome =>
      consumed = Header.announcement name ++ content ∧
        outcome =
          .ok (.ofContent .server link.receiving.digesting name
            (Path.join link.directory (Bytes.ofText name)) ⟨0, 0⟩ content) ∧
        now = tree.put output (.file content)

/-- Both sides and the pipe between them, in the course of a transfer. -/
structure Joint.Sound
    (link : Link)
    (tree : FileTree)
    (name : String)
    (content : Bytes)
    (place output : Location)
    (joint : Joint) :
    Prop where
  conserved :
    joint.consumed ++ joint.pipe ++ joint.sender.pending name content =
      Header.announcement name ++ content
  bounded : joint.pipe.length ≤ link.capacity
  sender : joint.sender.Sound link name content place
  receiver :
    joint.receiver.Sound link tree name content output joint.consumed joint.tree

variable
  {link : Link}
  {tree : FileTree}
  {name : String}
  {content : Bytes}
  {place output : Location}

theorem Joint.sound_start :
    (Joint.start tree).Sound link tree name content place output where
  conserved := rfl
  bounded := Nat.zero_le _
  sender := trivial
  receiver := ⟨rfl, by decide, rfl⟩

/-!
## Sender
-/

/-- What a sender with a known source does that does not involve the pipe. -/
inductive Link.Advances
    (link : Link)
    (name : String)
    (content : Bytes)
    (place : Location) :
    Sending → Sending → Prop where
  | opens :
      Link.Advances link name content place .opening
        (.writing (Header.announcement name)
          ⟨name, place, 0, .start link.sending.digesting⟩)
  | writes (progress : Progress) :
      Link.Advances link name content place (.writing [] progress) (.reading progress)
  | reads
      (progress : Progress)
      {octet : UInt8}
      {others : Bytes}
      (piece :
        octet :: others =
          (content.drop progress.offset).take
            (capped (some timedSourceLimit) link.sending.room)) :
      Link.Advances link name content place (.reading progress)
        (Link.afterRead progress (.ok (octet :: others)))
  | drains
      (progress : Progress)
      (drained : content.drop progress.offset = []) :
      Link.Advances link name content place (.reading progress) (.flushing progress)
  | flushes (progress : Progress) :
      Link.Advances link name content place (.flushing progress)
        (.finished
          (.ok (progress.tally.finish .client progress.name link.path ⟨0, 0⟩)))

namespace Link.Arranged

theorem nonempty
    (arranged : link.Arranged tree name content place output) :
    Bytes.ofText name ≠ [] := by
  obtain ⟨nonempty, -⟩ :=
    Filename.parts_of_isPlain
      (Filename.isPlain_of_validate arranged.sendable.plain)
  exact nonempty

/-- The source stays as it is while the output is written. -/
theorem lookup?_place
    (arranged : link.Arranged tree name content place output)
    {receiver : Receiving}
    {consumed : Bytes}
    {now : FileTree}
    (sound : receiver.Sound link tree name content output consumed now) :
    now.lookup? place = some (.file content) := by
  obtain ⟨spot, -, -, held⟩ := FileTree.find_eq_ok_iff.mp arranged.stands
  have kept (front : Bytes) :
      (tree.put output (.file front)).lookup? place = some (.file content) := by
    rw [FileTree.lookup?_put_of_ne _ tree arranged.apart, held]
  cases receiver with
  | field got =>
      rcases sound with ⟨-, -, rfl⟩
      exact held
  | name length got =>
      rcases sound with ⟨-, -, -, rfl⟩
      exact held
  | opening raw =>
      rcases sound with ⟨-, -, rfl⟩
      exact held
  | content opened owed tally =>
      rcases sound with ⟨-, -, front, -, -, rfl⟩
      exact kept front
  | finished outcome =>
      rcases sound with ⟨-, -, rfl⟩
      exact kept content

theorem readSome_source
    {progress : Progress}
    {now : FileTree}
    (held : now.lookup? place = some (.file content))
    (sound : progress.Sound link.sending.digesting name content place) :
    ((now.sourceAt progress.place progress.offset).readSome link.sending.room).1 =
      .ok ((content.drop progress.offset).take
        (capped (some timedSourceLimit) link.sending.room)) := by
  have opened : now.sourceAt progress.place progress.offset =
      .ofBytes (content.drop progress.offset) (some timedSourceLimit) := by
    simp [FileTree.sourceAt, sound.place, held]
  obtain ⟨after, reads, -⟩ :=
    (Inlet.over_ofBytes (some timedSourceLimit)
      (content.drop progress.offset)).readSome link.sending.room
  rw [opened, reads]

/-- A sender that has read a further piece has it left to write. -/
theorem sound_afterRead
    {progress : Progress}
    {octet : UInt8}
    {others : Bytes}
    (sound : progress.Sound link.sending.digesting name content place)
    (front : octet :: others <+: content.drop progress.offset) :
    let next := afterRead progress (.ok (octet :: others))
    next.Sound link name content place ∧
      next.pending name content = content.drop progress.offset := by
  intro next
  generalize piece_eq : octet :: others = piece at front
  rcases front with ⟨later, split⟩
  have rest : content.drop (progress.offset + piece.length) = later := by
    rw [← List.drop_drop, ← split, List.drop_left]
  have read : content.take (progress.offset + piece.length) =
      content.take progress.offset ++ piece := by
    rw [List.take_add, ← split, List.take_left]
  have within : progress.offset + piece.length ≤ content.length := by
    have lengths := congrArg List.length split
    have bound := sound.within
    simp only [List.length_append, List.length_drop] at lengths
    omega
  subst piece_eq
  refine ⟨⟨sound.name, sound.place, within, ?_⟩, ?_⟩
  · simp only [read]
    exact sound.extended.trans (.record _ progress.tally)
  · simp only [next, afterRead, Sending.pending, rest, split]

/-- A sender whose source stays as it is advances without a failure. -/
theorem advances_of_advance?
    (arranged : link.Arranged tree name content place output)
    {sender next : Sending}
    {now : FileTree}
    (sound : sender.Sound link name content place)
    (held : now.lookup? place = some (.file content))
    (untouched : sender = .opening → now = tree)
    (moves : link.advance? now sender = some next) :
    link.Advances name content place sender next := by
  cases sender with
  | opening =>
      obtain rfl := untouched rfl
      have opened := Source.open?_of_sendable arranged.sendable
        (some timedSourceLimit)
      simp only [advance?, opened, FileTree.placeOf, arranged.stands] at moves
      cases moves
      exact .opens
  | writing rest progress =>
      cases rest with
      | nil =>
          cases moves
          exact .writes progress
      | cons octet others => cases moves
  | reading progress =>
      simp only [advance?, readSome_source held sound, Option.some.injEq] at moves
      subst moves
      have some_room : 0 < capped (some timedSourceLimit) link.sending.room :=
        Inlet.capped_pos (Limits.room_pos _)
          (by simp [timedSourceLimit, Limits.mebibyte])
      cases shape : (content.drop progress.offset).take
          (capped (some timedSourceLimit) link.sending.room) with
      | nil =>
          refine .drains progress ?_
          rcases List.take_eq_nil_iff.mp shape with nothing | drained
          · omega
          · exact drained
      | cons octet others => exact .reads progress shape.symm
  | flushing progress =>
      cases moves
      exact .flushes progress
  | finished outcome => cases moves

/-- What a sender does by itself leaves the same octets to be written. -/
theorem sound_advances
    {sender next : Sending}
    (sound : sender.Sound link name content place)
    (advances : link.Advances name content place sender next) :
    next.Sound link name content place ∧
      next.pending name content = sender.pending name content := by
  cases advances with
  | opens => exact ⟨⟨rfl, rfl, Nat.zero_le _, .refl _⟩, rfl⟩
  | writes progress => exact ⟨sound, rfl⟩
  | reads progress piece =>
      exact sound_afterRead sound (piece ▸ List.take_prefix _ _)
  | drains progress drained =>
      have whole := List.drop_eq_nil_iff.mp drained
      exact ⟨⟨sound, Nat.le_antisymm sound.within whole⟩, drained.symm⟩
  | flushes progress =>
      rcases sound with ⟨sound, whole⟩
      have extended := sound.extended
      rw [whole, List.take_length] at extended
      refine ⟨?_, rfl⟩
      simp only [Sending.Sound]
      rw [Tally.finish_of_extended extended, sound.name]

/-!
## Receiver
-/

theorem sound_afterField
    (arranged : link.Arranged tree name content place output)
    {got : Bytes}
    (front : got <+: Header.announcement name ++ content)
    (size : got.length ≤ 2) :
    (afterField got).Sound link tree name content output got tree := by
  unfold afterField
  split
  case isTrue short => exact ⟨rfl, short, rfl⟩
  case isFalse whole =>
    have field : got.length = 2 := by
      simp only [Limits.lengthFieldSize] at whole
      omega
    have same : got = Bytes.ofNat16 (Bytes.ofText name).length := by
      rw [List.prefix_iff_eq_take.mp front, field]
      rfl
    have given := List.length_pos_iff.mpr arranged.nonempty
    rw [same, Header.nameLength_ofNat16 given arranged.sendable.short]
    exact ⟨rfl, given, by simp, rfl⟩

theorem sound_afterName
    {got : Bytes}
    (front :
      Bytes.ofNat16 (Bytes.ofText name).length ++ got <+:
        Header.announcement name ++ content)
    (size : got.length ≤ (Bytes.ofText name).length) :
    (afterName (Bytes.ofText name).length got).Sound link tree name content output
      (Bytes.ofNat16 (Bytes.ofText name).length ++ got) tree := by
  unfold afterName
  split
  case isTrue short => exact ⟨rfl, short, rfl, rfl⟩
  case isFalse whole =>
    rw [Header.announcement, List.append_assoc] at front
    have inside := (List.prefix_append_right_inj _).mp front
    have same : got = Bytes.ofText name := by
      rw [List.prefix_iff_eq_take.mp inside,
        Nat.le_antisymm size (Nat.le_of_not_lt whole), List.take_left]
    subst same
    exact ⟨rfl, rfl, rfl⟩

/-- A receiver that gets a piece is still in order. -/
theorem deliver
    (arranged : link.Arranged tree name content place output)
    {receiver : Receiving}
    {consumed piece : Bytes}
    {now : FileTree}
    (sound : receiver.Sound link tree name content output consumed now)
    (front : consumed ++ piece <+: Header.announcement name ++ content)
    (positive : 0 < piece.length)
    (fits : piece.length ≤ link.wants receiver) :
    let after := afterPiece now piece receiver
    after.1.Sound link tree name content output (consumed ++ piece) after.2 := by
  cases receiver with
  | field got =>
      rcases sound with ⟨rfl, short, rfl⟩
      simp only [wants, Limits.lengthFieldSize] at fits
      exact sound_afterField arranged front
        (by rw [List.length_append]; omega)
  | name length got =>
      rcases sound with ⟨rfl, short, rfl, rfl⟩
      simp only [wants] at fits
      rw [List.append_assoc] at front
      rw [List.append_assoc]
      exact sound_afterName front (by rw [List.length_append]; omega)
  | opening raw => exact absurd fits (Nat.not_le.mpr positive)
  | content opened owed tally =>
      rcases sound with ⟨rfl, rfl, moved, rfl, extended, rfl⟩
      have longer := extended.trans (.record piece tally)
      have gathered : (tally.record piece).content = moved ++ piece := by
        simpa [Tally.content_start] using longer.content
      refine ⟨rfl, rfl, moved ++ piece, by rw [List.append_assoc], longer, ?_⟩
      show (tree.put output (.file moved)).put output
          (.file (tally.record piece).content) = _
      rw [gathered, FileTree.put_put]
  | finished outcome => exact absurd fits (Nat.not_le.mpr positive)

/-- A receiver that asks for more than the header and the content has stored both. -/
theorem stored_of_end
    {receiver : Receiving}
    {now : FileTree}
    (sound :
      receiver.Sound link tree name content output
        (Header.announcement name ++ content) now)
    (asks : 0 < link.wants receiver) :
    ∃ tally,
      receiver =
          .content
            ⟨name, Path.join link.directory (Bytes.ofText name), .file output⟩
            none tally ∧
        Tally.Extended (.start link.receiving.digesting) content tally ∧
        now = tree.put output (.file content) := by
  have size := Header.length_announcement name
  cases receiver with
  | field got =>
      rcases sound with ⟨same, short, -⟩
      have lengths := congrArg List.length same
      rw [List.length_append] at lengths
      omega
  | name length got =>
      rcases sound with ⟨rfl, short, same, -⟩
      have lengths := congrArg List.length same
      simp only [List.length_append, Bytes.ofNat16, List.length_cons,
        List.length_nil] at lengths
      omega
  | opening raw => exact absurd asks (Nat.lt_irrefl 0)
  | content opened owed tally =>
      rcases sound with ⟨rfl, rfl, front, same, extended, rfl⟩
      obtain rfl := List.append_cancel_left same
      exact ⟨tally, rfl, extended, rfl⟩
  | finished outcome => exact absurd asks (Nat.lt_irrefl 0)

theorem finish
    {receiver : Receiving}
    {now : FileTree}
    (sound :
      receiver.Sound link tree name content output
        (Header.announcement name ++ content) now)
    (asks : 0 < link.wants receiver) :
    (afterEnd receiver).Sound link tree name content output
      (Header.announcement name ++ content) now := by
  obtain ⟨tally, rfl, extended, rfl⟩ := stored_of_end sound asks
  refine ⟨rfl, ?_, rfl⟩
  rw [Tally.finish_of_extended extended]

theorem opens
    (arranged : link.Arranged tree name content place output) :
    Output.open? link.directory tree (Bytes.ofText name) =
      .ok
        (⟨name, Path.join link.directory (Bytes.ofText name), .file output⟩,
          tree.put output (.file [])) := by
  rcases arranged.creates with ⟨opened, creates⟩
  obtain ⟨-, rfl⟩ := FileTree.create_file creates
  simp [Output.open?, Filename.place, arranged.sendable.plain, Except.map, creates]

theorem create
    (arranged : link.Arranged tree name content place output)
    {raw consumed : Bytes}
    {now : FileTree}
    (sound :
      Receiving.Sound link tree name content output consumed now (.opening raw)) :
    let after := link.afterOpen now raw
    after.1.Sound link tree name content output consumed after.2 := by
  rcases sound with ⟨rfl, rfl, rfl⟩
  simp only [afterOpen, arranged.opens]
  exact ⟨rfl, rfl, [], by simp, .refl _, rfl⟩

end Link.Arranged

/-!
## Both
-/

namespace Joint.Sound

/-- Nothing was changed before the source is open. -/
theorem tree_of_opening
    {joint : Joint}
    (sound : joint.Sound link tree name content place output)
    (opening : joint.sender = .opening) :
    joint.tree = tree := by
  have conserved := sound.conserved
  rw [opening, Sending.pending, List.append_left_eq_self,
    List.append_eq_nil_iff] at conserved
  have receives := sound.receiver
  rw [conserved.1] at receives
  cases waits : joint.receiver with
  | field got =>
      rw [waits] at receives
      exact receives.2.2
  | name length got =>
      rw [waits] at receives
      exact receives.2.2.2
  | opening raw =>
      rw [waits] at receives
      exact receives.2.2
  | content opened owed tally =>
      rw [waits] at receives
      rcases receives with ⟨-, -, front, nothing, -⟩
      simp [Header.announcement, Bytes.ofNat16] at nothing
  | finished outcome =>
      rw [waits] at receives
      rcases receives with ⟨nothing, -⟩
      simp [Header.announcement, Bytes.ofNat16] at nothing

/-- A sender advances without a failure whatever the receiver has done. -/
theorem advances
    (arranged : link.Arranged tree name content place output)
    {joint : Joint}
    {next : Sending}
    (sound : joint.Sound link tree name content place output)
    (moves : link.advance? joint.tree joint.sender = some next) :
    link.Advances name content place joint.sender next :=
  arranged.advances_of_advance? sound.sender
    (arranged.lookup?_place sound.receiver) sound.tree_of_opening moves

/-- Once the sender has finished and the pipe is empty, everything was consumed. -/
theorem consumed_of_finished
    {joint : Joint}
    {outcome : Except Fault Receipt}
    (sound : joint.Sound link tree name content place output)
    (drained : joint.pipe = [])
    (dropped : joint.sender = .finished outcome) :
    joint.consumed = Header.announcement name ++ content := by
  have conserved := sound.conserved
  simpa [drained, dropped, Sending.pending] using conserved

/-- Every step of either side preserves what both know. -/
theorem step
    (arranged : link.Arranged tree name content place output)
    {joint next : Joint}
    (sound : joint.Sound link tree name content place output)
    (steps : link.Step joint next) :
    next.Sound link tree name content place output := by
  cases steps with
  | @advance sender moves =>
      obtain ⟨sends, same⟩ :=
        Link.Arranged.sound_advances sound.sender (sound.advances arranged moves)
      refine ⟨?_, sound.bounded, sends, sound.receiver⟩
      rw [← sound.conserved, ← same]
      rfl
  | @write rest progress count offers positive most free =>
      have sends := sound.sender
      rw [offers] at sends
      have conserved := sound.conserved
      rw [offers] at conserved
      refine ⟨?_, ?_, sends, sound.receiver⟩
      · rw [← conserved]
        simp only [Joint.consumed, Sending.pending, List.append_assoc]
        rw [← List.append_assoc (rest.take count), List.take_append_drop]
      · simp only [List.length_append, List.length_take]
        omega
  | @read count positive most fits =>
      have got : (joint.pipe.take count).length = count :=
        List.length_take_of_le most
      have consumed :
          (joint.received ++ [joint.pipe.take count]).flatten =
            joint.consumed ++ joint.pipe.take count := by
        simp [Joint.consumed]
      have conserved :
          joint.consumed ++ joint.pipe.take count ++ joint.pipe.drop count ++
              joint.sender.pending name content =
            Header.announcement name ++ content := by
        rw [List.append_assoc joint.consumed, List.take_append_drop]
        exact sound.conserved
      refine ⟨?_, ?_, sound.sender, ?_⟩
      · rw [← conserved]
        simp only [Joint.consumed, consumed]
      · have bounded := sound.bounded
        simp only [List.length_drop]
        omega
      · simp only [Joint.consumed, consumed]
        refine arranged.deliver sound.receiver ?_ (by omega) (by omega)
        rw [← conserved, List.append_assoc]
        exact List.prefix_append _ _
  | @finish outcome drained dropped asks =>
      have whole := sound.consumed_of_finished drained dropped
      have receives := sound.receiver
      rw [whole] at receives
      refine ⟨sound.conserved, sound.bounded, sound.sender, ?_⟩
      have finishes := Link.Arranged.finish receives asks
      rw [← whole] at finishes
      exact finishes
  | @create raw named =>
      have receives := sound.receiver
      rw [named] at receives
      exact ⟨sound.conserved, sound.bounded, sound.sender, arranged.create receives⟩

/-- Whatever the order of the steps, both sides stay sound. -/
theorem of_reaches
    (arranged : link.Arranged tree name content place output)
    {joint : Joint}
    (reaches : link.Reaches (.start tree) joint) :
    joint.Sound link tree name content place output := by
  induction reaches with
  | refl => exact Joint.sound_start
  | tail _ steps sound => exact sound.step arranged steps

end Joint.Sound

end FileTransfer
