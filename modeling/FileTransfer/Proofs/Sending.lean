import FileTransfer.Proofs.Content
import FileTransfer.Proofs.LastNames
import FileTransfer.Proofs.Wire
import FileTransfer.Proofs.Writing
import FileTransfer.Transfer.TimedSend
import Mathlib

namespace FileTransfer

/-!
# What a sender passes on

Whatever its stream does, a sender passes on a front of its header and the
content of its source.  When it succeeds it has passed on both entirely, and
its account is that of the content.  This holds with and without a clock
(`Sender.send_sent`).
-/

/-- The file at a path can be sent: it is regular, and its name is a plain one. -/
structure FileTree.Sendable
    (tree : FileTree)
    (path : Path)
    (name : String)
    (content : Bytes) :
    Prop where
  stands : ∃ location, tree.find path = .ok (location, .file content)
  named : ∃ text, Bytes.text? path = some text ∧ Filename.lastName text = name
  plain : Filename.validate (Bytes.ofText name) = .ok name
  short : (Bytes.ofText name).length ≤ Limits.maxNameLength

/-- A path announces the name that a header can carry for it. -/
structure Filename.Announces (path : Path) (name : String) : Prop where
  named : ∃ text, Bytes.text? path = some text ∧ lastName text = name
  given : name ≠ ""
  short : (Bytes.ofText name).length ≤ Limits.maxNameLength

theorem Filename.Announces.nonempty
    {path : Path}
    {name : String}
    (announces : Announces path name) :
    Bytes.ofText name ≠ [] := by
  intro empty
  exact announces.given (Bytes.ofText_injective (by rw [empty, Bytes.ofText_empty]))

/-- The name that a path announces is what follows its last slash. -/
theorem Filename.Announces.octets
    {path : Path}
    {name : String}
    (announces : Announces path name) :
    Bytes.ofText name = Path.lastPart path := by
  obtain ⟨⟨text, reads, rfl⟩, -, -⟩ := announces
  rw [ofText_lastName, Bytes.ofText_of_text? reads]

/-- What stands at a path that announces a name is opened, whatever it is. -/
theorem Source.open?_of_announced
    {tree : FileTree}
    {path : Path}
    {name : String}
    {location : Location}
    {entry : Entry}
    (announces : Filename.Announces path name)
    (stands : tree.find path = .ok (location, entry))
    (limit : Option Nat) :
    Source.open? limit tree path =
      .ok ⟨name, Header.announcement name, entry.inlet limit⟩ := by
  have nonempty := announces.nonempty
  rcases announces with ⟨⟨text, reads, rfl⟩, given, short⟩
  have opened : tree.openInput limit path = .ok (entry.inlet limit) := by
    simp [FileTree.openInput, stands, Except.map]
  simp [Source.open?, reads, Filename.ofPath, given, Nat.not_lt.mpr short, opened,
    Header.encode_of_short nonempty short, Except.mapError, bind, Except.bind,
    pure, Except.pure]

/-- A source is opened only where something stands, under a name that its path announces. -/
theorem Source.announced_of_open?
    {limit : Option Nat}
    {tree : FileTree}
    {path : Path}
    {source : Source}
    (opens : Source.open? limit tree path = .ok source) :
    ∃ location entry, tree.find path = .ok (location, entry) ∧
      Filename.Announces path source.name ∧
      source.header = Header.announcement source.name ∧
      source.inlet = entry.inlet limit := by
  cases reads : Bytes.text? path with
  | none => simp [Source.open?, reads, bind, Except.bind] at opens
  | some text =>
      by_cases given : Filename.lastName text = ""
      · simp [Source.open?, reads, Filename.ofPath, given, bind, Except.bind] at opens
      by_cases short :
        (Bytes.ofText (Filename.lastName text)).length ≤ Limits.maxNameLength
      case neg =>
        simp [Source.open?, reads, Filename.ofPath, given, Nat.lt_of_not_le short,
          bind, Except.bind, throw, throwThe, MonadExceptOf.throw] at opens
      have announces : Filename.Announces path (Filename.lastName text) :=
        ⟨⟨text, reads, rfl⟩, given, short⟩
      cases stands : tree.find path with
      | error error =>
          simp [Source.open?, reads, Filename.ofPath, given, Nat.not_lt.mpr short,
            FileTree.openInput, stands, Except.map, Except.mapError, bind,
            Except.bind] at opens
      | ok found =>
          rcases found with ⟨location, entry⟩
          rw [Source.open?_of_announced announces stands] at opens
          cases opens
          exact ⟨location, entry, rfl, announces, rfl, rfl⟩

theorem FileTree.Sendable.announces
    {tree : FileTree}
    {path : Path}
    {name : String}
    {content : Bytes}
    (sendable : tree.Sendable path name content) :
    Filename.Announces path name := by
  obtain ⟨nonempty, -⟩ :=
    Filename.parts_of_isPlain (Filename.isPlain_of_validate sendable.plain)
  refine ⟨sendable.named, ?_, sendable.short⟩
  rintro rfl
  exact nonempty Bytes.ofText_empty

/-- A file that can be sent is opened with its header and its whole content. -/
theorem Source.open?_of_sendable
    {tree : FileTree}
    {path : Path}
    {name : String}
    {content : Bytes}
    (sendable : tree.Sendable path name content)
    (limit : Option Nat) :
    Source.open? limit tree path =
      .ok ⟨name, Header.announcement name, .ofBytes content limit⟩ := by
  obtain ⟨location, stands⟩ := sendable.stands
  exact Source.open?_of_announced sendable.announces stands limit

/-- An opened file delivers its whole content, and then ends. -/
theorem Inlet.wire_ofBytes
    {limit : Option Nat}
    (moves : limit ≠ some 0)
    (content : Bytes) :
    (Inlet.ofBytes content limit).wire = ⟨content, .ended⟩ := by
  simp [wire, ofBytes, ofSteps, wireOf, moves, Wire.after, Wire.stopped]

/-!
## Content
-/

theorem sendBody_accepted
    {room : Nat}
    {source : Inlet}
    {tally counted : Tally}
    {outlet last : Outlet}
    {ended : Except Fault Unit}
    (positive : 0 < room)
    (sent : sendBody room source tally outlet = ((ended, counted), last)) :
    Accepted outlet.accepted source.wire.bytes last.accepted (ended = .ok ()) ∧
      (ended = .ok () → Tally.Extended tally source.wire.bytes counted) := by
  fun_induction sendBody room source tally outlet with
  | case1 source tally outlet error rest reads =>
      cases sent
      exact ⟨.failed _ _ (by simp), by simp⟩
  | case2 source tally outlet rest reads =>
      cases sent
      obtain ⟨wire, -⟩ := Inlet.readSome_ended positive reads
      rw [wire]
      exact ⟨.nothing _ _, fun _ => .refl _⟩
  | case3 source tally outlet octet others rest reads fault after writes =>
      cases sent
      obtain ⟨-, wire, -⟩ := Inlet.readSome_piece positive reads (by simp)
      rw [wire]
      exact ⟨(Outlet.writeAll_accepted writes).cut _ (by simp), by simp⟩
  | case4 source tally outlet octet others rest reads after writes ih =>
      obtain ⟨-, wire, -⟩ := Inlet.readSome_piece positive reads (by simp)
      obtain ⟨accepted, extended⟩ := ih sent
      rw [wire]
      exact ⟨(Outlet.writeAll_accepted writes).trans rfl accepted,
        fun finished => (Tally.Extended.record _ tally).trans (extended finished)⟩

theorem TimedOutlet.writeWithin_accepted
    {step : String}
    {buffer : Bytes}
    {outlet after : TimedOutlet}
    {reply : Except Fault Unit}
    (written : outlet.writeWithin step buffer = (reply, after)) :
    Accepted outlet.accepted buffer after.accepted (reply = .ok ()) := by
  unfold writeWithin within at written
  split at written
  case h_1 answer rest writes =>
    cases written
    simpa using writeAll?_accepted writes
  case h_2 rest writes =>
    cases written
    simpa using writeAll?_accepted writes

theorem sendBodyTimed_eq
    (room : Nat)
    (source : Inlet)
    (tally : Tally)
    (outlet : TimedOutlet) :
    sendBodyTimed room source tally outlet =
      match source.readSome room with
      | (.error error, _) =>
          ((.error (.host "read source file" error), tally), outlet)
      | (.ok [], _) => ((.ok (), tally), outlet)
      | (.ok (octet :: others), rest) =>
          match outlet.writeWithin "write body" (octet :: others) with
          | (.error fault, after) => ((.error fault, tally), after)
          | (.ok (), after) =>
              sendBodyTimed room rest (tally.record (octet :: others)) after := by
  rw [sendBodyTimed]
  split
  case h_1 => simp only [*]
  case h_2 => simp only [*]
  case h_3 octet others rest found =>
    rcases written : outlet.writeWithin "write body" (octet :: others) with
      ⟨fault | done, after⟩ <;>
      simp only [found, written]

/-- A content that fits into one buffer is written at once. -/
theorem sendBodyTimed_of_fits
    {room : Nat}
    {content : Bytes}
    {limit : Option Nat}
    (fits : content.length ≤ capped limit room)
    (nonempty : content ≠ [])
    (tally : Tally)
    (outlet : TimedOutlet) :
    sendBodyTimed room (.ofBytes content limit) tally outlet =
      match outlet.writeWithin "write body" content with
      | (.error fault, after) => ((.error fault, tally), after)
      | (.ok (), after) => ((.ok (), tally.record content), after) := by
  obtain ⟨rest, reads, exhausted⟩ :=
    (Inlet.over_ofBytes limit content).readSome room
  rw [List.take_of_length_le fits] at reads
  rw [List.drop_eq_nil_iff.mpr fits] at exhausted
  obtain ⟨last, ends, -⟩ := exhausted.readSome room
  rw [List.take_nil] at ends
  obtain ⟨octet, others, rfl⟩ := List.exists_cons_of_ne_nil nonempty
  rw [sendBodyTimed_eq, reads]
  simp only [sendBodyTimed_eq room rest, ends]

/-- Moving content into a stream under deadlines passes on a front of it, in order. -/
theorem sendBodyTimed_accepted
    {room : Nat}
    {source : Inlet}
    {tally counted : Tally}
    {outlet last : TimedOutlet}
    {ended : Except Fault Unit}
    (positive : 0 < room)
    (sent : sendBodyTimed room source tally outlet = ((ended, counted), last)) :
    Accepted outlet.accepted source.wire.bytes last.accepted (ended = .ok ()) ∧
      (ended = .ok () → Tally.Extended tally source.wire.bytes counted) := by
  fun_induction sendBodyTimed room source tally outlet with
  | case1 source tally outlet error rest reads =>
      cases sent
      exact ⟨.failed _ _ (by simp), by simp⟩
  | case2 source tally outlet rest reads =>
      cases sent
      obtain ⟨wire, -⟩ := Inlet.readSome_ended positive reads
      rw [wire]
      exact ⟨.nothing _ _, fun _ => .refl _⟩
  | case3 source tally outlet octet others rest reads fault after writes =>
      cases sent
      obtain ⟨-, wire, -⟩ := Inlet.readSome_piece positive reads (by simp)
      rw [wire]
      exact ⟨(TimedOutlet.writeWithin_accepted writes).cut _ (by simp), by simp⟩
  | case4 source tally outlet octet others rest reads after writes ih =>
      obtain ⟨-, wire, -⟩ := Inlet.readSome_piece positive reads (by simp)
      obtain ⟨accepted, extended⟩ := ih sent
      rw [wire]
      exact ⟨(TimedOutlet.writeWithin_accepted writes).trans rfl accepted,
        fun finished => (Tally.Extended.record _ tally).trans (extended finished)⟩

/-!
## Transfer
-/

/--
What a transfer comes to that offers a header and a content to a stream: the
stream accepted a front of them, and all of them if there is an account, which
is then that of the content.
-/
structure Sent
    (digesting : Bool)
    (path : Path)
    (name : String)
    (header content earlier later : Bytes)
    (outcome : Except Fault Receipt) :
    Prop where
  accepted :
    Accepted earlier (header ++ content) later (∃ receipt, outcome = .ok receipt)
  account :
    ∀ receipt, outcome = .ok receipt →
      receipt.untimed = .ofContent .client digesting name path ⟨0, 0⟩ content

theorem Sent.of_header_failed
    {digesting : Bool}
    {path : Path}
    {name : String}
    {header content earlier later : Bytes}
    {reply : Except Fault Unit}
    (fault : Fault)
    (accepted : Accepted earlier header later (reply = .ok ())) :
    Sent digesting path name header content earlier later (.error fault) :=
  ⟨accepted.cut content (by simp), by simp⟩

theorem Sent.of_content_failed
    {digesting : Bool}
    {path : Path}
    {name : String}
    {header content first second third : Bytes}
    {reply ended : Except Fault Unit}
    (fault : Fault)
    (wellDone : reply = .ok ())
    (front : Accepted first header second (reply = .ok ()))
    (back : Accepted second content third (ended = .ok ())) :
    Sent digesting path name header content first third (.error fault) := by
  rcases back with ⟨moved, rfl, start, -⟩
  exact ⟨front.trans wellDone ⟨moved, rfl, start, by simp⟩, by simp⟩

theorem Sent.of_whole
    {digesting : Bool}
    {path : Path}
    {name : String}
    {header content first second third : Bytes}
    {reply ended : Except Fault Unit}
    {counted : Tally}
    (elapsed : Elapsed)
    (wellDone : reply = .ok ())
    (finished : ended = .ok ())
    (front : Accepted first header second (reply = .ok ()))
    (back : Accepted second content third (ended = .ok ()))
    (extended : Tally.Extended (.start digesting) content counted) :
    Sent digesting path name header content first third
      (.ok (counted.finish .client name path elapsed)) := by
  rcases back with ⟨moved, rfl, start, whole⟩
  refine ⟨front.trans wellDone ⟨moved, rfl, start, fun _ => whole finished⟩, ?_⟩
  intro receipt given
  cases given
  rw [Tally.finish_of_extended extended]
  rfl

/-- Sending a source passes on a front of its header and content. -/
theorem sendSource_sent
    (options : TransferOptions)
    (path : Path)
    (source : Source)
    (outlet : Outlet) :
    let run := sendSource options path source outlet
    Sent options.digesting path source.name source.header source.inlet.wire.bytes
      outlet.accepted run.2.accepted run.1 := by
  unfold sendSource
  cases header : outlet.writeAll source.header with
  | mk reply after =>
      have front := Outlet.writeAll_accepted header
      cases reply with
      | error fault => exact .of_header_failed fault front
      | ok done =>
          simp only
          cases body : sendBody options.room source.inlet
              (.start options.digesting) after with
          | mk answer last =>
              rcases answer with ⟨ended, counted⟩
              obtain ⟨back, extended⟩ :=
                sendBody_accepted (Limits.room_pos _) body
              cases ended with
              | error fault => exact .of_content_failed fault rfl front back
              | ok done =>
                  simp only
                  cases flushes : last.flush with
                  | mk flushed final =>
                      have same := last.accepted_flush
                      rw [flushes] at same
                      rw [← same] at back
                      cases flushed with
                      | error error =>
                          exact .of_content_failed _ rfl front back
                      | ok done =>
                          exact .of_whole _ rfl rfl front back (extended rfl)

theorem sendSourceTimed_sent
    (options : TransferOptions)
    (path : Path)
    (source : Source)
    (outlet : TimedOutlet) :
    let run := sendSourceTimed options path source outlet
    Sent options.digesting path source.name source.header source.inlet.wire.bytes
      outlet.accepted run.2.accepted run.1 := by
  unfold sendSourceTimed
  cases header : outlet.writeWithin "write header" source.header with
  | mk reply after =>
      have front := TimedOutlet.writeWithin_accepted header
      cases reply with
      | error fault => exact .of_header_failed fault front
      | ok done =>
          simp only
          cases body : sendBodyTimed options.room source.inlet
              (.start options.digesting) after with
          | mk answer last =>
              rcases answer with ⟨ended, counted⟩
              obtain ⟨back, extended⟩ :=
                sendBodyTimed_accepted (Limits.room_pos _) body
              cases ended with
              | error fault => exact .of_content_failed fault rfl front back
              | ok done =>
                  simp only
                  cases flushes : last.flush with
                  | mk flushed final =>
                      have same := last.accepted_flush
                      rw [flushes] at same
                      rw [← same] at back
                      cases flushed with
                      | error error =>
                          exact .of_content_failed _ rfl front back
                      | ok done =>
                          exact .of_whole _ rfl rfl front back (extended rfl)

/-- A sending side, with or without a clock. -/
inductive Sender where
  | blocking (outlet : Outlet)
  | timed (outlet : TimedOutlet)
  deriving Repr

namespace Sender

def accepted : Sender → Bytes
  | .blocking outlet => outlet.accepted
  | .timed outlet => outlet.accepted

/-- Send the file at a path. -/
def send
    (options : TransferOptions)
    (tree : FileTree)
    (path : Path) :
    Sender → Except Fault Receipt × Sender
  | .blocking outlet =>
      match sendFile options tree path outlet with
      | (outcome, after) => (outcome, .blocking after)
  | .timed outlet =>
      match sendFileTimed options tree path outlet with
      | (outcome, after) => (outcome, .timed after)

/-- The most octets that a sender moves in one read of its source, if there is such a limit. -/
def sourceLimit : Sender → Option Nat
  | .blocking _ => none
  | .timed _ => some timedSourceLimit

/-- Send a source that was opened. -/
def sendSource
    (options : TransferOptions)
    (path : Path)
    (source : Source) :
    Sender → Except Fault Receipt × Sender
  | .blocking outlet =>
      match FileTransfer.sendSource options path source outlet with
      | (outcome, after) => (outcome, .blocking after)
  | .timed outlet =>
      match sendSourceTimed options path source outlet with
      | (outcome, after) => (outcome, .timed after)

/-- A sender does nothing to its stream before it has opened its source. -/
theorem send_eq
    (options : TransferOptions)
    (tree : FileTree)
    (path : Path)
    (sender : Sender) :
    sender.send options tree path =
      match Source.open? sender.sourceLimit tree path with
      | .error fault => (.error fault, sender)
      | .ok source => sender.sendSource options path source := by
  cases sender with
  | blocking outlet =>
      simp only [send, sendFile, sourceLimit]
      cases Source.open? none tree path <;> rfl
  | timed outlet =>
      simp only [send, sendFileTimed, sourceLimit]
      cases Source.open? (some timedSourceLimit) tree path <;> rfl

theorem sourceLimit_moves (sender : Sender) : sender.sourceLimit ≠ some 0 := by
  cases sender <;> simp [sourceLimit, timedSourceLimit, Limits.mebibyte]

/-- Sending an opened source passes on a front of its header and content. -/
theorem sendSource_sent
    (options : TransferOptions)
    (path : Path)
    (source : Source)
    (sender : Sender) :
    let run := sender.sendSource options path source
    Sent options.digesting path source.name source.header source.inlet.wire.bytes
      sender.accepted run.2.accepted run.1 := by
  cases sender with
  | blocking outlet => exact FileTransfer.sendSource_sent options path source outlet
  | timed outlet => exact sendSourceTimed_sent options path source outlet

/-- Sending a file passes on a front of its header and content. -/
theorem send_sent
    {tree : FileTree}
    {path : Path}
    {name : String}
    {content : Bytes}
    (sendable : tree.Sendable path name content)
    (options : TransferOptions)
    (sender : Sender) :
    let run := sender.send options tree path
    Sent options.digesting path name (Header.announcement name) content
      sender.accepted run.2.accepted run.1 := by
  have sent := sender.sendSource_sent options path
    ⟨name, Header.announcement name, .ofBytes content sender.sourceLimit⟩
  rw [Inlet.wire_ofBytes sender.sourceLimit_moves] at sent
  rw [send_eq, Source.open?_of_sendable sendable]
  exact sent

end Sender

end FileTransfer
