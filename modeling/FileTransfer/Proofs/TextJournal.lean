import FileTransfer.Proofs.Appending
import FileTransfer.Proofs.LineFeeds
import FileTransfer.Proofs.Serving

namespace FileTransfer

/-!
# Entries of a text journal

A peer chooses the octets of the names that a journal tells.  Messages quote them, so
a message is on one line whatever the name was (`Receiver.worded`).  The account of a
completed transfer has its name twice as it is, once by itself and once in its path
(`Receipt.Named`).  So each call adds one line, and two more for every line feed in
the name of a completed transfer (`text_journal_lines`).
-/

/-!
## Messages
-/

/-- What a fault says, apart from what the host answered, is on one line. -/
def Fault.Worded : Fault → Prop
  | .timeout step _ => Text.feeds step = 0
  | .host step _ => Text.feeds step = 0
  | _ => True

theorem Fault.Worded.feeds
    {fault : Fault}
    (worded : fault.Worded)
    (told : ∀ error, fault.source? = some error → Text.feeds error.message = 0) :
    Text.feeds fault.message = 0 := by
  delta message
  cases fault with
  | malformedFrame length => simp +decide
  | unexpectedEof got expected => simp +decide
  | invalidFilename name => simp +decide
  | invalidPath path => simp +decide
  | nameTooLong length => simp +decide
  | connectionClosed => decide
  | timeout step milliseconds =>
      have oneLine : Text.feeds step = 0 := worded
      simp +decide [oneLine]
  | host step error =>
      have oneLine : Text.feeds step = 0 := worded
      simp +decide [oneLine, told error rfl]

theorem Abort.feeds_message
    {aborted : Abort}
    (worded : aborted.fault.Worded)
    (told :
      ∀ error, aborted.fault.source? = some error → Text.feeds error.message = 0) :
    Text.feeds aborted.message = 0 := by
  have phase (phase : Phase) : Text.feeds phase.description = 0 := by
    cases phase <;> decide
  delta message
  simp +decide [phase, worded.feeds told]

/-- A field that is not read is missed in words of one line. -/
theorem Inlet.worded_exactly
    {length : Nat}
    {found : Bytes × Option Stop}
    {fault : Fault}
    (missed : exactly length found = .error fault) :
    fault.Worded := by
  obtain ⟨bytes, _ | _ | error⟩ := found <;> cases missed
  · trivial
  · rfl

theorem Header.worded_nameLength
    {field : Bytes}
    {fault : Fault}
    (refused : nameLength field = .error fault) :
    fault.Worded := by
  unfold nameLength at refused
  simp only at refused
  split at refused
  case isTrue => cases refused
  case isFalse =>
    cases refused
    trivial

theorem Inlet.worded_readName
    {inlet rest : Inlet}
    {aborted : Abort}
    (refused : inlet.readName = (.error aborted, rest)) :
    aborted.fault.Worded := by
  unfold readName at refused
  split at refused
  case h_1 fault after missed =>
    cases refused
    exact worded_exactly (congrArg Prod.fst missed)
  case h_2 field middle reads =>
    split at refused
    case h_1 fault announced =>
      cases refused
      exact Header.worded_nameLength announced
    case h_2 length announced =>
      split at refused
      case h_1 fault after missed =>
        cases refused
        exact worded_exactly (congrArg Prod.fst missed)
      case h_2 => cases refused

namespace TimedInlet

theorem worded_readField
    {step : String}
    {milliseconds length : Nat}
    {inlet rest : TimedInlet}
    {fault : Fault}
    (oneLine : Text.feeds step = 0)
    (missed : inlet.readField step milliseconds length = (.error fault, rest)) :
    fault.Worded := by
  unfold readField within at missed
  split at missed
  case h_1 reply after found =>
    cases missed
    have answered := congrArg Prod.fst found
    simp only [readExact?, Option.map_eq_some_iff] at answered
    obtain ⟨field, -, exact'⟩ := answered
    exact Inlet.worded_exactly exact'
  case h_2 =>
    cases missed
    exact oneLine

theorem worded_readName
    {milliseconds : Nat}
    {inlet rest : TimedInlet}
    {aborted : Abort}
    (refused : inlet.readName milliseconds = (.error aborted, rest)) :
    aborted.fault.Worded := by
  unfold readName at refused
  split at refused
  case h_1 fault after missed =>
    cases refused
    exact worded_readField rfl missed
  case h_2 field middle reads =>
    split at refused
    case h_1 fault announced =>
      cases refused
      exact Header.worded_nameLength announced
    case h_2 length announced =>
      split at refused
      case h_1 fault after missed =>
        cases refused
        exact worded_readField rfl missed
      case h_2 => cases refused

theorem worded_readBody
    {milliseconds room : Nat}
    {inlet rest : TimedInlet}
    {fault : Fault}
    (failed : inlet.readBody milliseconds room = (.error fault, rest)) :
    fault.Worded := by
  unfold readBody within at failed
  split at failed
  case h_1 reply after found =>
    cases failed
    have answered := congrArg Prod.fst found
    simp only [Option.map_eq_some_iff] at answered
    obtain ⟨answer, -, told⟩ := answered
    cases answer with
    | error error =>
        cases told
        rfl
    | ok piece => cases told
  case h_2 =>
    cases failed
    rfl

end TimedInlet

theorem Output.worded_open?
    {directory : Path}
    {tree : FileTree}
    {raw : Bytes}
    {aborted : Abort}
    (refused : Output.open? directory tree raw = .error aborted) :
    aborted.fault.Worded := by
  unfold Output.open? Filename.place Filename.validate at refused
  cases spelled : Bytes.text? raw with
  | none =>
      simp only [spelled, Except.map] at refused
      cases refused
      trivial
  | some name =>
      simp only [spelled] at refused
      split at refused
      case h_1 fault invalid =>
        cases refused
        split at invalid <;> cases invalid
        trivial
      case h_2 =>
        split at refused
        case h_1 =>
          cases refused
          rfl
        case h_2 => cases refused

theorem worded_receiveBody
    {room : Nat}
    {sink : Sink}
    {tally counted : Tally}
    {inlet last : Inlet}
    {fault : Fault}
    (received : receiveBody room sink tally inlet = ((.error fault, counted), last)) :
    fault.Worded := by
  fun_induction receiveBody room sink tally inlet with
  | case1 tally inlet error rest reads =>
      cases received
      rfl
  | case2 tally inlet rest reads => cases received
  | case3 tally inlet octet others rest reads error refused =>
      cases received
      rfl
  | case4 tally inlet octet others rest reads accepted ih => exact ih received

theorem worded_receiveBodyTimed
    {milliseconds room : Nat}
    {sink : Sink}
    {owed : Option HostError}
    {tally counted : Tally}
    {inlet last : TimedInlet}
    {fault : Fault}
    (received :
      receiveBodyTimed milliseconds room sink owed tally inlet =
        ((.error fault, counted), last)) :
    fault.Worded := by
  fun_induction receiveBodyTimed milliseconds room sink owed tally inlet with
  | case1 owed tally inlet error rest reads =>
      cases received
      exact TimedInlet.worded_readBody reads
  | case2 tally inlet rest error reads =>
      cases received
      rfl
  | case3 tally inlet rest reads => cases received
  | case4 owed tally inlet octet others rest reads error refused =>
      cases received
      rfl
  | case5 owed tally inlet octet others rest reads debt accepted ih => exact ih received

/-- Whatever a session received, what it says of its failure is on one line. -/
theorem Receiver.worded
    {options : TransferOptions}
    {directory : Path}
    {tree : FileTree}
    {receiver : Receiver}
    {aborted : Abort}
    (fails : (receiver.receive options directory tree).outcome = .error aborted) :
    aborted.fault.Worded := by
  cases receiver with
  | blocking inlet =>
      simp only [receive, receiveFile] at fails
      rcases named : inlet.readName with ⟨early | raw, rest⟩
      · rw [named] at fails
        cases fails
        exact Inlet.worded_readName named
      · rw [named] at fails
        simp only at fails
        rcases opens : Output.open? directory tree raw with late | ⟨output, opened⟩
        · rw [opens] at fails
          cases fails
          exact Output.worded_open? opens
        · rw [opens] at fails
          simp only at fails
          rcases received : receiveBody options.room output.sink
            (.start options.digesting) rest with ⟨⟨fault | done, counted⟩, last⟩
          · rw [received] at fails
            cases fails
            exact worded_receiveBody received
          · rw [received] at fails
            cases fails
  | timed readDeadline inlet =>
      simp only [receive, receiveFileTimed] at fails
      rcases named : inlet.readName (headerAllowance readDeadline) with
        ⟨early | raw, rest⟩
      · rw [named] at fails
        cases fails
        exact TimedInlet.worded_readName named
      · rw [named] at fails
        simp only at fails
        rcases opens : Output.open? directory tree raw with late | ⟨output, opened⟩
        · rw [opens] at fails
          cases fails
          exact Output.worded_open? opens
        · rw [opens] at fails
          simp only at fails
          rcases received :
            receiveBodyTimed (bodyAllowance readDeadline options.room) options.room
              output.sink none (.start options.digesting) rest with
            ⟨⟨fault | done, counted⟩, last⟩
          · rw [received] at fails
            cases fails
            exact worded_receiveBodyTimed received
          · rw [received] at fails
            cases fails

/-!
## Accounts
-/

/-- An account of a received file tells its name twice, and else nothing of the peer. -/
structure Receipt.Named (directory : Path) (receipt : Receipt) : Prop where
  path : receipt.path = Path.join directory (Bytes.ofText receipt.name)
  digest : ∀ digest, receipt.digest = some digest → Text.feeds digest = 0

theorem Receiver.named
    {options : TransferOptions}
    {directory : Path}
    {tree : FileTree}
    {receiver : Receiver}
    {receipt : Receipt}
    (succeeds : (receiver.receive options directory tree).outcome = .ok receipt) :
    receipt.Named directory := by
  obtain refused | ⟨raw, name, sink, content, opened⟩ :=
    receiver.receive_cases options directory tree
  · obtain ⟨aborted, fails, -⟩ := refused.outcome
    rw [fails] at succeeds
    cases succeeds
  · obtain ⟨-, same⟩ := opened.completed receipt succeeds
    have isName : receipt.name = name := congrArg Receipt.name same
    have isPath : receipt.path = Path.join directory raw := congrArg Receipt.path same
    have isDigest := congrArg Receipt.digest same
    refine ⟨?_, fun digest told => ?_⟩
    · rw [isPath, isName, Filename.ofText_of_validate opened.valid]
    · change receipt.digest = _ at isDigest
      rw [told] at isDigest
      simp only [Receipt.ofContent] at isDigest
      split at isDigest
      case isTrue =>
        rw [Option.some.inj isDigest]
        exact Text.feeds_hexDigest content
      case isFalse => cases isDigest

/-!
## Entries
-/

/-- The line feeds in the name that an event tells as it is. -/
def Event.nameFeeds : Event → Nat
  | .done _ receipt => Text.feeds receipt.name
  | _ => 0

/-- A path below a directory is shown with the line feeds of the name. -/
theorem Path.feeds_display_join
    {directory : Path}
    (oneLine : Bytes.lineFeed ∉ directory)
    (name : String) :
    Text.feeds (display (join directory (Bytes.ofText name))) = Text.feeds name := by
  have none : directory.count Bytes.lineFeed = 0 := List.count_eq_zero.mpr oneLine
  have apart : slash ≠ Bytes.lineFeed := by decide
  rw [display, Text.feeds_lossy, ← Bytes.count_ofText, join]
  split_ifs
  · rfl
  · rw [List.count_append, none, Nat.zero_add]
  · rw [List.count_append, none, Nat.zero_add, List.count_cons_of_ne apart]

theorem Event.feeds_word (event : Event) : Text.feeds event.word = 0 := by
  cases event <;> simp +decide [word]

/-- A line has the line feeds of its parts and the one at its end. -/
theorem Event.feeds_line
    {stamp : String}
    (stamped : Text.feeds stamp = 0)
    (event : Event) :
    Text.feeds (event.line stamp) = Text.feeds event.details + 1 := by
  have last : Text.feeds "\n" = 1 := by decide
  simp +decide [line, stamped, feeds_word, last]

theorem Event.feeds_start
    {peer : String}
    (oneLine : Text.feeds peer = 0) :
    Text.feeds (start peer).details = 0 := by
  delta details
  simp +decide [oneLine]

theorem Event.feeds_error
    {peer message : String}
    (oneLine : Text.feeds peer = 0)
    (told : Text.feeds message = 0) :
    Text.feeds (error peer message).details = 0 := by
  delta details
  simp +decide [oneLine, told]

theorem Event.feeds_done
    {directory : Path}
    {peer : String}
    {receipt : Receipt}
    (oneLine : Text.feeds peer = 0)
    (plain : Bytes.lineFeed ∉ directory)
    (named : receipt.Named directory) :
    Text.feeds (done peer receipt).details = 2 * Text.feeds receipt.name := by
  have path := Path.feeds_display_join plain receipt.name
  rw [← named.path] at path
  have words :
      ∀ word ∈ ["", "peer=", " name=", " path=", " bytes=", " seconds=", " blake3="],
        Text.feeds word = 0 := by
    decide
  delta details
  cases told : receipt.digest with
  | none =>
      simp +decide [told, oneLine, path, words]
      omega
  | some digest =>
      simp +decide [told, oneLine, path, words, named.digest digest told]
      omega

/-!
## Runs
-/

/-- A way to receive files into a directory that is one of the two engines. -/
def ReceivesInto
    {σ : Type}
    (directory : Path)
    (receive : FileTree → σ → Reception × σ) :
    Prop :=
  ∀ files inlet, ∃ options receiver,
    (receive files inlet).1 = Receiver.receive options directory files receiver

theorem receivesInto_receiveFile (options : TransferOptions) (directory : Path) :
    ReceivesInto directory (receiveFile options directory) :=
  fun _ inlet => ⟨options, .blocking inlet, rfl⟩

theorem receivesInto_receiveFileTimed
    (options : TransferOptions)
    (readDeadline : Option Nat)
    (directory : Path) :
    ReceivesInto directory (receiveFileTimed options readDeadline directory) :=
  fun _ inlet => ⟨options, .timed readDeadline inlet, rfl⟩

/-- An arrival whose peer, or whose failure, has a text of one line. -/
def Arrival.Legible {σ : Type} : Arrival σ → Prop
  | .connection peer _ => Text.feeds peer = 0
  | .failure fault => Text.feeds fault.message = 0

/-- What a turn records is told in lines of which only stored names break any. -/
theorem Turn.Answers.feeds_line
    {σ : Type}
    {directory : Path}
    {receive : FileTree → σ → Reception × σ}
    {found : FileTree}
    {arrival : Arrival σ}
    {turn : Turn}
    {stamp : String}
    (answers : turn.Answers receive found arrival)
    (engine : ReceivesInto directory receive)
    (plain : Bytes.lineFeed ∉ directory)
    (legible : arrival.Legible)
    (told :
      ∀ aborted error, turn.outcome = .ok (.error aborted) →
        aborted.fault.source? = some error → Text.feeds error.message = 0)
    (stamped : Text.feeds stamp = 0) :
    ∀ event ∈ turn.events, Text.feeds (event.line stamp) = 1 + 2 * event.nameFeeds := by
  intro event recorded
  rw [Event.feeds_line stamped, Nat.add_comm]
  congr 1
  cases answers with
  | failed fault notices =>
      obtain rfl := List.mem_singleton.mp recorded
      exact Event.feeds_error (by decide) legible
  | @completed peer inlet receipt left notices ends =>
      obtain ⟨options, receiver, same⟩ := engine found inlet
      simp only [List.mem_cons, List.not_mem_nil, or_false] at recorded
      rcases recorded with rfl | rfl
      · exact Event.feeds_start legible
      · have succeeds :
            (Receiver.receive options directory found receiver).outcome = .ok receipt := by
          rw [← same, ends]
        exact Event.feeds_done legible plain (Receiver.named succeeds)
  | @aborted peer inlet aborted left notices ends =>
      obtain ⟨options, receiver, same⟩ := engine found inlet
      have fails :
          (Receiver.receive options directory found receiver).outcome =
            .error aborted := by
        rw [← same, ends]
      simp only [List.mem_cons, List.not_mem_nil, or_false] at recorded
      rcases recorded with rfl | rfl
      · exact Event.feeds_start legible
      · exact Event.feeds_error legible
          (Abort.feeds_message (Receiver.worded fails) fun error => told aborted error rfl)

/-- Calls add one line each, and two more for each line feed in a stored name. -/
theorem Journal.count_entries
    {calls : List (String × Event)}
    (lined :
      ∀ call ∈ calls, Text.feeds (call.2.line call.1) = 1 + 2 * call.2.nameFeeds) :
    (entries .text calls).count Bytes.lineFeed =
      calls.length + 2 * (calls.map fun call => call.2.nameFeeds).sum := by
  have entry (call : String × Event) (among : call ∈ calls) :
      (Bytes.ofText (call.2.line call.1)).count Bytes.lineFeed =
        1 + 2 * call.2.nameFeeds := by
    rw [Bytes.count_ofText]
    exact lined call among
  calc
    _ = (calls.map fun call => 1 + 2 * call.2.nameFeeds).sum := by
      rw [entries, List.count_flatMap]
      exact congrArg List.sum (List.map_congr_left entry)
    _ = _ := by
      rw [List.sum_map_add, List.sum_map_mul_left]
      simp

/--
A text journal that is told what a server records gets one entry for each call, in
their order, and nothing else changes.  An entry begins with its time and its word
and is one line, whatever the peers sent, except that each line feed in the name of a
completed transfer breaks it in two places.
-/
theorem text_journal_lines
    {σ : Type}
    {directory : Path}
    {receive : FileTree → σ → Reception × σ}
    {notices : String → Except Abort Receipt → List String}
    {tree files : FileTree}
    {arrivals : List (Arrival σ)}
    {done : List Turn}
    {calls : List (String × Event)}
    {log : Location}
    {content : Bytes}
    (engine : ReceivesInto directory receive)
    (plain : Bytes.lineFeed ∉ directory)
    (legible : ∀ arrival ∈ arrivals, arrival.Legible)
    (ran :
      done =
        turns (fun found arrival => (Turn.take receive notices found arrival).carryOn)
          tree arrivals)
    (told :
      ∀ turn ∈ done, ∀ aborted error, turn.outcome = .ok (.error aborted) →
        aborted.fault.source? = some error → Text.feeds error.message = 0)
    (called : calls.map Prod.snd = done.flatMap Turn.events)
    (stamped : ∀ call ∈ calls, Text.feeds call.1 = 0)
    (stands : files.lookup? log = some (.file content)) :
    let later := (Journal.writing .text (.file log)).recordAll calls files
    let lines := calls.flatMap fun (stamp, event) => Bytes.ofText (event.line stamp)
    later.lookup? log = some (.file (content ++ lines)) ∧
      (∀ other, other ≠ log → later.lookup? other = files.lookup? other) ∧
      (∀ stamp event, (stamp, event) ∈ calls →
        (∃ rest : String, event.line stamp = s!"[{stamp}] {event.word} {rest}\n") ∧
          (Bytes.ofText (event.line stamp)).count Bytes.lineFeed =
            1 + 2 * event.nameFeeds) ∧
      (lines.count Bytes.lineFeed = calls.length ↔
        ∀ call ∈ calls, call.2.nameFeeds = 0) := by
  intro later lines
  have adds := Journal.recordAll_writing stands .text calls
  have lined (call : String × Event) (among : call ∈ calls) :
      Text.feeds (call.2.line call.1) = 1 + 2 * call.2.nameFeeds := by
    have recorded : call.2 ∈ calls.map Prod.snd := List.mem_map_of_mem among
    rw [called, List.mem_flatMap] at recorded
    obtain ⟨turn, taken, event⟩ := recorded
    have answered := taken
    rw [ran] at answered
    obtain ⟨found, arrival, arrived, same⟩ := exists_of_mem_turns answered
    have answers : turn.Answers receive found arrival := by
      rw [same]
      exact Turn.answers_carryOn receive notices found arrival
    exact answers.feeds_line engine plain (legible arrival arrived) (told turn taken)
      (stamped call among) call.2 event
  have total :
      lines.count Bytes.lineFeed =
        calls.length + 2 * (calls.map fun call => call.2.nameFeeds).sum :=
    Journal.count_entries lined
  refine ⟨adds.grown content stands, adds.elsewhere, ?_, ?_⟩
  · intro stamp event among
    refine ⟨⟨event.details, rfl⟩, ?_⟩
    rw [Bytes.count_ofText]
    exact lined (stamp, event) among
  · rw [total, Nat.add_eq_left, Nat.mul_eq_zero, List.sum_eq_zero_iff]
    simp only [OfNat.ofNat_ne_zero, false_or, List.forall_mem_map]

/-- A refused name of a line feed and a slash, and a failure to accept, are three lines. -/
theorem text_journal_lines_refused_name :
    let arrivals : List (Arrival Inlet) :=
      [.connection "p" (.ofBytes [0, 2, 0x0A, 0x2F] none),
        .failure (.host "accept" (.ofKind .connectionReset))]
    let done := serve (.standard [Path.dot]) (.bare []) arrivals
    let calls := (done.flatMap Turn.events).map fun event => ("now", event)
    let files := (FileTree.bare []).put [[0x6C]] (.file [])
    let later := (Journal.writing .text (.file [[0x6C]])).recordAll calls files
    let lines := calls.flatMap fun (stamp, event) => Bytes.ofText (event.line stamp)
    calls.length = 3 ∧ lines.count Bytes.lineFeed = 3 ∧
      later.lookup? [[0x6C]] = some (.file lines) := by
  intro arrivals done calls files later lines
  let aborted : Abort := ⟨.validateFilename, .invalidFilename (String.ofList ['\n', '/'])⟩
  let fault : Fault := .host "accept" (.ofKind .connectionReset)
  have refuses :
      (receiveFile .standard [Path.dot] (.bare []) (.ofBytes [0, 2, 0x0A, 0x2F] none)).1 =
        ⟨.error aborted, .bare []⟩ := by
    cbv
  have recorded :
      done.map (fun turn => (turn.outcome, turn.events)) =
        [(.ok (.error aborted), [.start "p", .error "p" aborted.message]),
          (.error fault, [.error "-" fault.message])] := by
    have ran :
        done.map (fun turn => (turn.outcome, turn.events)) =
          let reception :=
            (receiveFile .standard [Path.dot] (.bare [])
              (.ofBytes [0, 2, 0x0A, 0x2F] none)).1
          [(.ok reception.outcome, sessionEvents "p" reception.outcome),
            (.error fault, [.error "-" fault.message])] := rfl
    rw [ran, refuses]
    rfl
  have events :
      done.flatMap Turn.events =
        [.start "p", .error "p" aborted.message, .error "-" fault.message] := by
    have joined := congrArg (List.flatMap Prod.snd) recorded
    rw [List.flatMap_map] at joined
    exact joined
  have count : calls.length = 3 := by
    simp only [calls, events]
    rfl
  have legible : ∀ arrival ∈ arrivals, arrival.Legible := by
    intro arrival among
    simp only [arrivals, List.mem_cons, List.not_mem_nil, or_false] at among
    rcases among with rfl | rfl
    · exact (by decide : Text.feeds "p" = 0)
    · refine Fault.Worded.feeds (by decide : Text.feeds "accept" = 0) ?_
      rintro error ⟨⟩
      decide
  have told :
      ∀ turn ∈ done, ∀ aborted error, turn.outcome = .ok (.error aborted) →
        aborted.fault.source? = some error → Text.feeds error.message = 0 := by
    intro turn taken failed error ended source
    have among := List.mem_map_of_mem (f := fun turn => (turn.outcome, turn.events)) taken
    rw [recorded, ended] at among
    simp only [List.mem_cons, List.not_mem_nil, or_false, Prod.mk.injEq] at among
    rcases among with ⟨same, -⟩ | ⟨same, -⟩
    · obtain rfl : failed = aborted := by simpa using same
      cases source
    · cases same
  have stamped : ∀ call ∈ calls, Text.feeds call.1 = 0 := by
    intro call among
    obtain ⟨event, -, rfl⟩ := List.mem_map.mp among
    exact (by decide : Text.feeds "now" = 0)
  have called : calls.map Prod.snd = done.flatMap Turn.events := by
    simp only [calls, List.map_map]
    exact List.map_id _
  obtain ⟨grown, -, -, whole⟩ :=
    text_journal_lines (receivesInto_receiveFile .standard [Path.dot]) (by decide) legible
      rfl told called stamped (rfl : files.lookup? [[0x6C]] = some (.file []))
  refine ⟨count, ?_, grown⟩
  rw [← count]
  refine whole.mpr ?_
  simp only [calls, events]
  intro call among
  simp only [List.map_cons, List.map_nil, List.mem_cons, List.not_mem_nil, or_false] at among
  rcases among with rfl | rfl | rfl <;> rfl

/-- A stored name of `a`, a line feed and `b` makes four lines of two calls. -/
theorem line_feed_in_name_breaks_entry :
    let done :=
      serve (.standard [Path.dot]) (.bare [])
        [.connection "p" (.ofBytes [0, 3, 0x61, 0x0A, 0x62, 7] none)]
    let calls := (done.flatMap Turn.events).map fun event => ("now", event)
    let files := (FileTree.bare []).put [[0x6C]] (.file [])
    let later := (Journal.writing .text (.file [[0x6C]])).recordAll calls files
    calls.length = 2 ∧
      ∃ content, later.lookup? [[0x6C]] = some (.file content) ∧
        content.count Bytes.lineFeed = 4 := by
  intro done calls files later
  let receipt : Receipt :=
    ⟨.server, "a\nb", [Path.dot, Path.slash, 0x61, 0x0A, 0x62], 1, ⟨0, 0⟩, none⟩
  have completes :
      (receiveFile .standard [Path.dot] (.bare [])
          (.ofBytes [0, 3, 0x61, 0x0A, 0x62, 7] none)).1.outcome =
        .ok receipt := by
    rw [receiveFile_bare]
    cbv
  have events :
      done.flatMap Turn.events = [.start "p", .done "p" receipt] := by
    have ran :
        done.flatMap Turn.events =
          sessionEvents "p"
              (receiveFile .standard [Path.dot] (.bare [])
                (.ofBytes [0, 3, 0x61, 0x0A, 0x62, 7] none)).1.outcome ++
            [] := rfl
    rw [ran, completes]
    rfl
  have named : receipt.Named [Path.dot] := ⟨by cbv, by rintro digest ⟨⟩⟩
  have peer : Text.feeds "p" = 0 := by decide
  have stamped : Text.feeds "now" = 0 := by decide
  have calling : calls = [("now", .start "p"), ("now", .done "p" receipt)] := by
    simp only [calls, events]
    rfl
  have adds :=
    Journal.recordAll_writing (rfl : files.lookup? [[0x6C]] = some (.file [])) .text calls
  have lined (call : String × Event) (among : call ∈ calls) :
      Text.feeds (call.2.line call.1) = 1 + 2 * call.2.nameFeeds := by
    rw [calling] at among
    simp only [List.mem_cons, List.not_mem_nil, or_false] at among
    rcases among with rfl | rfl
    · rw [Event.feeds_line stamped, Event.feeds_start peer]
      decide
    · rw [Event.feeds_line stamped, Event.feeds_done peer (by decide) named]
      decide
  refine ⟨by rw [calling]; rfl, _, adds.grown [] rfl, ?_⟩
  rw [List.nil_append, Journal.count_entries lined, calling]
  decide

end FileTransfer
