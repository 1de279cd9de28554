import FileTransfer.Proofs.Appending
import FileTransfer.Proofs.JsonWriting
import FileTransfer.Proofs.Reopening

namespace FileTransfer

/-!
# Lines of a journal of records

An event is recorded as one JSON object on a line of its own if its paths are texts.
If one of them is not, the record breaks off before the end of its line, and the next
record goes on in the same line (`Event.chars_record`).  A line with a broken record
in it is no JSON object (`Event.not_isObject_of_broken`).  So each event whose paths are
texts ends one line, and the line is its own unless broken records came right before
it (`record_journal_lines`).
-/

namespace Text

/-- The lines of a text that a line feed ends, without their line feeds. -/
def endedLines (text : List Char) : List (List Char) :=
  (text.splitOn '\n').dropLast

/-- A line feed ends a line, and the lines after it are those of the rest. -/
theorem endedLines_append (front back : List Char) :
    endedLines (front ++ '\n' :: back) = front.splitOn '\n' ++ endedLines back := by
  rw [endedLines, List.splitOn_append_cons_self,
    List.dropLast_append_of_ne_nil (List.splitOn_ne_nil '\n' back), endedLines]

/-- Each line feed ends one line. -/
theorem length_endedLines (text : List Char) :
    (endedLines text).length = text.count '\n' := by
  rw [endedLines, List.length_dropLast]
  induction text with
  | nil => rfl
  | cons char rest ih =>
      have nonempty := List.length_pos_of_ne_nil (List.splitOn_ne_nil '\n' rest)
      rw [List.splitOn_cons_eq_if_modifyHead, List.count_cons, ← ih]
      split
      case isTrue => rw [List.length_cons]; omega
      case isFalse => rw [List.length_modifyHead]; omega

/-- What follows the last line feed is an unfinished line. -/
theorem splitOn_of_unfinished
    {front last : List Char}
    (ends : front = [] ∨ ∃ before, front = before ++ ['\n'])
    (single : '\n' ∉ last) :
    (front ++ last).splitOn '\n' = endedLines front ++ [last] := by
  rcases ends with rfl | ⟨before, rfl⟩
  · exact List.splitOn_eq_singleton single
  · rw [endedLines_append, List.append_assoc, List.singleton_append,
      List.splitOn_append_cons_self, List.splitOn_eq_singleton single]
    simp [endedLines]

end Text

/-!
## Records
-/

namespace Event

/-- The paths of an event. -/
def paths : Event → List Path
  | listening _ directory => [directory]
  | start _ => []
  | done _ receipt => [receipt.path]
  | error _ _ => []

/-- Whether all paths of an event are texts. -/
def legible (event : Event) : Bool :=
  event.paths.all fun path => (Bytes.text? path).isSome

/-- An event is recorded as a whole if all its paths are texts. -/
theorem isSome_body? (event : Event) : event.body?.isSome = event.legible := by
  cases event with
  | listening address directory => simp [body?, legible, paths]
  | start peer => rfl
  | done peer receipt => simp [body?, legible, paths, Receipt.json?]
  | error peer message => rfl

/-- The characters of a record, before the line feed that ends its line. -/
def recorded (stamp : String) (event : Event) : List Char :=
  match event.body? with
  | some body => JsonValue.chars (.object [("timestamp", .text stamp), (event.key, body)])
  | none =>
      (JsonValue.chars (.object [("timestamp", .text stamp)])).dropLast ++
        ',' :: JsonValue.quotedChars event.key

/-- A line feed ends a record if all its paths are texts. -/
theorem chars_record (stamp : String) (event : Event) :
    (event.record stamp).toList =
      event.recorded stamp ++ (if event.legible then ['\n'] else []) := by
  rw [← isSome_body?]
  unfold record recorded
  cases event.body? with
  | none => simp [JsonValue.render]
  | some body => simp [JsonValue.render]

/-- A broken record is the front of an object, up to the key of its event. -/
theorem recorded_of_broken
    {stamp : String}
    {event : Event}
    (broken : event.legible = false) :
    event.recorded stamp =
      '\x7b' :: (JsonValue.quotedChars "timestamp" ++ ':' ::
        (JsonValue.quotedChars stamp ++ ',' :: JsonValue.quotedChars event.key)) := by
  have nothing : event.body? = none := by
    rw [← Option.not_isSome_iff_eq_none, isSome_body?, broken]
    decide
  have whole :
      JsonValue.chars (.object [("timestamp", .text stamp)]) =
        '\x7b' :: (JsonValue.quotedChars "timestamp" ++ ':' ::
          JsonValue.quotedChars stamp) ++ ['\x7d'] := by
    simp [JsonValue.chars, JsonValue.fieldChars]
  rw [recorded, nothing]
  simp only [whole, List.dropLast_concat]
  simp

theorem isObject_recorded
    {event : Event}
    (legible : event.legible)
    (stamp : String) :
    Json.IsObject (event.recorded stamp) := by
  rw [← isSome_body?] at legible
  obtain ⟨body, told⟩ := Option.isSome_iff_exists.mp legible
  rw [recorded, told]
  exact JsonValue.isObject_chars _

/-- A record, also a broken one, has no control in it. -/
theorem noControls_recorded (stamp : String) (event : Event) :
    Json.NoControls (event.recorded stamp) := by
  unfold recorded
  split
  · exact JsonValue.noControls_chars _
  · refine .append (fun char inside => ?_)
      (.cons (by decide) (JsonValue.noControls_quotedChars _))
    exact JsonValue.noControls_chars _ char (List.mem_of_mem_dropLast inside)

theorem newline_notMem_recorded (stamp : String) (event : Event) :
    '\n' ∉ event.recorded stamp :=
  (event.noControls_recorded stamp).newline_notMem

/-- Every record, also a broken one, opens an object. -/
theorem recorded_opens (stamp : String) (event : Event) :
    ∃ more, event.recorded stamp = '\x7b' :: more := by
  cases whole : event.legible with
  | false => exact ⟨_, recorded_of_broken whole⟩
  | true =>
      rw [← isSome_body?] at whole
      obtain ⟨body, told⟩ := Option.isSome_iff_exists.mp whole
      rw [recorded, told]
      exact ⟨_, rfl⟩

/-- What begins with a broken record before another record is no JSON object. -/
theorem not_isObject_of_broken
    {stamp : String}
    {event : Event}
    (broken : event.legible = false)
    (more : List Char) :
    ¬Json.IsObject (event.recorded stamp ++ '\x7b' :: more) := by
  rintro ⟨tokens, fields, scanned, reads⟩
  rw [recorded_of_broken broken] at scanned
  simp only [List.cons_append, List.append_assoc] at scanned
  rw [JsonValue.scan_cons rfl, Json.scan_quotedChars, JsonValue.scan_cons rfl,
    Json.scan_quotedChars, JsonValue.scan_cons rfl, Json.scan_quotedChars,
    JsonValue.scan_cons rfl] at scanned
  simp only [Option.map_map, Option.map_eq_some_iff] at scanned
  obtain ⟨rest, -, rfl⟩ := scanned
  exact Json.not_reads_of_missing_colon rfl (by rintro other rest ⟨⟩) [] reads

end Event

/-!
## Calls
-/

namespace Journal

variable (calls : List (String × Event))

/-- The characters of the records of some calls. -/
def records : List Char :=
  calls.flatMap fun call => (call.2.record call.1).toList

/-- The calls since the last one that was recorded as a whole. -/
def broken : List (String × Event) :=
  calls.rtakeWhile fun call => !call.2.legible

/-- What these calls left in the line that the next record goes on with. -/
def remains : List Char :=
  (broken calls).flatMap fun call => call.2.recorded call.1

theorem entries_eq_ofText :
    entries .jsonl calls = Bytes.ofText (String.ofList (records calls)) := by
  induction calls with
  | nil => rfl
  | cons call more ih =>
      have first :
          String.ofList (records (call :: more)) =
            call.2.record call.1 ++ String.ofList (records more) := by
        rw [records, List.flatMap_cons, String.ofList_append, String.ofList_toList, records]
      rw [first, Bytes.ofText_append, ← ih]
      rfl

/-- Each call whose paths are texts ends one line, and no other call does. -/
theorem count_records :
    (records calls).count '\n' = calls.countP (·.2.legible) := by
  induction calls with
  | nil => rfl
  | cons call more ih =>
      have own : (call.2.recorded call.1).count '\n' = 0 :=
        List.count_eq_zero.mpr (call.2.newline_notMem_recorded call.1)
      rw [records, List.flatMap_cons, ← records, List.count_append, ih, List.countP_cons,
        Event.chars_record, List.count_append, own]
      cases call.2.legible <;> simp [Nat.add_comm]

/-- Records end with a line feed, apart from the broken ones at their end. -/
theorem records_split :
    ∃ front, records calls = front ++ remains calls ∧
      (front = [] ∨ ∃ before, front = before ++ ['\n']) := by
  let whole := calls.rdropWhile fun call => !call.2.legible
  have parted : calls = whole ++ broken calls := List.rdropWhile_append_rtakeWhile.symm
  refine ⟨records whole, ?_, ?_⟩
  · have unfinished : records (broken calls) = remains calls := by
      refine List.flatMap_congr fun call among => ?_
      have illegible : call.2.legible = false := by
        simpa using List.mem_rtakeWhile_imp among
      simp [Event.chars_record, illegible]
    calc
      _ = records (whole ++ broken calls) := congrArg records parted
      _ = records whole ++ records (broken calls) := List.flatMap_append
      _ = _ := by rw [unfinished]
  · obtain nothing | ⟨front, last, shape⟩ := whole.eq_nil_or_concat
    · exact .inl (by rw [nothing]; rfl)
    · rw [List.concat_eq_append] at shape
      have nonempty : whole ≠ [] := by simp [shape]
      have legible : last.2.legible := by
        have stops : ¬(!(whole.getLast nonempty).2.legible) = true :=
          List.rdropWhile_last_not (fun call => !call.2.legible) calls nonempty
        have same : whole.getLast nonempty = last := by simp [shape]
        rw [same] at stops
        simpa using stops
      refine .inr ⟨records front ++ last.2.recorded last.1, ?_⟩
      rw [shape, records, List.flatMap_append, ← records]
      simp [Event.chars_record, legible]

/-- Between two calls that were recorded as a whole, the records are on one line. -/
theorem endedLines_records
    {event : Event}
    (legible : event.legible)
    (before after : List (String × Event))
    (stamp : String) :
    (Text.endedLines (records (before ++ (stamp, event) :: after)))[
        before.countP (·.2.legible)]? =
      some (remains before ++ event.recorded stamp) := by
  obtain ⟨front, shape, ends⟩ := records_split before
  have single : '\n' ∉ remains before ++ event.recorded stamp := by
    rw [List.mem_append, remains, List.mem_flatMap]
    rintro (⟨call, -, inside⟩ | inside)
    · exact call.2.newline_notMem_recorded call.1 inside
    · exact event.newline_notMem_recorded stamp inside
  have whole :
      records (before ++ (stamp, event) :: after) =
        (front ++ (remains before ++ event.recorded stamp)) ++ '\n' :: records after := by
    rw [records, List.flatMap_append, ← records, shape, List.flatMap_cons, ← records]
    simp [Event.chars_record, legible]
  have ended :
      (Text.endedLines front).length = before.countP (·.2.legible) := by
    have none : (remains before).count '\n' = 0 :=
      List.count_eq_zero.mpr fun inside => single (List.mem_append_left _ inside)
    rw [Text.length_endedLines, ← count_records, shape, List.count_append, none]
    rfl
  rw [whole, Text.endedLines_append, Text.splitOn_of_unfinished ends single, ← ended,
    List.append_assoc]
  simp

/-- A record is on a line of its own unless it goes on with the line of a broken one. -/
theorem isObject_line_iff
    {before : List (String × Event)}
    {event : Event}
    (legible : event.legible)
    (stamp : String) :
    Json.IsObject (remains before ++ event.recorded stamp) ↔ broken before = [] := by
  constructor
  · intro isObject
    cases shape : broken before with
    | nil => rfl
    | cons first others =>
        exfalso
        have among : first ∈ broken before := by simp [shape]
        have illegible : first.2.legible = false := by
          simpa using List.mem_rtakeWhile_imp among
        obtain ⟨more, opens⟩ :
            ∃ more, (others.flatMap fun call => call.2.recorded call.1) ++
              event.recorded stamp = '\x7b' :: more := by
          cases others with
          | nil => exact event.recorded_opens stamp
          | cons second rest =>
              obtain ⟨more, opens⟩ := second.2.recorded_opens second.1
              exact ⟨_, by rw [List.flatMap_cons, opens]; rfl⟩
        rw [remains, shape, List.flatMap_cons, List.append_assoc, opens] at isObject
        exact Event.not_isObject_of_broken illegible more isObject
  · intro none
    rw [remains, none]
    exact Event.isObject_recorded legible stamp

/-!
## Runs
-/

/-- What is done with a journal: it is told an event, or it is opened once more. -/
inductive Use where
  | call (stamp : String) (event : Event)
  | reopening
  deriving Repr, DecidableEq

/-- The call that a use is, if it is one. -/
def Use.call? : Use → Option (String × Event)
  | call stamp event => some (stamp, event)
  | reopening => none

/-- A journal of records and the files after a use.  Where it cannot be opened, it stays. -/
def use (path : Path) : Journal × FileTree → Use → Journal × FileTree
  | (journal, tree), .call stamp event => (journal, journal.record stamp event tree)
  | (journal, tree), .reopening =>
      match openAt .jsonl path tree with
      | (.ok again, opened) => (again, opened)
      | (.error _, left) => (journal, left)

/-- A use adds the record of its call to the file that the path stands for. -/
theorem use_writing
    {path : Path}
    {tree : FileTree}
    {log : Location}
    {content : Bytes}
    (found : tree.find path = .ok (log, .file content))
    (action : Use) :
    ∃ later, use path (.writing .jsonl (.file log), tree) action =
        (.writing .jsonl (.file log), later) ∧
      later.find path =
        .ok (log, .file (content ++ entries .jsonl action.call?.toList)) := by
  cases action with
  | reopening =>
      refine ⟨tree, ?_, ?_⟩
      · simp [use, openAt_of_find found]
      · simpa [Use.call?, entries] using found
  | call stamp event =>
      obtain ⟨-, -, -, stands⟩ := FileTree.find_eq_ok_iff.mp found
      refine ⟨_, rfl, ?_⟩
      simp only [record, FileTree.append, stands, Use.call?, Option.toList_some, entries,
        List.flatMap_singleton]
      exact FileTree.find_put_file found _

/-- Some uses add the records of their calls, in their order. -/
theorem uses_writing
    {path : Path}
    {tree : FileTree}
    {log : Location}
    {content : Bytes}
    (found : tree.find path = .ok (log, .file content))
    (uses : List Use) :
    ∃ later, uses.foldl (use path) (.writing .jsonl (.file log), tree) =
        (.writing .jsonl (.file log), later) ∧
      later.find path =
        .ok (log, .file (content ++ entries .jsonl (uses.filterMap Use.call?))) := by
  induction uses generalizing tree content with
  | nil => exact ⟨tree, rfl, by simpa [entries] using found⟩
  | cons action more ih =>
      obtain ⟨middle, steps, there⟩ := use_writing found action
      obtain ⟨later, runs, ends⟩ := ih there
      refine ⟨later, by rw [List.foldl_cons, steps, runs], ?_⟩
      have parted :
          (action :: more).filterMap Use.call? =
            action.call?.toList ++ more.filterMap Use.call? := by
        cases action <;> rfl
      rw [ends, parted]
      simp [entries]

end Journal

/--
A journal of records that starts with an empty file, and is called and opened again
in any order, holds the records of its calls in their order.  Each call whose paths
are texts ends one line, with its record as a JSON object.  The line is that object
alone unless the calls right before it broke off; then it is no JSON object.
-/
theorem record_journal_lines
    {path : Path}
    {tree opened : FileTree}
    {journal : Journal}
    {log : Location}
    (opens : Journal.openAt .jsonl path tree = (.ok journal, opened))
    (empty : opened.find path = .ok (log, .file []))
    (uses : List Journal.Use) :
    let calls := uses.filterMap Journal.Use.call?
    let later := (uses.foldl (Journal.use path) (journal, opened)).2
    let lines := Text.endedLines (Journal.records calls)
    later.find path =
        .ok (log, .file (Bytes.ofText (String.ofList (Journal.records calls)))) ∧
      lines.length = calls.countP (·.2.legible) ∧
      ∀ before stamp event after, calls = before ++ (stamp, event) :: after →
        event.legible →
          let line := Journal.remains before ++ event.recorded stamp
          lines[before.countP (·.2.legible)]? = some line ∧
            Json.IsObject (event.recorded stamp) ∧
            (Json.IsObject line ↔ Journal.broken before = []) := by
  intro calls later lines
  have writes := Journal.eq_writing_of_openAt opens empty
  obtain ⟨final, runs, ends⟩ := Journal.uses_writing empty uses
  refine ⟨?_, ?_, ?_⟩
  · have same : later = final := by simp only [later, writes, runs]
    rw [same, ends, List.nil_append, Journal.entries_eq_ofText]
  · exact (Text.length_endedLines _).trans (Journal.count_records calls)
  · intro before stamp event after shape legible line
    refine ⟨?_, Event.isObject_recorded legible stamp,
      Journal.isObject_line_iff legible stamp⟩
    simp only [lines, shape]
    exact Journal.endedLines_records legible before after stamp

/-- A record that broke off keeps its line, so of the next two lines one is no object. -/
theorem record_journal_lines_after_broken :
    let uses : List Journal.Use :=
      [.call "t" (.start "p"), .reopening, .call "t" (.listening "b" [0xFF]),
        .call "t" (.start "q")]
    let calls := uses.filterMap Journal.Use.call?
    let lines := Text.endedLines (Journal.records calls)
    ∃ journal opened,
      Journal.openAt .jsonl [0x6C] (.bare []) = (.ok journal, opened) ∧
        (uses.foldl (Journal.use [0x6C]) (journal, opened)).2.find [0x6C] =
          .ok ([[0x6C]], .file (Bytes.ofText (String.ofList (Journal.records calls)))) ∧
        lines.length = 2 ∧
        (∃ first, lines[0]? = some first ∧ Json.IsObject first) ∧
        ∃ second, lines[1]? = some second ∧ ¬Json.IsObject second := by
  intro uses calls lines
  have opens :
      Journal.openAt .jsonl [0x6C] (.bare []) =
        (.ok (.writing .jsonl (.file [[0x6C]])),
          (FileTree.bare []).put [[0x6C]] (.file [])) := by
    cbv
  have empty :
      ((FileTree.bare []).put [[0x6C]] (.file [])).find [0x6C] =
        .ok ([[0x6C]], .file []) := by
    cbv
  obtain ⟨held, length, line⟩ := record_journal_lines opens empty uses
  obtain ⟨first, -, whole⟩ := line [] "t" (.start "p") _ rfl rfl
  obtain ⟨second, -, shared⟩ :=
    line [("t", .start "p"), ("t", .listening "b" [0xFF])] "t" (.start "q") [] rfl rfl
  refine ⟨_, _, opens, held, ?_, ⟨_, first, whole.mpr rfl⟩, ⟨_, second, ?_⟩⟩
  · exact length.trans (by cbv)
  · intro isObject
    have none := shared.mp isObject
    have breaks :
        Journal.broken [("t", Event.start "p"), ("t", .listening "b" [0xFF])] =
          [("t", .listening "b" [0xFF])] := by
      cbv
    rw [breaks] at none
    cases none

/--
A directory that is no text breaks the record of a server that listens, and the only
line there is, which the next call ends, is no object.
-/
theorem broken_record_damages_next :
    let calls := [("t", Event.listening "b" [0xFF]), ("t", Event.start "p")]
    let files := (FileTree.bare []).put [[0x6C]] (.file [])
    let later := (Journal.writing .jsonl (.file [[0x6C]])).recordAll calls files
    let lines := Text.endedLines (Journal.records calls)
    (Event.start "p").legible ∧
      later.lookup? [[0x6C]] =
        some (.file (Bytes.ofText (String.ofList (Journal.records calls)))) ∧
      lines.length = 1 ∧ ∃ line, lines[0]? = some line ∧ ¬Json.IsObject line := by
  intro calls files later lines
  have adds :=
    Journal.recordAll_writing (rfl : files.lookup? [[0x6C]] = some (.file [])) .jsonl calls
  rw [Journal.entries_eq_ofText] at adds
  have whole : (Event.start "p").legible := rfl
  have first :=
    Journal.endedLines_records whole [("t", .listening "b" [0xFF])] [] "t"
  have none : [("t", Event.listening "b" [0xFF])].countP (·.2.legible) = 0 := by cbv
  rw [none] at first
  refine ⟨whole, adds.grown [] rfl, ?_, _, first, ?_⟩
  · rw [Text.length_endedLines, Journal.count_records]
    cbv
  · intro isObject
    have breaks :
        Journal.broken [("t", Event.listening "b" [0xFF])] =
          [("t", .listening "b" [0xFF])] := by
      cbv
    have empty := (Journal.isObject_line_iff whole "t").mp isObject
    rw [breaks] at empty
    cases empty

end FileTransfer
