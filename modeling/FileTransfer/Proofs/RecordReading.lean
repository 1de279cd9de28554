import FileTransfer.Proofs.Content
import FileTransfer.Proofs.JsonReading
import FileTransfer.Proofs.RecordJournal
import FileTransfer.Text.Natural

namespace FileTransfer

/-!
# Reading records back

A record is read by any reader of JSON: what stands between quotes is unescaped, the
fields of an object are found by their names, and the event is told by the one name
that is there.  Whatever the texts of an event are, this gives back the event, apart
from the time that it took, and the time at which it was recorded
(`Event.decode?_recorded`).
-/

namespace Json

/-!
## Texts
-/

/-- Where reading a text between its quotes stands. -/
inductive Unescaping where
  | plain
  /-- Behind the first half of a character in two code units. -/
  | half (lead : Nat)
  /-- Behind a backslash, and behind such a half before it, if there is one. -/
  | escape (lead : Option Nat)
  /-- In a code unit with this value so far, of which so many digits are missing. -/
  | code (lead : Option Nat) (value missing : Nat)
  deriving DecidableEq

/-- The value of a hexadecimal digit. -/
def hexValue (digit : Char) : Nat :=
  if digit.isDigit then digit.toNat - 48
  else if digit.isUpper then digit.toNat - 55
  else digit.toNat - 87

/-- The character for which a letter behind a backslash stands. -/
def named? : Char → Option Char
  | '"' => some '"'
  | '\\' => some '\\'
  | '/' => some '/'
  | 'b' => some '\x08'
  | 'f' => some '\x0c'
  | 'n' => some '\n'
  | 'r' => some '\r'
  | 't' => some '\t'
  | _ => none

/-- Whether a code unit is the first half of a character. -/
def isLead (unit : Nat) : Bool :=
  0xD800 ≤ unit && unit < 0xDC00

/-- Whether a code unit is the second half of a character. -/
def isTrail (unit : Nat) : Bool :=
  0xDC00 ≤ unit && unit < 0xE000

namespace Unescaping

/-- What a whole code unit adds to a text.  Half a character does not stand alone. -/
def unit? (lead : Option Nat) (unit : Nat) : Option (List Char × Unescaping) :=
  match lead with
  | none =>
      if isLead unit then some ([], half unit)
      else if isTrail unit then none
      else some ([Char.ofNat unit], plain)
  | some lead =>
      if isTrail unit then
        some
          ([Char.ofNat (0x10000 + (lead - 0xD800) * 0x400 + (unit - 0xDC00))], plain)
      else none

/-- What a written character adds to a text, and where reading stands after it. -/
def step? (char : Char) : Unescaping → Option (List Char × Unescaping)
  | plain => if char = '\\' then some ([], escape none) else some ([char], plain)
  | half lead => if char = '\\' then some ([], escape (some lead)) else none
  | escape lead =>
      if char = 'u' then some ([], code lead 0 4)
      else if lead.isSome then none
      else (named? char).map fun meant => ([meant], plain)
  | code lead value missing =>
      if ¬isHex char then none
      else if missing ≤ 1 then unit? lead (16 * value + hexValue char)
      else some ([], code lead (16 * value + hexValue char) (missing - 1))

end Unescaping

/-- The characters that the rest of a written text means. -/
def unescapeFrom (position : Unescaping) : List Char → Option (List Char)
  | [] => if position = .plain then some [] else none
  | char :: rest =>
      match position.step? char with
      | none => none
      | some (meant, next) => (unescapeFrom next rest).map (meant ++ ·)

/-- The characters that a text between quotes means. -/
def unescape? (written : List Char) : Option (List Char) :=
  unescapeFrom .plain written

/-- The digits of the code point of a control have its value. -/
theorem value_hexCode
    {code : Nat}
    (control : code < 32) :
    (JsonValue.hexCode code).foldl (fun value digit => 16 * value + hexValue digit) 0 =
      code := by
  interval_cases code <;> rfl

theorem unit?_of_control
    {code : Nat}
    (control : code < 32) :
    Unescaping.unit? none code = some ([Char.ofNat code], .plain) := by
  have small : ¬0xD800 ≤ code ∧ ¬0xDC00 ≤ code := by omega
  simp [Unescaping.unit?, isLead, isTrail, small]

/-- What is written for a character means this character. -/
theorem unescapeFrom_escaped (char : Char) (rest : List Char) :
    unescapeFrom .plain (JsonValue.escaped char ++ rest) =
      (unescapeFrom .plain rest).map (char :: ·) := by
  unfold JsonValue.escaped
  split_ifs with quote escape back form feed ret tab control
  · simp [unescapeFrom, Unescaping.step?, named?, quote, Function.comp_def]
  · simp [unescapeFrom, Unescaping.step?, named?, escape, Function.comp_def]
  · simp [unescapeFrom, Unescaping.step?, named?, back, Function.comp_def]
  · simp [unescapeFrom, Unescaping.step?, named?, form, Function.comp_def]
  · simp [unescapeFrom, Unescaping.step?, named?, feed, Function.comp_def]
  · simp [unescapeFrom, Unescaping.step?, named?, ret, Function.comp_def]
  · simp [unescapeFrom, Unescaping.step?, named?, tab, Function.comp_def]
  · obtain ⟨first, second, third, fourth, shape, isFirst, isSecond, isThird, isFourth⟩ :=
      hexCode_of_control control
    have value := value_hexCode control
    simp only [shape, List.foldl_cons, List.foldl_nil, Nat.mul_zero, Nat.zero_add] at value
    simp [unescapeFrom, Unescaping.step?, shape, isFirst, isSecond, isThird, isFourth,
      value, unit?_of_control control, Function.comp_def]
  · simp [unescapeFrom, Unescaping.step?, escape]

theorem unescape?_writtenText (text : String) :
    unescape? (JsonValue.writtenText text) = some text.toList := by
  unfold unescape? JsonValue.writtenText
  induction text.toList with
  | nil => rfl
  | cons char more ih => rw [List.flatMap_cons, unescapeFrom_escaped, ih, Option.map_some]

/-!
## Numbers
-/

/-- Reading the digits of a number gives the number back. -/
theorem valueOf_digitsOf (value : Nat) :
    Text.valueOf (Decimal.digitsOf value) = value := by
  have digit : ∀ value < 10, (Nat.digitChar value).toNat - 48 = value := by decide
  unfold Decimal.digitsOf
  induction value using Nat.strongRecOn with
  | ind value ih =>
      rw [Nat.toDigits_eq_if (by decide)]
      split
      case isTrue small => simp [Text.valueOf, digit value small]
      case isFalse large =>
        have front := ih (value / 10) (by omega)
        simp only [Text.valueOf] at front ⊢
        rw [List.foldl_append, front, List.foldl_cons, List.foldl_nil,
          digit (value % 10) (by omega)]
        omega

/-!
## Parts of a value
-/

namespace Document

/-- The text that a value is, if it is one. -/
def text? : Document → Option String
  | .text written => (unescape? written).map String.ofList
  | _ => none

/-- The text that a value is, or that there is none. -/
def optionalText? : Document → Option (Option String)
  | .null => some none
  | value => value.text?.map some

/-- The natural number that a value is, if it is one. -/
def natural? : Document → Option Nat
  | .number written => if Digits written then some (Text.valueOf written) else none
  | _ => none

/-- The value of the first field of an object that has this name. -/
def field? (name : String) : Document → Option Document
  | .object fields =>
      (fields.find? fun field => unescape? field.1 = some name.toList).map Prod.snd
  | _ => none

/-- The text in the field of an object that has this name. -/
def textAt? (name : String) (value : Document) : Option String :=
  (value.field? name).bind text?

end Document

end Json

namespace JsonValue

open Json

@[simp] theorem text?_document (text : String) :
    (document (.text text)).text? = some text := by
  simp [document, Document.text?, unescape?_writtenText]

@[simp] theorem optionalText?_null : (document .null).optionalText? = some none := rfl

@[simp] theorem optionalText?_text (text : String) :
    (document (.text text)).optionalText? = some (some text) := by
  have reads := text?_document text
  unfold document at reads ⊢
  simp [Document.optionalText?, reads]

@[simp] theorem natural?_document (value : Nat) :
    (document (.integer value)).natural? = some value := by
  simp [document, Document.natural?, digits_digitsOf, valueOf_digitsOf]

/-- A field of a written object is found by its name. -/
@[simp] theorem field?_document (name : String) (fields : List (String × JsonValue)) :
    (document (.object fields)).field? name =
      (fields.find? fun field => field.1 = name).map fun field => field.2.document := by
  simp only [document, Document.field?]
  induction fields with
  | nil => rfl
  | cons field more ih =>
      obtain ⟨key, value⟩ := field
      simp only [fieldDocuments, List.find?_cons, unescape?_writtenText, Option.some.injEq,
        String.toList_inj]
      by_cases same : key = name
      · simp [same]
      · simpa [same] using ih

/-- What is written of a value is read as this value. -/
theorem parse?_chars (value : JsonValue) : parse? value.chars = some value.document := by
  have reads := reads_tokens value []
  rw [List.append_nil] at reads
  exact (parse?_eq_some_iff _ _).mpr ⟨_, scan_value value, reads⟩

end JsonValue

/-!
## Events
-/

/-- The side that a word names, if it names one. -/
def Role.ofWord? (word : String) : Option Role :=
  if word = Role.client.word then some .client
  else if word = Role.server.word then some .server
  else none

theorem Role.ofWord?_word (role : Role) : Role.ofWord? role.word = some role := by
  cases role <;> rfl

/-- The receipt that a value tells, without the time that the transfer took. -/
def Receipt.ofDocument? (document : Json.Document) : Option Receipt := do
  let role ← Role.ofWord? (← document.textAt? "role")
  let name ← document.textAt? "name"
  let path ← document.textAt? "path"
  let bytes ← (← document.field? "bytes").natural?
  let digest ← (← document.field? "digest").optionalText?
  return ⟨role, name, Bytes.ofText path, bytes, ⟨0, 0⟩, digest⟩

theorem Receipt.ofDocument?_document
    {receipt : Receipt}
    {told : JsonValue}
    (tells : receipt.json? = some told) :
    ofDocument? told.document = some receipt.untimed := by
  obtain ⟨path, reads, rfl⟩ := Option.map_eq_some_iff.mp tells
  have octets := Bytes.ofText_of_text? reads
  obtain ⟨role, name, file, bytes, elapsed, digest⟩ := receipt
  cases digest <;>
    simp [ofDocument?, Json.Document.textAt?, Role.ofWord?_word, untimed, octets]

namespace Event

/-- The same event without the time that a transfer took. -/
def untimed : Event → Event
  | done peer receipt => .done peer receipt.untimed
  | event => event

/-- The event that a value tells by the one name of an event that it has. -/
def ofDocument? (document : Json.Document) : Option Event :=
  match
    document.field? "listen", document.field? "connect", document.field? "done",
    document.field? "error"
  with
  | some body, none, none, none => do
      return .listening (← body.textAt? "bind") (Bytes.ofText (← body.textAt? "dir"))
  | none, some body, none, none => do
      return .start (← body.textAt? "peer")
  | none, none, some body, none => do
      return .done (← body.textAt? "peer")
        (← Receipt.ofDocument? (← body.field? "report"))
  | none, none, none, some body => do
      return .error (← body.textAt? "peer") (← body.textAt? "msg")
  | _, _, _, _ => none

/-- The time and the event of a line of a journal of records, if the line tells them. -/
def decode? (line : List Char) : Option (String × Event) := do
  let document ← Json.parse? line
  return (← document.textAt? "timestamp", ← ofDocument? document)

/-- A record with all its paths as texts tells its event and its time. -/
theorem decode?_recorded
    {event : Event}
    (legible : event.legible)
    (stamp : String) :
    decode? (event.recorded stamp) = some (stamp, event.untimed) := by
  rw [← isSome_body?] at legible
  obtain ⟨body, told⟩ := Option.isSome_iff_exists.mp legible
  rw [decode?, recorded, told]
  simp only [JsonValue.parse?_chars, Option.bind_eq_bind, Option.bind_some]
  cases event with
  | listening address directory =>
      obtain ⟨path, reads, rfl⟩ := Option.map_eq_some_iff.mp told
      have octets := Bytes.ofText_of_text? reads
      simp [key, Json.Document.textAt?, ofDocument?, untimed, octets]
  | start peer =>
      cases told
      simp [key, Json.Document.textAt?, ofDocument?, untimed]
  | done peer receipt =>
      obtain ⟨report, tells, rfl⟩ := Option.map_eq_some_iff.mp told
      simp [key, Json.Document.textAt?, ofDocument?, untimed,
        Receipt.ofDocument?_document tells]
  | error peer message =>
      cases told
      simp [key, Json.Document.textAt?, ofDocument?, untimed]

/-- Blanks, the order of the fields and other ways to write a text do not matter. -/
example :
    decode?
        (" \x7b\"connect\" : \x7b\"peer\":\"\\u00e9\\ud83d\\ude00\\/\"\x7d, " ++
          "\"timestamp\":\"t\"\x7d").toList =
      some ("t", .start "é😀/") := by
  cbv

/-- Records that are the same tell the same time and the same event. -/
theorem eq_of_record_eq
    {event other : Event}
    {stamp another : String}
    (legible : event.legible)
    (otherLegible : other.legible)
    (same : event.record stamp = other.record another) :
    stamp = another ∧ event.untimed = other.untimed := by
  have chars := congrArg String.toList same
  rw [chars_record, chars_record, legible, otherLegible] at chars
  have line : event.recorded stamp = other.recorded another :=
    List.append_cancel_right chars
  have reads := decode?_recorded legible stamp
  rw [line, decode?_recorded otherLegible another] at reads
  obtain ⟨stamps, events⟩ := Prod.mk.inj (Option.some.inj reads)
  exact ⟨stamps.symm, events.symm⟩

end Event

/-!
## Journals
-/

namespace Journal

/-- The times and events of the lines of a journal of records, if all lines tell them. -/
def decode? (content : Bytes) : Option (List (String × Event)) := do
  let text ← Bytes.text? content
  (Text.endedLines text.toList).mapM Event.decode?

/-- Calls whose paths are texts have one line each, with their record and nothing else. -/
theorem endedLines_of_legible
    {calls : List (String × Event)}
    (legible : ∀ call ∈ calls, call.2.legible) :
    Text.endedLines (records calls) = calls.map fun call => call.2.recorded call.1 := by
  induction calls with
  | nil => rfl
  | cons call more ih =>
      obtain ⟨whole, others⟩ := List.forall_mem_cons.mp legible
      have parted :
          records (call :: more) = call.2.recorded call.1 ++ '\n' :: records more := by
        rw [records, List.flatMap_cons, ← records, Event.chars_record, whole]
        simp
      rw [parted, Text.endedLines_append, ih others,
        List.splitOn_eq_singleton (call.2.newline_notMem_recorded call.1)]
      rfl

theorem decode?_entries
    {calls : List (String × Event)}
    (legible : ∀ call ∈ calls, call.2.legible) :
    decode? (entries .jsonl calls) =
      some (calls.map fun call => (call.1, call.2.untimed)) := by
  have lines :
      (calls.map fun call => call.2.recorded call.1).mapM Event.decode? =
        some (calls.map fun call => (call.1, call.2.untimed)) := by
    induction calls with
    | nil => rfl
    | cons call more ih =>
        obtain ⟨whole, others⟩ := List.forall_mem_cons.mp legible
        simp [Event.decode?_recorded whole, ih others]
  rw [decode?, entries_eq_ofText, Bytes.text?_ofText]
  simp only [Option.bind_eq_bind, Option.bind_some, String.toList_ofList,
    endedLines_of_legible legible, lines]

end Journal

/--
Records, for every event whose paths are texts, whatever its other texts are, and at
every time.  A record is one JSON object and a line feed behind it; there is no
control in the object, so no other end of a line either.  Read as JSON it gives back
the event, apart from the time that a transfer took, and the time of the record.  So
records that are the same tell the same event.  A journal that is called with such
events, and opened again in between, adds what is read back as just these calls.
-/
theorem records_tell_events :
    (∀ (stamp : String) (event : Event), event.legible →
        ∃ line,
          (event.record stamp).toList = line ++ ['\n'] ∧
            Json.IsObject line ∧ Json.NoControls line ∧
            Event.decode? line = some (stamp, event.untimed)) ∧
      (∀ (stamp another : String) (event other : Event),
        event.legible → other.legible →
        event.record stamp = other.record another →
          stamp = another ∧ event.untimed = other.untimed) ∧
      ∀ (path : Path) (tree opened : FileTree) (journal : Journal) (log : Location)
        (earlier : Bytes) (uses : List Journal.Use),
        Journal.openAt .jsonl path tree = (.ok journal, opened) →
        opened.find path = .ok (log, .file earlier) →
        let calls := uses.filterMap Journal.Use.call?
        let later := (uses.foldl (Journal.use path) (journal, opened)).2
        (∀ call ∈ calls, call.2.legible) →
          ∃ added,
            later.find path = .ok (log, .file (earlier ++ added)) ∧
              Journal.decode? added =
                some (calls.map fun call => (call.1, call.2.untimed)) := by
  refine ⟨fun stamp event legible => ?_, fun stamp another event other => ?_, ?_⟩
  · refine ⟨event.recorded stamp, ?_, Event.isObject_recorded legible stamp,
      event.noControls_recorded stamp, Event.decode?_recorded legible stamp⟩
    rw [Event.chars_record, legible]
    rfl
  · exact Event.eq_of_record_eq
  · intro path tree opened journal log earlier uses opens found calls later legible
    have writes := Journal.eq_writing_of_openAt opens found
    obtain ⟨final, runs, ends⟩ := Journal.uses_writing found uses
    have same : later = final := by simp only [later, writes, runs]
    exact ⟨_, by rw [same, ends], Journal.decode?_entries legible⟩

end FileTransfer
