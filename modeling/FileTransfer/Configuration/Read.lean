import FileTransfer.FileTree.Open
import FileTransfer.Plan
import FileTransfer.Text.Quoted
import FileTransfer.Toml.Document

namespace FileTransfer

/-!
# Reading a configuration

A configuration is a text of seven optional fields.  The text as a whole has to
be well-formed first; then the fields are taken in the order in which they
stand, and the first that is unknown or has an unfit value is refused.
-/

namespace Configuration

/-- Why a text is no configuration. -/
inductive Refusal where
  /-- The text is not well-formed, or chooses a form in a way that is not read. -/
  | malformed
  /-- A field has no meaning. -/
  | unknownField (name : String)
  /-- A form of the journal does not exist. -/
  | unknownVariant (name : String)
  /-- A value is of another kind than the field. -/
  | mistyped (found expected : String)
  /-- A number does not fit the field. -/
  | outOfRange (value : Int) (expected : String)
  | portZero
  deriving Repr, DecidableEq

/-- The text of a refusal; what exactly is malformed is not told. -/
def Refusal.message : Refusal → String
  | .malformed => "the text is malformed"
  | .unknownField name =>
      s!"unknown field `{name}`, expected one of `port`, `ip`," ++
        " `read_timeout_secs`, `log_file`, `log_format`, `digest`, `chunk_size`"
  | .unknownVariant name =>
      s!"unknown variant `{name}`, expected `text` or `jsonl`"
  | .mistyped found expected => s!"invalid type: {found}, expected {expected}"
  | .outOfRange value expected =>
      s!"invalid value: integer `{value}`, expected {expected}"
  | .portZero => "port must be in 1-65535"

/-- The text of a refusal behind another failure. -/
def Refusal.cause (refusal : Refusal) : String :=
  match refusal with
  | .portZero => refusal.message
  | _ => s!"TOML parse error: {refusal.message}"

/-- What a value is called when it is of the wrong kind. -/
def kindOf : Toml.Node → String
  | .text value => "string " ++ Text.quoted value
  | .integer value => s!"integer `{value}`"
  | .fraction value => s!"floating point `{value.text}`"
  | .boolean value => s!"boolean `{value}`"
  | .moment => "map"
  | .array _ => "sequence"
  | .table _ _ => "map"
  | .tables _ _ => "sequence"

/-- A whole number of at most `most`, for a field that is called `expected`. -/
def natural
    (most : Nat)
    (expected : String)
    (node : Toml.Node) :
    Except Refusal Nat :=
  match node with
  | .integer value =>
      if 0 ≤ value ∧ value ≤ most then .ok value.toNat
      else .error (.outOfRange value expected)
  | other => .error (.mistyped (kindOf other) expected)

/-- A number that is read is within its bound. -/
theorem natural_le
    {most value : Nat}
    {expected : String}
    {node : Toml.Node}
    (read : natural most expected node = .ok value) :
    value ≤ most := by
  unfold natural at read
  split at read
  · split at read
    · cases read
      omega
    · cases read
  · cases read

/-- A text, for a field that is called `expected`. -/
def textual (expected : String) (node : Toml.Node) : Except Refusal String :=
  match node with
  | .text value => .ok value
  | other => .error (.mistyped (kindOf other) expected)

def truth (node : Toml.Node) : Except Refusal Bool :=
  match node with
  | .boolean value => .ok value
  | other => .error (.mistyped (kindOf other) "a boolean")

/-- Whether a value is an array or a table without anything in it. -/
def isBare : Toml.Node → Bool
  | .array [] => true
  | .table _ [] => true
  | _ => false

/-- The form of the journal with a name. -/
def formNamed (name : String) : Except Refusal JournalFormat :=
  match JournalFormat.ofWord? name with
  | some format => .ok format
  | none => .error (.unknownVariant name)

/-- A form of the journal: its name, or a table with its name as the only key. -/
def form (node : Toml.Node) : Except Refusal JournalFormat :=
  match node with
  | .text name => formNamed name
  | .table _ [(name, content)] =>
      match formNamed name with
      | .ok format => if isBare content then .ok format else .error .malformed
      | .error refusal => .error refusal
  | _ => .error .malformed

def withField
    (configuration : Configuration)
    (field : String × Toml.Node) :
    Except Refusal Configuration :=
  match field with
  | ("port", node) =>
      (natural Limits.maxPort "u16" node).map fun port =>
        { configuration with port := some port }
  | ("ip", node) =>
      (textual "a string" node).map fun host =>
        { configuration with host := some host }
  | ("read_timeout_secs", node) =>
      (natural Limits.maxWord "u64" node).map fun seconds =>
        { configuration with readTimeout := some seconds }
  | ("log_file", node) =>
      (textual "path string" node).map fun path =>
        { configuration with logFile := some (Bytes.ofText path) }
  | ("log_format", node) =>
      (form node).map fun format =>
        { configuration with logFormat := some format }
  | ("digest", node) =>
      (truth node).map fun digesting =>
        { configuration with digesting := digesting }
  | ("chunk_size", node) =>
      (natural Limits.maxWord "usize" node).map fun size =>
        { configuration with chunkSize := some size }
  | (name, _) => .error (.unknownField name)

/-- The configuration that a text describes. -/
def ofText (text : String) : Except Refusal Configuration :=
  match Toml.parse? text with
  | none => .error .malformed
  | some fields =>
      match fields.foldlM withField empty with
      | .error refusal => .error refusal
      | .ok configuration =>
          if configuration.port = some 0 then .error .portZero
          else .ok configuration

/-- Why a file gives no configuration. -/
inductive LoadFailure where
  /-- The file was not read. -/
  | unread (error : HostError)
  | refused (refusal : Refusal)
  deriving Repr, DecidableEq

/-- The failure of a file whose content is not a text. -/
def notText : HostError :=
  .described .invalidData "stream did not contain valid UTF-8"

/-- The configuration in the file at a path. -/
def load (tree : FileTree) (path : Path) : Except LoadFailure Configuration :=
  match tree.contentOf path with
  | .error error => .error (.unread error)
  | .ok content =>
      match Bytes.text? content with
      | none => .error (.unread notText)
      | some text => (ofText text).mapError .refused

/-- What was going on when a file gave no configuration. -/
def LoadFailure.context (path : Path) : LoadFailure → String
  | .unread _ => s!"read config {Path.display path}"
  | .refused _ => s!"parse config {Path.display path}"

/-- Why a file gives no configuration, without the path. -/
def LoadFailure.cause : LoadFailure → String
  | .unread error => error.message
  | .refused refusal => refusal.cause

end Configuration

end FileTransfer
