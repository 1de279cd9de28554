import FileTransfer.CommandLine.Switch

namespace FileTransfer.CommandLine

/-!
# The explanation of the switches

The explanation is laid out in two columns: the names of a switch, and what it
does.  The first column is as wide as its widest entry.
-/

/-- What a switch does. -/
def purpose : Switch → String
  | .server => "Server mode: save received files into DIR"
  | .client => "Client mode: send FILE"
  | .host => "Server address (client only) [default: 127.0.0.1]"
  | .port => "TCP port, 1-65535 [default: 9000]"
  | .configuration => "TOML file with default settings"
  | .logFile => "Append session records to FILE"
  | .logFormat =>
      "Format of --log-file records [possible values: text, jsonl]"
  | .timeout =>
      "Read timeout per connection (server) or connect timeout (client)," ++
        " in seconds"
  | .digest => "Compute and print a BLAKE3 digest of the file body"
  | .progress => "Show a progress bar while sending (client only)"
  | .timed => "Use the tokio transport"
  | .verbose => "Show per-session details"
  | .help => "Print help"
  | .version => "Print version"

/-- The two names of a switch, with room for a missing letter. -/
def names (switch : Switch) : String :=
  match switch.letter? with
  | some letter => s!"-{letter}, {switch.shown}"
  | none => s!"    {switch.shown}"

/-- The width of the column of names. -/
def nameWidth : Nat :=
  (Switch.all.map fun switch => (names switch).length).foldl max 0

/-- The line that explains a switch. -/
def explanation (switch : Switch) : String :=
  let shown := names switch
  let gap := String.ofList (List.replicate (nameWidth - shown.length + 2) ' ')
  s!"  {shown}{gap}{purpose switch}\n"

/-- The two switches of which one has to be used. -/
def modes : String :=
  s!"<{Switch.server.shown}|{Switch.client.shown}>"

/-- The line that shows how the program is called. -/
def usage : String :=
  s!"Usage: hf [OPTIONS] {modes}\n"

/-- The text that explains the program. -/
def helpText : String :=
  "Single-file transfer over TCP\n\n" ++ usage ++ "\nOptions:\n" ++
    String.join (Switch.all.map explanation)

def versionText : String :=
  "hf 0.3.0\n"

end FileTransfer.CommandLine
