import FileTransfer.Bytes
import FileTransfer.CommandLine.Help
import FileTransfer.CommandLine.Occurrence
import FileTransfer.CommandLine.Parse
import FileTransfer.CommandLine.Switch
import FileTransfer.Configuration.Read
import FileTransfer.Decimal.Binary64
import FileTransfer.Decimal.Digits
import FileTransfer.Digest.Blake3
import FileTransfer.Fault
import FileTransfer.FileTree.Basic
import FileTransfer.FileTree.Listing
import FileTransfer.FileTree.Open
import FileTransfer.FileTree.Position
import FileTransfer.FileTree.Walk
import FileTransfer.Filename
import FileTransfer.Header
import FileTransfer.HostError
import FileTransfer.Journal.Basic
import FileTransfer.Journal.Event
import FileTransfer.Journal.JsonValue
import FileTransfer.Journal.Stamp
import FileTransfer.Limits
import FileTransfer.Main
import FileTransfer.Network.Address
import FileTransfer.Network.Attempt
import FileTransfer.Network.Basic
import FileTransfer.Path
import FileTransfer.Plan
import FileTransfer.Program.Ending
import FileTransfer.Program.Run
import FileTransfer.Program.Send
import FileTransfer.Program.Serve
import FileTransfer.Program.Start
import FileTransfer.Program.Surroundings
import FileTransfer.Proofs.Aftermath
import FileTransfer.Proofs.AnnouncedNames
import FileTransfer.Proofs.Appending
import FileTransfer.Proofs.Chunking
import FileTransfer.Proofs.Containment
import FileTransfer.Proofs.Content
import FileTransfer.Proofs.Delivering
import FileTransfer.Proofs.EndToEnd
import FileTransfer.Proofs.ExactSending
import FileTransfer.Proofs.Fields
import FileTransfer.Proofs.Forwarding
import FileTransfer.Proofs.Isolation
import FileTransfer.Proofs.JsonGrammar
import FileTransfer.Proofs.JsonReading
import FileTransfer.Proofs.JsonWriting
import FileTransfer.Proofs.Landing
import FileTransfer.Proofs.LastNames
import FileTransfer.Proofs.LineFeeds
import FileTransfer.Proofs.Names
import FileTransfer.Proofs.Outputs
import FileTransfer.Proofs.Patience
import FileTransfer.Proofs.Pieces
import FileTransfer.Proofs.Pipe
import FileTransfer.Proofs.PipeEngines
import FileTransfer.Proofs.PipeInvariant
import FileTransfer.Proofs.PipeTransfer
import FileTransfer.Proofs.Placement
import FileTransfer.Proofs.Plans
import FileTransfer.Proofs.Receiving
import FileTransfer.Proofs.RecordJournal
import FileTransfer.Proofs.RecordReading
import FileTransfer.Proofs.Reopening
import FileTransfer.Proofs.Resuming
import FileTransfer.Proofs.Sending
import FileTransfer.Proofs.Serving
import FileTransfer.Proofs.Showing
import FileTransfer.Proofs.Sources
import FileTransfer.Proofs.TextJournal
import FileTransfer.Proofs.TimedReceiving
import FileTransfer.Proofs.TimedSending
import FileTransfer.Proofs.TimedWriting
import FileTransfer.Proofs.Timeouts
import FileTransfer.Proofs.Walks
import FileTransfer.Proofs.Willing
import FileTransfer.Proofs.Wire
import FileTransfer.Proofs.Writes
import FileTransfer.Proofs.Writing
import FileTransfer.Rate
import FileTransfer.Session
import FileTransfer.Stream.Inlet
import FileTransfer.Stream.Outlet
import FileTransfer.Stream.Timed
import FileTransfer.Stream.TimedInlet
import FileTransfer.Stream.TimedOutlet
import FileTransfer.Stream.Writer
import FileTransfer.Tally
import FileTransfer.Text.Lossy
import FileTransfer.Text.Natural
import FileTransfer.Text.Quoted
import FileTransfer.Text.Visible
import FileTransfer.Toml.Document
import FileTransfer.Toml.Node
import FileTransfer.Toml.Number
import FileTransfer.Toml.Scan
import FileTransfer.Toml.Text
import FileTransfer.Transfer.Deliver
import FileTransfer.Transfer.Options
import FileTransfer.Transfer.Progress
import FileTransfer.Transfer.Receive
import FileTransfer.Transfer.Send
import FileTransfer.Transfer.Serve
import FileTransfer.Transfer.TimedReceive
import FileTransfer.Transfer.TimedSend
