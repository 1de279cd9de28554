import FileTransfer.Program.Send
import FileTransfer.Program.Serve

namespace FileTransfer.Program

/-!
# A whole run

A run is a function of its command line and of its surroundings.
-/

def run (commandLine : List Bytes) (surroundings : Surroundings) : Ending :=
  match planned surroundings.tree commandLine with
  | .error (.refused refusal) => .refused refusal surroundings.tree
  | .error (.failed complaint) => .failed "" complaint surroundings.tree
  | .ok plan =>
      let journal := opened plan surroundings.tree
      match plan.task with
      | .serve server => serve server plan.timed journal surroundings
      | .send client => send client plan.timed journal surroundings

end FileTransfer.Program
