import FileTransfer.Program.Serve

namespace FileTransfer

/-!
# What a plan can hold

A plan is merged from a command line and a configuration that were accepted each
on its own.  What a command line can bring in is an invariant of settling its
switches (`Arguments.Settled`), and what a configuration can bring in is one of
taking its fields (`Configuration.Fitting`).  Together they bound every number of
a plan (`plan_of_accepted`), except that the file may limit the time to nothing
at all, which the command line refuses (`no_time_at_all_from_file`).
-/

/-- A value that is read and put into some arguments makes up the new ones. -/
theorem map_eq_ok
    {α β ε : Type}
    {reading : Except ε α}
    {place : α → β}
    {result : β}
    (mapped : reading.map place = .ok result) :
    ∃ value, reading = .ok value ∧ place value = result := by
  cases reading with
  | error refusal => cases mapped
  | ok value => exact ⟨value, rfl, Except.ok.inj mapped⟩

/-!
## Command lines
-/

namespace CommandLine

/-- What arguments can hold after some switches were settled. -/
structure Settled (used : List Switch) (arguments : Arguments) : Prop where
  server : arguments.server ≠ none → .server ∈ used
  client : arguments.client ≠ none → .client ∈ used
  port : ∀ port ∈ arguments.port, 1 ≤ port ∧ port ≤ Limits.maxPort
  timeout : ∀ seconds ∈ arguments.timeout, 1 ≤ seconds ∧ seconds ≤ Limits.maxWord

theorem Settled.start : Settled [] .empty := by
  constructor <;> simp [Arguments.empty]

/-- Settling one more switch keeps what arguments can hold. -/
theorem Settled.withSwitch
    {used : List Switch}
    {arguments extended : Arguments}
    {switch : Switch}
    {value : Bytes}
    (settled : Settled used arguments)
    (accepted : CommandLine.withSwitch arguments switch value = .ok extended) :
    Settled (used ++ [switch]) extended := by
  have server := fun given => List.mem_append_left [switch] (settled.server given)
  have client := fun given => List.mem_append_left [switch] (settled.client given)
  cases switch with
  | server =>
      obtain ⟨directory, -, rfl⟩ := map_eq_ok accepted
      exact ⟨fun _ => by simp, client, settled.port, settled.timeout⟩
  | client =>
      obtain ⟨file, -, rfl⟩ := map_eq_ok accepted
      exact ⟨server, fun _ => by simp, settled.port, settled.timeout⟩
  | port =>
      obtain ⟨port, read, rfl⟩ := map_eq_ok accepted
      refine ⟨server, client, fun given member => ?_, settled.timeout⟩
      cases member
      exact positive_bounds read
  | timeout =>
      obtain ⟨seconds, read, rfl⟩ := map_eq_ok accepted
      refine ⟨server, client, settled.port, fun given member => ?_⟩
      cases member
      exact positive_bounds read
  | host | configuration | logFile | logFormat =>
      obtain ⟨-, -, rfl⟩ := map_eq_ok accepted
      exact ⟨server, client, settled.port, settled.timeout⟩
  | digest | progress | timed | verbose =>
      cases accepted
      exact ⟨server, client, settled.port, settled.timeout⟩
  | help | version => cases accepted

/-- Settling the switches of a command line keeps what arguments can hold. -/
theorem Settled.settle
    {used : List Switch}
    {arguments result : Arguments}
    {occurrences : List Occurrence}
    (settled : Settled used arguments)
    (accepted : CommandLine.settle used arguments occurrences = .ok result) :
    Settled (used ++ occurrences.map Occurrence.switch) result := by
  fun_induction CommandLine.settle used arguments occurrences with
  | case1 used arguments =>
      cases accepted
      simpa using settled
  | case2 => cases accepted
  | case3 => cases accepted
  | case4 => cases accepted
  | case5 used arguments switch value rest given fresh extended withOne ih =>
      have further := ih (settled.withSwitch withOne) accepted
      simpa using further

/-- Switches do not conflict exactly if none of them excludes another. -/
theorem conflict?_eq_none_iff (used : List Switch) :
    conflict? used = none ↔
      ∀ first ∈ used, ∀ second ∈ used, second ∉ first.rivals := by
  rw [conflict?, List.findSome?_eq_none_iff]
  constructor
  · intro quiet first member second other rival
    have nothing := quiet first member
    split at nothing
    case h_1 others =>
      exact List.filter_eq_nil_iff.mp others second other (decide_eq_true rival)
    case h_2 => cases nothing
  · intro apart first member
    have others : used.filter (· ∈ first.rivals) = [] :=
      List.filter_eq_nil_iff.mpr fun second other rival =>
        apart first member second other (of_decide_eq_true rival)
    simp only [others]

/-- Arguments that a command line gives, and what its switches bound. -/
theorem settled_of_parse
    {commandLine : List Bytes}
    {arguments : Arguments}
    (parsed : parse commandLine = .ok arguments) :
    ∃ used, Settled used arguments ∧ conflict? used = none ∧
      ¬(arguments.server = none ∧ arguments.client = none) := by
  unfold parse at parsed
  simp only at parsed
  split at parsed
  case h_1 => cases parsed
  case h_2 settledArguments accepted =>
    split at parsed
    case h_1 => cases parsed
    case h_2 unrefused =>
      split at parsed
      case isTrue => cases parsed
      case isFalse moded =>
        cases parsed
        obtain ⟨-, unrivalled⟩ := Option.or_eq_none_iff.mp unrefused
        exact ⟨_, Settled.start.settle accepted, unrivalled, moded⟩

/-- A command line that is accepted asks either to serve or to send. -/
theorem one_mode_of_parse
    {commandLine : List Bytes}
    {arguments : Arguments}
    (parsed : parse commandLine = .ok arguments) :
    (∃ directory, arguments.server = some directory ∧ arguments.client = none) ∨
      ∃ file, arguments.server = none ∧ arguments.client = some file := by
  obtain ⟨used, settled, unrivalled, moded⟩ := settled_of_parse parsed
  have apart := (conflict?_eq_none_iff used).mp unrivalled
  cases server : arguments.server with
  | some directory =>
      cases client : arguments.client with
      | none => exact .inl ⟨directory, rfl, rfl⟩
      | some file =>
          have serves : .server ∈ used := settled.server (by simp [server])
          have sends : .client ∈ used := settled.client (by simp [client])
          exact absurd (by decide) (apart .server serves .client sends)
  | none =>
      cases client : arguments.client with
      | none => exact absurd ⟨server, client⟩ moded
      | some file => exact .inr ⟨file, rfl, rfl⟩

end CommandLine

/-!
## Configurations
-/

namespace Configuration

/-- What a configuration can hold after some fields were taken. -/
structure Fitting (configuration : Configuration) : Prop where
  port : ∀ port ∈ configuration.port, port ≤ Limits.maxPort
  readTimeout : ∀ seconds ∈ configuration.readTimeout, seconds ≤ Limits.maxWord

theorem fitting_empty : Fitting empty := by
  constructor <;> simp [empty]

/-- Taking one more field keeps what a configuration can hold. -/
theorem Fitting.withField
    {configuration extended : Configuration}
    {field : String × Toml.Node}
    (fitting : Fitting configuration)
    (taken : configuration.withField field = .ok extended) :
    Fitting extended := by
  unfold Configuration.withField at taken
  split at taken
  case h_1 node =>
    obtain ⟨port, read, rfl⟩ := map_eq_ok taken
    refine ⟨fun given member => ?_, fitting.readTimeout⟩
    cases member
    exact natural_le read
  case h_3 node =>
    obtain ⟨seconds, read, rfl⟩ := map_eq_ok taken
    refine ⟨fitting.port, fun given member => ?_⟩
    cases member
    exact natural_le read
  case h_8 => cases taken
  all_goals
    obtain ⟨-, -, rfl⟩ := map_eq_ok taken
    exact ⟨fitting.port, fitting.readTimeout⟩

theorem Fitting.foldlM
    {fields : Toml.Fields}
    {configuration result : Configuration}
    (fitting : Fitting configuration)
    (taken : fields.foldlM Configuration.withField configuration = .ok result) :
    Fitting result := by
  induction fields generalizing configuration with
  | nil =>
      cases taken
      exact fitting
  | cons field more ih =>
      rw [List.foldlM_cons] at taken
      cases first : configuration.withField field with
      | error refusal =>
          rw [first] at taken
          cases taken
      | ok extended =>
          rw [first] at taken
          exact ih (fitting.withField first) taken

/-- A text that describes a configuration sets no port but a usable one. -/
theorem fitting_of_ofText
    {text : String}
    {configuration : Configuration}
    (read : ofText text = .ok configuration) :
    Fitting configuration ∧ configuration.port ≠ some 0 := by
  unfold ofText at read
  split at read
  case h_1 => cases read
  case h_2 fields parsed =>
    split at read
    case h_1 => cases read
    case h_2 found taken =>
      split at read
      case isTrue => cases read
      case isFalse usable =>
        cases read
        exact ⟨fitting_empty.foldlM taken, usable⟩

end Configuration

/-!
## Plans
-/

namespace Task

/-- The port on which a task listens, or which it dials. -/
def port : Task → Nat
  | .serve plan => plan.port
  | .send plan => plan.port

def chunkSize : Task → Nat
  | .serve plan => plan.chunkSize
  | .send plan => plan.chunkSize

/-- The seconds that a task gives its peer, if they are limited. -/
def timeout : Task → Option Nat
  | .serve plan => plan.readTimeout
  | .send plan => plan.connectTimeout

end Task

/-- A plan as it is merged from arguments and a configuration. -/
structure Plan.Merges
    (arguments : Arguments)
    (configuration : Configuration)
    (plan : Plan) :
    Prop where
  resolves : Plan.resolve? arguments configuration = some plan
  port :
    plan.task.port =
      (arguments.port.or configuration.port).getD Limits.defaultPort
  chunkSize : plan.task.chunkSize = configuration.effectiveChunkSize
  timeout : plan.task.timeout = arguments.timeout.or configuration.readTimeout

/-- Arguments of an accepted command line can be merged with every configuration. -/
theorem Plan.exists_merges
    {commandLine : List Bytes}
    {arguments : Arguments}
    (parsed : CommandLine.parse commandLine = .ok arguments)
    (configuration : Configuration) :
    ∃ plan, Plan.Merges arguments configuration plan := by
  obtain ⟨directory, server, client⟩ | ⟨file, server, client⟩ :=
    CommandLine.one_mode_of_parse parsed
  · exact ⟨_, by simp only [Plan.resolve?, Plan.task?, server, client]; rfl, rfl, rfl, rfl⟩
  · exact ⟨_, by simp only [Plan.resolve?, Plan.task?, server, client]; rfl, rfl, rfl, rfl⟩

namespace Plan.Merges

variable
  {commandLine : List Bytes}
  {text : String}
  {arguments : Arguments}
  {configuration : Configuration}
  {plan : Plan}

/-- A plan has a usable port, whichever source it comes from. -/
theorem port_bounds
    (merges : Plan.Merges arguments configuration plan)
    (parsed : CommandLine.parse commandLine = .ok arguments)
    (read : Configuration.ofText text = .ok configuration) :
    1 ≤ plan.task.port ∧ plan.task.port ≤ Limits.maxPort := by
  obtain ⟨used, settled, -⟩ := CommandLine.settled_of_parse parsed
  obtain ⟨fitting, usable⟩ := Configuration.fitting_of_ofText read
  rw [merges.port]
  cases asked : arguments.port with
  | some port => exact settled.port port asked
  | none =>
      cases configured : configuration.port with
      | none => decide
      | some port =>
          have nonzero : port ≠ 0 := fun zero => usable (by rw [configured, zero])
          exact ⟨Nat.pos_of_ne_zero nonzero, fitting.port port configured⟩

/-- A plan moves its content in pieces of a supported size. -/
theorem chunkSize_bounds (merges : Plan.Merges arguments configuration plan) :
    Limits.minChunkSize ≤ plan.task.chunkSize ∧
      plan.task.chunkSize ≤ Limits.maxChunkSize := by
  rw [merges.chunkSize, Configuration.effectiveChunkSize]
  split
  case h_1 => exact Limits.clampChunkSize_bounds _
  case h_2 => decide

/-- The time in a plan fits into a word of sixty-four bits. -/
theorem timeout_le
    (merges : Plan.Merges arguments configuration plan)
    (parsed : CommandLine.parse commandLine = .ok arguments)
    (read : Configuration.ofText text = .ok configuration) :
    ∀ seconds ∈ plan.task.timeout, seconds ≤ Limits.maxWord := by
  obtain ⟨used, settled, -⟩ := CommandLine.settled_of_parse parsed
  obtain ⟨fitting, -⟩ := Configuration.fitting_of_ofText read
  rw [merges.timeout]
  intro seconds given
  cases asked : arguments.timeout with
  | some most =>
      rw [asked] at given
      cases given
      exact (settled.timeout seconds asked).2
  | none =>
      rw [asked] at given
      exact fitting.readTimeout seconds given

/-- Only a configuration can limit the time to nothing at all. -/
theorem timeout_eq_zero_iff
    (merges : Plan.Merges arguments configuration plan)
    (parsed : CommandLine.parse commandLine = .ok arguments) :
    plan.task.timeout = some 0 ↔
      arguments.timeout = none ∧ configuration.readTimeout = some 0 := by
  obtain ⟨used, settled, -⟩ := CommandLine.settled_of_parse parsed
  rw [merges.timeout]
  cases asked : arguments.timeout with
  | none => simp
  | some seconds =>
      have positive := (settled.timeout seconds asked).1
      have nonzero : seconds ≠ 0 := by omega
      simp [nonzero]

/-- The task of a plan is the one that the arguments ask for. -/
theorem one_task
    (merges : Plan.Merges arguments configuration plan)
    (parsed : CommandLine.parse commandLine = .ok arguments) :
    (∃ server, plan.task = .serve server ∧
        arguments.server = some server.directory ∧ arguments.client = none) ∨
      ∃ client, plan.task = .send client ∧
        arguments.client = some client.file ∧ arguments.server = none := by
  have resolves := merges.resolves
  obtain ⟨directory, server, client⟩ | ⟨file, server, client⟩ :=
    CommandLine.one_mode_of_parse parsed
  · simp only [Plan.resolve?, Plan.task?, server, client] at resolves
    cases resolves
    exact .inl ⟨_, rfl, server, client⟩
  · simp only [Plan.resolve?, Plan.task?, server, client] at resolves
    cases resolves
    exact .inr ⟨_, rfl, client, server⟩

end Plan.Merges

/-- A limit in seconds refuses a connection exactly if it is no time at all. -/
theorem Arrival.accepted_in_seconds
    (limit : Option Nat)
    (peer : String)
    (inlet : TimedInlet) :
    Arrival.accepted (limit.map (· * 1000)) (.connection peer inlet) =
      if limit = some 0 then
        .failure (.host "set read timeout" Attempt.zeroDuration)
      else .connection peer (inlet.blocking (limit.map (· * 1000))) := by
  have same : limit.map (· * 1000) = some 0 ↔ limit = some 0 := by
    cases limit with
    | none => simp
    | some seconds =>
        simp only [Option.map_some, Option.some.injEq]
        omega
  simp only [Arrival.accepted, same]

/--
A command line and a configuration that are each accepted merge into a plan, and
every number of it is usable but for the time: the configuration alone can limit
it to nothing at all, and then a server that blocks accepts no connection.
-/
theorem plan_of_accepted
    {commandLine : List Bytes}
    {text : String}
    {arguments : Arguments}
    {configuration : Configuration}
    (parsed : CommandLine.parse commandLine = .ok arguments)
    (read : Configuration.ofText text = .ok configuration) :
    ∃ plan,
      Plan.resolve? arguments configuration = some plan ∧
      ((∃ server, plan.task = .serve server ∧
          arguments.server = some server.directory ∧ arguments.client = none) ∨
        ∃ client, plan.task = .send client ∧
          arguments.client = some client.file ∧ arguments.server = none) ∧
      (1 ≤ plan.task.port ∧ plan.task.port ≤ 65535) ∧
      (4096 ≤ plan.task.chunkSize ∧ plan.task.chunkSize ≤ 16777216) ∧
      (∀ seconds ∈ plan.task.timeout, seconds ≤ 18446744073709551615) ∧
      (plan.task.timeout = some 0 ↔
        arguments.timeout = none ∧ configuration.readTimeout = some 0) ∧
      ∀ server peer inlet,
        plan.task = .serve server →
        Arrival.accepted (server.readTimeout.map (· * 1000))
            (.connection peer inlet) =
          if arguments.timeout = none ∧ configuration.readTimeout = some 0 then
            .failure (.host "set read timeout" Attempt.zeroDuration)
          else
            .connection peer
              (inlet.blocking (server.readTimeout.map (· * 1000))) := by
  obtain ⟨plan, merges⟩ := Plan.exists_merges parsed configuration
  have noTime := merges.timeout_eq_zero_iff parsed
  refine ⟨plan, merges.resolves, merges.one_task parsed,
    merges.port_bounds parsed read, merges.chunkSize_bounds, ?_, noTime, ?_⟩
  · intro seconds given
    exact merges.timeout_le parsed read seconds given
  · intro server peer inlet serves
    rw [serves] at noTime
    simp only [Arrival.accepted_in_seconds, ← noTime, Task.timeout]

/-- A server whose port is from its command line, and whose time is from its file. -/
theorem plan_of_accepted_from_both :
    let arguments :=
      { Arguments.empty with server := some [0x6F], port := some 7 }
    let configuration := { Configuration.empty with readTimeout := some 2 }
    CommandLine.parse (["-s", "o", "-p", "7"].map Bytes.ofText) =
        .ok arguments ∧
      Configuration.ofText "read_timeout_secs = 2" = .ok configuration ∧
      ∃ plan, Plan.resolve? arguments configuration = some plan ∧
        (∃ server, plan.task = .serve server) ∧
        plan.task.timeout ≠ some 0 := by
  intro arguments configuration
  have parsed :
      CommandLine.parse (["-s", "o", "-p", "7"].map Bytes.ofText) =
        .ok arguments := rfl
  have read :
      Configuration.ofText "read_timeout_secs = 2" = .ok configuration := rfl
  obtain ⟨plan, resolves, ⟨server, serves, -⟩ | ⟨client, -, sends, -⟩, -, -, -, limited, -⟩ :=
    plan_of_accepted parsed read
  · have someTime : plan.task.timeout ≠ some 0 := fun noTime =>
      absurd (limited.mp noTime).2 (by decide)
    exact ⟨parsed, read, plan, resolves, ⟨server, serves⟩, someTime⟩
  · cases sends

/--
The file limits the time to nothing at all, which the command line refuses; the
server that is resolved from it accepts no connection.
-/
theorem no_time_at_all_from_file :
    let arguments := { Arguments.empty with server := some [0x6F] }
    let configuration := { Configuration.empty with readTimeout := some 0 }
    CommandLine.parse (["-s", "o"].map Bytes.ofText) = .ok arguments ∧
      Configuration.ofText "read_timeout_secs = 0" = .ok configuration ∧
      CommandLine.parse (["-s", "o", "--timeout", "0"].map Bytes.ofText) =
        .error (.invalid .timeout "0") ∧
      ∃ plan server, Plan.resolve? arguments configuration = some plan ∧
        plan.task = .serve server ∧ server.readTimeout = some 0 ∧
        ∀ peer inlet,
          Arrival.accepted (server.readTimeout.map (· * 1000))
              (.connection peer inlet) =
            .failure (.host "set read timeout" Attempt.zeroDuration) := by
  intro arguments configuration
  refine ⟨rfl, rfl, rfl, _, _, rfl, rfl, rfl, fun peer inlet => ?_⟩
  exact Arrival.accepted_in_seconds (some 0) peer inlet

end FileTransfer
