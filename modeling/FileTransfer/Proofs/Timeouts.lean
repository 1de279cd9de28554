import FileTransfer.Program.Send
import FileTransfer.Proofs.Patience
import FileTransfer.Proofs.Plans
import FileTransfer.Transfer.TimedReceive

namespace FileTransfer

/-!
# Timeouts as words

A plan limits the time in seconds, and the transport with deadlines counts in
milliseconds that fit into a word of sixty-four bits.  Seconds for which there is
no such word wrap around, so a longer timeout can come out as a shorter deadline
(`longer_timeout_is_shorter_deadline`).  Below that the deadline is exact and grows
with the timeout, and in either case it is the only one that a session or an
attempt to connect knows (`deadline_of_accepted`).
-/

/-!
## From seconds to milliseconds
-/

/-- The milliseconds that a word leaves out are whole turns around it. -/
theorem milliseconds_add_wraps (seconds : Nat) :
    milliseconds seconds +
        seconds * 1000 / 18446744073709551616 * 18446744073709551616 =
      seconds * 1000 :=
  Nat.mod_add_div' (seconds * 1000) 18446744073709551616

/-- A timeout is exact if its milliseconds fit into a word, and only then. -/
theorem milliseconds_eq_iff (seconds : Nat) :
    milliseconds seconds = seconds * 1000 ↔
      seconds * 1000 < 18446744073709551616 :=
  Nat.mod_eq_iff_lt (by decide)

/-- Up to the longest timeout that fits, a longer one has a later deadline. -/
theorem milliseconds_le
    {shorter longer : Nat}
    (ordered : shorter ≤ longer)
    (fits : longer * 1000 < 18446744073709551616) :
    milliseconds shorter ≤ milliseconds longer := by
  have fewer : shorter * 1000 ≤ longer * 1000 := Nat.mul_le_mul_right 1000 ordered
  have exactly := (milliseconds_eq_iff longer).mpr fits
  have exactlyToo := (milliseconds_eq_iff shorter).mpr (Nat.lt_of_le_of_lt fewer fits)
  rwa [exactly, exactlyToo]

/-!
## The deadline of a session
-/

/-- Whether a fault is no timeout, or one of a given deadline. -/
def Fault.KeepsTo (deadline : Nat) (fault : Fault) : Prop :=
  ∀ step given, fault = .timeout step given → given = deadline

/-- Waiting for an operation adds no timeout but the one of its own deadline. -/
theorem keepsTo_of_within
    {α σ : Type}
    {step : String}
    {deadline : Nat}
    {clock : σ → Nat}
    {operation : Option Nat → σ → Option (Except Fault α) × σ}
    {state rest : σ}
    {fault : Fault}
    (untimed :
      ∀ latest after,
        operation latest state = (some (.error fault), after) →
          ∀ step given, fault ≠ .timeout step given)
    (failed : within step deadline clock operation state = (.error fault, rest)) :
    fault.KeepsTo deadline := by
  intro name given isTimeout
  unfold within at failed
  split at failed
  case h_1 reply after answered =>
    cases failed
    exact absurd isTimeout (untimed _ _ answered name given)
  case h_2 =>
    cases failed
    cases isTimeout
    rfl

namespace TimedInlet

theorem readField_keepsTo
    {step : String}
    {deadline length : Nat}
    {inlet rest : TimedInlet}
    {fault : Fault}
    (failed : inlet.readField step deadline length = (.error fault, rest)) :
    fault.KeepsTo deadline := by
  refine keepsTo_of_within (fun latest after answered name given isTimeout => ?_) failed
  simp only [readExact?, Prod.mk.injEq, Option.map_eq_some_iff] at answered
  obtain ⟨⟨⟨octets, stop⟩, -, answer⟩, -⟩ := answered
  rcases stop with _ | _ | error <;> rw [isTimeout] at answer <;> cases answer

theorem readBody_keepsTo
    {deadline room : Nat}
    {inlet rest : TimedInlet}
    {fault : Fault}
    (failed : inlet.readBody deadline room = (.error fault, rest)) :
    fault.KeepsTo deadline := by
  refine keepsTo_of_within (fun latest after answered name given isTimeout => ?_) failed
  simp only [Prod.mk.injEq, Option.map_eq_some_iff] at answered
  obtain ⟨⟨reply, -, answer⟩, -⟩ := answered
  cases reply <;> rw [isTimeout] at answer <;> cases answer

theorem readName_keepsTo
    {deadline : Nat}
    {inlet rest : TimedInlet}
    {aborted : Abort}
    (failed : inlet.readName deadline = (.error aborted, rest)) :
    aborted.fault.KeepsTo deadline := by
  unfold readName at failed
  split at failed
  case h_1 fault after field =>
    cases failed
    exact readField_keepsTo field
  case h_2 field after read =>
    split at failed
    case h_1 fault malformed =>
      cases failed
      rintro name given rfl
      unfold Header.nameLength at malformed
      simp only at malformed
      split at malformed <;> cases malformed
    case h_2 length announced =>
      split at failed
      case h_1 fault last name =>
        cases failed
        exact readField_keepsTo name
      case h_2 => cases failed

end TimedInlet

/-- Opening an output takes no time that could run out. -/
theorem Output.open?_keepsTo
    {directory : Path}
    {tree : FileTree}
    {raw : Bytes}
    {aborted : Abort}
    (deadline : Nat)
    (failed : Output.open? directory tree raw = .error aborted) :
    aborted.fault.KeepsTo deadline := by
  intro name given isTimeout
  unfold Output.open? at failed
  split at failed
  case h_1 fault misplaced =>
    cases failed
    simp only at isTimeout
    rw [isTimeout, Filename.place, Filename.validate] at misplaced
    split at misplaced
    · cases misplaced
    · split at misplaced <;> cases misplaced
  case h_2 =>
    split at failed
    · cases failed
      cases isTimeout
    · cases failed

theorem receiveBodyTimed_keepsTo
    {deadline room : Nat}
    {sink : Sink}
    {owed : Option HostError}
    {tally : Tally}
    {inlet : TimedInlet}
    {fault : Fault}
    (failed :
      (receiveBodyTimed deadline room sink owed tally inlet).1.1 =
        .error fault) :
    fault.KeepsTo deadline := by
  fun_induction receiveBodyTimed deadline room sink owed tally inlet with
  | case1 owed tally inlet found rest read =>
      cases failed
      exact TimedInlet.readBody_keepsTo read
  | case2 => cases failed; nofun
  | case3 => cases failed
  | case4 => cases failed; nofun
  | case5 owed tally inlet octet others rest read debt written ih =>
      exact ih failed

/-- A session that ends because time ran out reports the deadline it was given. -/
theorem receiveFileTimed_keepsTo
    {options : TransferOptions}
    {deadline : Nat}
    {directory : Path}
    {tree : FileTree}
    {inlet : TimedInlet}
    {aborted : Abort}
    (failed :
      (receiveFileTimed options (some deadline) directory tree inlet).1.outcome =
        .error aborted) :
    aborted.fault.KeepsTo deadline := by
  unfold receiveFileTimed at failed
  split at failed
  case h_1 reason rest name =>
    cases failed
    exact TimedInlet.readName_keepsTo name
  case h_2 raw rest name =>
    split at failed
    case h_1 reason unopened =>
      cases failed
      exact Output.open?_keepsTo deadline unopened
    case h_2 output opened opens =>
      split at failed
      case h_1 ended tally last moved =>
        cases ended with
        | ok done => cases failed
        | error fault =>
            cases failed
            exact receiveBodyTimed_keepsTo (congrArg (·.1.1) moved)

/-- A peer that stays silent is given up when the deadline is over. -/
theorem receiveFileTimed_silent
    (options : TransferOptions)
    (deadline : Nat)
    (directory : Path)
    (tree : FileTree)
    (inlet : TimedInlet)
    (more : List (Timed Inlet.Step))
    (silent : inlet.steps = .stall :: more) :
    let run := receiveFileTimed options (some deadline) directory tree inlet
    run.1 =
        ⟨.error ⟨.awaitHeaderLength, .timeout "read header" deadline⟩, tree⟩ ∧
      run.2.clock = inlet.clock + deadline := by
  have nothing (latest : Option Nat) :
      inlet.readExact? latest Limits.lengthFieldSize =
        (none, inlet.expire latest) := by
    rw [TimedInlet.readExact?, TimedInlet.fill?_eq]
    simp [Limits.lengthFieldSize, TimedInlet.read?, silent, TimedInlet.readSteps?]
  simp [receiveFileTimed, TimedInlet.readName, TimedInlet.readField, within,
    nothing, headerAllowance, TimedInlet.expire]

/-!
## The timeout of a plan
-/

/-- The connection of a client with a deadline in milliseconds. -/
theorem dialTimed_of_timeout
    {client : ClientPlan}
    {seconds : Nat}
    (limited : client.connectTimeout = some seconds)
    (network : Network)
    (host : String)
    (port : Nat) :
    Program.dialTimed client network host port =
      (network.attempt host port).dialTimed (milliseconds seconds) := by
  simp [Program.dialTimed, ClientPlan.connectAllowance, limited]

/--
The timeout of a plan, from an accepted command line and configuration, becomes
one deadline in milliseconds: exact, and no earlier than that of a shorter timeout,
if it fits into a word, and otherwise what whole turns around the word leave of it.
A server gives every read of a session this deadline, and a client its dialing.
-/
theorem deadline_of_accepted
    {commandLine : List Bytes}
    {text : String}
    {arguments : Arguments}
    {configuration : Configuration}
    {plan : Plan}
    {seconds : Nat}
    (parsed : CommandLine.parse commandLine = .ok arguments)
    (read : Configuration.ofText text = .ok configuration)
    (resolves : Plan.resolve? arguments configuration = some plan)
    (limited : plan.task.timeout = some seconds) :
    (∃ wraps < 1000,
        seconds * 1000 = milliseconds seconds + wraps * 18446744073709551616) ∧
      milliseconds seconds < 18446744073709551616 ∧
      (milliseconds seconds = seconds * 1000 ↔
        seconds * 1000 < 18446744073709551616) ∧
      (seconds * 1000 < 18446744073709551616 →
        ∀ shorter ≤ seconds, milliseconds shorter ≤ milliseconds seconds) ∧
      (∀ server,
        plan.task = .serve server →
        ∀ tree peer inlet,
          let session :=
            receiveFileTimed server.options (some (milliseconds seconds))
              server.directory tree inlet
          (acceptOneTimed server tree (.connection peer inlet)).outcome =
              .ok session.1.outcome ∧
            (∀ phase step deadline,
              session.1.outcome = .error ⟨phase, .timeout step deadline⟩ →
                deadline = milliseconds seconds) ∧
            (∀ more,
              inlet.steps = .stall :: more →
                session.1.outcome =
                    .error
                      ⟨.awaitHeaderLength,
                        .timeout "read header" (milliseconds seconds)⟩ ∧
                  session.2.clock = inlet.clock + milliseconds seconds)) ∧
      ∀ client,
        plan.task = .send client →
        ∀ network host port,
          Program.dialTimed client network host port =
            match network.attempt host port with
            | .refused error => .error (.host "connect" error)
            | .answered delay answer =>
                if delay ≤ milliseconds seconds then
                  Fault.during "connect" answer
                else .error (.timeout "connect" (milliseconds seconds))
            | .unanswered => .error (.timeout "connect" (milliseconds seconds)) := by
  obtain ⟨merged, merges⟩ := Plan.exists_merges parsed configuration
  obtain rfl : merged = plan := Option.some.inj (merges.resolves.symm.trans resolves)
  have bounded : seconds ≤ Limits.maxWord :=
    merges.timeout_le parsed read seconds limited
  have turns := milliseconds_add_wraps seconds
  refine ⟨⟨seconds * 1000 / 18446744073709551616, ?_, turns.symm⟩,
    Nat.mod_lt _ (by decide), milliseconds_eq_iff seconds,
    fun fits shorter ordered => milliseconds_le ordered fits, ?_, ?_⟩
  · unfold Limits.maxWord at bounded
    omega
  · intro server serves tree peer inlet session
    have replaces : server.readDeadline = some (milliseconds seconds) := by
      rw [serves] at limited
      simp only [Task.timeout] at limited
      simp [ServerPlan.readDeadline, limited]
    refine ⟨by simp [acceptOneTimed, Turn.take, session, replaces], ?_, ?_⟩
    · intro phase step deadline failed
      exact receiveFileTimed_keepsTo failed step deadline rfl
    · intro more silent
      obtain ⟨ends, clock⟩ :=
        receiveFileTimed_silent server.options (milliseconds seconds)
          server.directory tree inlet more silent
      exact ⟨congrArg Reception.outcome ends, clock⟩
  · intro client sends network host port
    rw [sends] at limited
    rw [dialTimed_of_timeout limited]
    cases network.attempt host port <;> rfl

/-- A timeout of seven seconds is a deadline of seven thousand milliseconds. -/
theorem deadline_of_accepted_from_file :
    let arguments := { Arguments.empty with server := some [0x6F] }
    let configuration := { Configuration.empty with readTimeout := some 7 }
    CommandLine.parse (["-s", "o"].map Bytes.ofText) = .ok arguments ∧
      Configuration.ofText "read_timeout_secs = 7" = .ok configuration ∧
      ∃ plan, Plan.resolve? arguments configuration = some plan ∧
        plan.task.timeout = some 7 ∧ milliseconds 7 = 7000 ∧
        ∀ shorter ≤ 7, milliseconds shorter ≤ 7000 := by
  intro arguments configuration
  have parsed :
      CommandLine.parse (["-s", "o"].map Bytes.ofText) = .ok arguments :=
    rfl
  have read :
      Configuration.ofText "read_timeout_secs = 7" = .ok configuration := rfl
  obtain ⟨-, -, isExact, grows, -⟩ := deadline_of_accepted parsed read rfl rfl
  exact ⟨parsed, read, _, rfl, rfl, isExact.mpr (by decide), grows (by decide)⟩

/--
Of two timeouts that a file can ask for, the longer one gives a peer less than half
a second, and the shorter one more than five hundred million years.
-/
theorem longer_timeout_is_shorter_deadline :
    let arguments := { Arguments.empty with server := some [0x6F] }
    let limitedTo (seconds : Nat) :=
      { Configuration.empty with readTimeout := some seconds }
    CommandLine.parse (["-s", "o"].map Bytes.ofText) = .ok arguments ∧
      Configuration.ofText "read_timeout_secs = 18446744073709551" =
        .ok (limitedTo 18446744073709551) ∧
      Configuration.ofText "read_timeout_secs = 18446744073709552" =
        .ok (limitedTo 18446744073709552) ∧
      (∃ shorter longer,
        Plan.task? arguments (limitedTo 18446744073709551) =
            some (.serve shorter) ∧
          Plan.task? arguments (limitedTo 18446744073709552) =
            some (.serve longer) ∧
          shorter.readDeadline = some 18446744073709551000 ∧
          longer.readDeadline = some 384) := by
  intro arguments limitedTo
  exact ⟨rfl, rfl, rfl, _, _, rfl, rfl, rfl, rfl⟩

end FileTransfer
