import FileTransfer.Proofs.TimedWriting

namespace FileTransfer

/-!
# Streams that keep accepting

A willing stream takes something of whatever it is offered, or at worst
interrupts a write, and its flush succeeds.  A sender that writes to such a
stream fails only when it cannot read its source (`sendSource_of_willing`).

Under deadlines this takes that every operation of the sender keeps its own
(`Sender.InTime`).  The sender then does to its stream what one without a clock
does (`sendSourceTimed_in_time`).
-/

namespace Outlet

/-- Whether an answer to a write lets the writer go on. -/
def Obliging : Except HostError Nat → Prop
  | .ok count => 0 < count
  | .error error => error.isInterrupted

/-- Whether a write that an entry of a script answers lets the writer go on. -/
def Step.Willing : Step → Prop
  | .take most => 0 < most
  | .failure error => error.isInterrupted

/-- A stream of which every write lets the writer go on, and the flush succeeds. -/
structure Willing (outlet : Outlet) : Prop where
  steps : ∀ step ∈ outlet.steps, step.Willing
  limit : outlet.limit ≠ some 0
  flush : outlet.flushError = none

theorem willing_unscripted (finishError : Option HostError) :
    (ofSteps [] none none finishError).Willing :=
  ⟨by simp [ofSteps], by simp [ofSteps], rfl⟩

theorem length_reach_pos
    {limit : Option Nat}
    {offered : Bytes}
    (moves : limit ≠ some 0)
    (nonempty : offered ≠ []) :
    0 < (reach limit offered).length := by
  rw [length_reach]
  exact Inlet.capped_pos (List.length_pos_iff.mpr nonempty) moves

theorem obliging_replySteps
    {limit : Option Nat}
    {offered : Bytes}
    {steps : List Step}
    (moves : limit ≠ some 0)
    (nonempty : offered ≠ [])
    (willing : ∀ step ∈ steps, step.Willing) :
    Obliging (replySteps limit offered steps).1 := by
  have reaches := length_reach_pos moves nonempty
  cases steps with
  | nil => exact reaches
  | cons step more =>
      have answer := willing step List.mem_cons_self
      cases step with
      | take most =>
          simp only [Step.Willing] at answer
          simp only [replySteps, Obliging]
          omega
      | failure error => exact answer

theorem replySteps_rest (limit : Option Nat) (offered : Bytes) (steps : List Step) :
    (replySteps limit offered steps).2 = steps.tail := by
  cases steps with
  | nil => rfl
  | cons step more => cases step <;> rfl

theorem Willing.write
    {outlet rest : Outlet}
    {offered : Bytes}
    {reply : Except HostError Nat}
    (willing : outlet.Willing)
    (nonempty : offered ≠ [])
    (written : outlet.write offered = (reply, rest)) :
    Obliging reply ∧ rest.Willing := by
  simp only [Outlet.write, Prod.mk.injEq] at written
  rcases written with ⟨rfl, rfl⟩
  refine ⟨obliging_replySteps willing.limit nonempty willing.steps, ?_, willing.limit,
    willing.flush⟩
  intro step member
  rw [replySteps_rest] at member
  exact willing.steps step (List.mem_of_mem_tail member)

/-- A willing stream takes a whole buffer. -/
theorem Willing.writeAll
    {outlet after : Outlet}
    {buffer : Bytes}
    {reply : Except Fault Unit}
    (willing : outlet.Willing)
    (written : outlet.writeAll buffer = (reply, after)) :
    reply = .ok () ∧ after.Willing := by
  fun_induction Outlet.writeAll buffer outlet with
  | case1 outlet =>
      cases written
      exact ⟨rfl, willing⟩
  | case2 buffer outlet nonempty rest writes =>
      obtain ⟨positive, -⟩ := willing.write nonempty writes
      exact absurd positive (Nat.lt_irrefl 0)
  | case3 buffer outlet nonempty count rest writes ih =>
      exact ih (willing.write nonempty writes).2 written
  | case4 buffer outlet nonempty error rest writes interrupted ih =>
      exact ih (willing.write nonempty writes).2 written
  | case5 buffer outlet nonempty error rest writes final =>
      exact absurd (willing.write nonempty writes).1 final

end Outlet

namespace TimedOutlet

/-- A stream that is willing whenever it does not make its writer wait. -/
def Willing (outlet : TimedOutlet) : Prop :=
  outlet.untimed.Willing

/-- The operations in which what stands at a path is sent, when nothing hurries them. -/
def operations
    (room : Nat)
    (tree : FileTree)
    (path : Path)
    (outlet : TimedOutlet) :
    List WriteOperation :=
  match Source.open? (some timedSourceLimit) tree path with
  | .error _ => []
  | .ok source => outlet.writeOperations (source.steps room)

end TimedOutlet

/-- A willing stream takes all content that can be read. -/
theorem sendBody_of_willing
    {room : Nat}
    {source : Inlet}
    {tally counted : Tally}
    {outlet last : Outlet}
    {ended : Except Fault Unit}
    (positive : 0 < room)
    (willing : outlet.Willing)
    (sent : sendBody room source tally outlet = ((ended, counted), last)) :
    (source.wire.stop = .ended → ended = .ok ()) ∧ last.Willing := by
  fun_induction sendBody room source tally outlet with
  | case1 source tally outlet error rest reads =>
      cases sent
      obtain ⟨wire, -⟩ := Inlet.readSome_failed positive reads
      exact ⟨by simp [wire], willing⟩
  | case2 source tally outlet rest reads =>
      cases sent
      exact ⟨fun _ => rfl, willing⟩
  | case3 source tally outlet octet others rest reads fault after writes =>
      obtain ⟨failed, -⟩ := willing.writeAll writes
      cases failed
  | case4 source tally outlet octet others rest reads after writes ih =>
      obtain ⟨-, wire, -⟩ := Inlet.readSome_piece positive reads (by simp)
      rw [wire]
      exact ih (willing.writeAll writes).2 sent

/-- A willing stream accepts the header of a source, and all that can be read. -/
theorem sendSource_of_willing
    (options : TransferOptions)
    (path : Path)
    {source : Source}
    {outlet : Outlet}
    (willing : outlet.Willing) :
    let run := sendSource options path source outlet
    (∃ more, run.2.accepted = outlet.accepted ++ source.header ++ more) ∧
      (source.inlet.wire.stop = .ended → ∃ receipt, run.1 = .ok receipt) := by
  unfold sendSource
  rcases header : outlet.writeAll source.header with ⟨reply, after⟩
  obtain ⟨rfl, remains⟩ := willing.writeAll header
  obtain ⟨announced, first, -, all⟩ := Outlet.writeAll_accepted header
  obtain rfl := all rfl
  simp only
  rcases body : sendBody options.room source.inlet (.start options.digesting) after
    with ⟨⟨ended, counted⟩, last⟩
  obtain ⟨⟨more, second, -⟩, -⟩ := sendBody_accepted (Limits.room_pos _) body
  obtain ⟨finished, remains⟩ := sendBody_of_willing (Limits.room_pos _) remains body
  cases ended with
  | error fault =>
      refine ⟨⟨more, by rw [second, first]⟩, fun ends => ?_⟩
      cases finished ends
  | ok done =>
      simp only [Outlet.flush, remains.flush]
      refine ⟨⟨more, ?_⟩, fun _ => ⟨_, rfl⟩⟩
      rw [← first, ← second]
      exact Outlet.accepted_flush last

/--
A sender of which every operation keeps its deadline does to its stream what one
without a clock does; a source that cannot be read is told under another name.
-/
theorem sendSourceTimed_in_time
    (options : TransferOptions)
    (path : Path)
    {source : Source}
    {outlet : TimedOutlet}
    (inTime :
      ∀ operation ∈ outlet.writeOperations (source.steps options.room),
        operation.InTime) :
    let run := sendSourceTimed options path source outlet
    let instant := sendSource options path source outlet.untimed
    run.2.untimed = instant.2 ∧
      (run.1.map Receipt.untimed = instant.1 ∨
        ∃ error, source.inlet.wire.stop = .failed error ∧
          run.1.map Receipt.untimed = .error (.host "read source file" error) ∧
          instant.1 = .error (.host "read body" error)) := by
  intro run instant
  obtain ⟨same, -, told⟩ :=
    TimedOutlet.transmit_in_time inTime source.inlet.wire.stop "read source file"
      "read body"
      (.ofContent .client options.digesting source.name path ⟨0, 0⟩
        source.inlet.wire.bytes)
  rw [Source.buffers_steps, ← sendSource_eq] at same told
  rw [← sendSourceTimed_eq] at same told
  exact ⟨same, told⟩

/-- In time, a willing stream accepts the header of a source, and all that can be read. -/
theorem sendSourceTimed_of_willing
    (options : TransferOptions)
    (path : Path)
    {source : Source}
    {outlet : TimedOutlet}
    (willing : outlet.Willing)
    (inTime :
      ∀ operation ∈ outlet.writeOperations (source.steps options.room),
        operation.InTime) :
    let run := sendSourceTimed options path source outlet
    (∃ more, run.2.accepted = outlet.accepted ++ source.header ++ more) ∧
      (source.inlet.wire.stop = .ended → ∃ receipt, run.1 = .ok receipt) := by
  intro run
  obtain ⟨same, told⟩ := sendSourceTimed_in_time options path inTime
  obtain ⟨⟨more, accepted⟩, succeeds⟩ := sendSource_of_willing options path willing
  refine ⟨⟨more, (congrArg Outlet.accepted same).trans accepted⟩, fun ends => ?_⟩
  obtain ⟨receipt, succeeded⟩ := succeeds ends
  rcases told with told | ⟨error, failed, -⟩
  · rw [succeeded] at told
    cases outcome : run.1 with
    | error fault =>
        rw [outcome] at told
        cases told
    | ok account => exact ⟨account, rfl⟩
  · rw [ends] at failed
    cases failed

namespace Sender

/-- Whether the stream of a sender keeps accepting. -/
def Willing : Sender → Prop
  | .blocking outlet => outlet.Willing
  | .timed outlet => outlet.Willing

/-- Whether no deadline of a sender is missed. -/
def InTime
    (options : TransferOptions)
    (tree : FileTree)
    (path : Path) :
    Sender → Prop
  | .blocking _ => True
  | .timed outlet =>
      ∀ operation ∈ outlet.operations options.room tree path, operation.InTime

/-- What a willing stream comes to once the source of its sender is open. -/
theorem send_opened_of_willing
    {options : TransferOptions}
    {tree : FileTree}
    {path : Path}
    {source : Source}
    {sender : Sender}
    (opens : Source.open? sender.sourceLimit tree path = .ok source)
    (willing : sender.Willing)
    (inTime : sender.InTime options tree path) :
    let run := sender.send options tree path
    (∃ more, run.2.accepted = sender.accepted ++ source.header ++ more) ∧
      (source.inlet.wire.stop = .ended → ∃ receipt, run.1 = .ok receipt) := by
  simp only [send_eq, opens]
  cases sender with
  | blocking outlet => exact FileTransfer.sendSource_of_willing options path willing
  | timed outlet =>
      have opened : Source.open? (some timedSourceLimit) tree path = .ok source := opens
      simp only [InTime, TimedOutlet.operations, opened] at inTime
      exact sendSourceTimed_of_willing options path willing inTime

/-- A file that can be sent is sent to a willing stream. -/
theorem send_of_willing
    {tree : FileTree}
    {path : Path}
    {name : String}
    {content : Bytes}
    (sendable : tree.Sendable path name content)
    {options : TransferOptions}
    {sender : Sender}
    (willing : sender.Willing)
    (inTime : sender.InTime options tree path) :
    ∃ receipt, (sender.send options tree path).1 = .ok receipt := by
  have opens := Source.open?_of_sendable sendable sender.sourceLimit
  apply (send_opened_of_willing opens willing inTime).2
  rw [Inlet.wire_ofBytes sender.sourceLimit_moves]

end Sender

end FileTransfer
