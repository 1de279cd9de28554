import FileTransfer.Proofs.ExactSending
import FileTransfer.Proofs.Showing
import FileTransfer.Proofs.Sources
import FileTransfer.Proofs.TimedWriting

namespace FileTransfer

/-!
# One verdict for one delivery

A client dials once.  Whatever happens on its connection after that ends in one
verdict, which its journal is told and which it returns, and the connection is closed
for writing exactly if the file was sent (`Delivery.run_lawful`).
-/

/-!
## The calls of a sender
-/

namespace Outlet

/-- A call that offered octets. -/
def Call.IsWrite (call : Call) : Prop :=
  ∃ offered reply, call = .write offered reply

theorem Writes.isWrite
    {octets : Bytes}
    {made : List Call}
    {reply : Option (Except Fault Unit)}
    (writes : Writes octets made reply)
    {call : Call}
    (member : call ∈ made) :
    call.IsWrite := by
  obtain ⟨earlier, later, splits⟩ := List.append_of_mem member
  obtain ⟨offered, answer, shape, -⟩ := writes.in_order splits
  exact ⟨offered, answer, shape⟩

theorem Made.finishError
    {outlet after : Outlet}
    {made : List Call}
    (further : Made outlet made after) :
    after.finishError = outlet.finishError := by
  rw [further]

theorem finishes_finish (outlet : Outlet) :
    outlet.finish.2.finishes = outlet.finishes + 1 :=
  List.countP_cons_of_pos rfl

/-- The reply to closing a stream tells whether closing it fails. -/
theorem finishError_of_finish
    {outlet after : Outlet}
    {reply : Except HostError Unit}
    (closed : outlet.finish = (reply, after)) :
    (∀ error, reply = .error error → outlet.finishError = some error) ∧
      (reply = .ok () → outlet.finishError = none) := by
  have answer := congrArg Prod.fst closed
  simp only [finish] at answer
  subst answer
  cases outlet.finishError <;> simp

/--
The calls of a sender: writes, and flushes after them.  It succeeds only after a
single flush that did not fail.
-/
structure SentBy
    (outcome : Except Fault Receipt)
    (before after : Outlet)
    (writes flushes : List Call) :
    Prop where
  made : Made before (writes ++ flushes) after
  writing : ∀ call ∈ writes, call.IsWrite
  flushing : ∀ call ∈ flushes, call = .flush
  success :
    ∀ receipt, outcome = .ok receipt →
      flushes = [.flush] ∧ before.flushError = none

namespace SentBy

variable
  {outcome : Except Fault Receipt}
  {before after : Outlet}
  {writes flushes : List Call}

theorem nothing (fault : Fault) (outlet : Outlet) :
    SentBy (.error fault) outlet outlet [] [] where
  made := .refl outlet
  writing := by simp
  flushing := by simp
  success := by simp

/-- A sender does not close its stream for writing. -/
theorem finishes (sent : SentBy outcome before after writes flushes) :
    after.finishes = before.finishes := by
  have others : ∀ call ∈ writes ++ flushes, ¬call.isFinish := by
    intro call member
    rcases List.mem_append.mp member with member | member
    · obtain ⟨offered, reply, rfl⟩ := sent.writing call member
      simp [Call.isFinish]
    · rw [sent.flushing call member]
      simp [Call.isFinish]
  have none_made : (writes ++ flushes).countP Call.isFinish = 0 :=
    List.countP_eq_zero.mpr others
  rw [Outlet.finishes, sent.made.calls, List.countP_append, List.countP_reverse,
    none_made, Nat.zero_add]
  rfl

theorem accepted (sent : SentBy outcome before after writes flushes) :
    after.accepted = before.accepted ++ moved writes := by
  have nothing : moved flushes = [] := by
    refine List.flatMap_eq_nil_iff.mpr fun call member => ?_
    rw [sent.flushing call member]
    rfl
  rw [sent.made.accepted, moved_append, nothing, List.append_nil]

end SentBy

end Outlet

section

variable
  {α σ : Type}
  {write : α → σ → Except Fault Unit × σ}
  {flush : σ → Except HostError Unit × σ}

open Outlet

theorem inTurn_calls
    {stream : σ → Outlet}
    (writing :
      ∀ buffer state, ∃ made,
        Made (stream state) made (stream (write buffer state).2) ∧
          ∀ call ∈ made, call.IsWrite)
    (buffers : List α)
    (state : σ) :
    ∃ made,
      Made (stream state) made (stream (inTurn write buffers state).2) ∧
        ∀ call ∈ made, call.IsWrite := by
  induction buffers generalizing state with
  | nil => exact ⟨[], .refl _, by simp⟩
  | cons buffer more ih =>
      obtain ⟨made, further, writes⟩ := writing buffer state
      rcases first : write buffer state with ⟨fault | done, after⟩
      · rw [first] at further
        exact ⟨made, by simpa only [inTurn, first] using further, writes⟩
      · rw [first] at further
        obtain ⟨others, last, rest⟩ := ih after
        refine ⟨made ++ others, ?_, ?_⟩
        · simpa only [inTurn, first] using further.trans last
        · intro call member
          exact (List.mem_append.mp member).elim (writes call) (rest call)

/-- A transmission writes and flushes, whatever the stream is seen through. -/
theorem transmit_calls
    (stream : σ → Outlet)
    (writing :
      ∀ buffer state, ∃ made,
        Made (stream state) made (stream (write buffer state).2) ∧
          ∀ call ∈ made, call.IsWrite)
    (flushing :
      ∀ state, Prod.map id stream (flush state) = (stream state).flush)
    (buffers : List α)
    (reading : Except Fault Unit)
    (receipt : Receipt)
    (state : σ) :
    let run := transmit write flush buffers reading receipt state
    ∃ writes flushes, SentBy run.1 (stream state) (stream run.2) writes flushes := by
  intro run
  obtain ⟨made, further, writes⟩ := inTurn_calls writing buffers state
  have stopped :
      ∀ fault, run = (.error fault, (inTurn write buffers state).2) →
        ∃ writes flushes,
          SentBy run.1 (stream state) (stream run.2) writes flushes := by
    intro fault shape
    refine ⟨made, [], ?_, writes, by simp, by simp [shape]⟩
    simpa only [shape, List.append_nil] using further
  rcases turns : inTurn write buffers state with ⟨fault | done, after⟩
  · exact stopped fault (by simp only [run, transmit, turns])
  cases reading with
  | error fault => exact stopped fault (by simp only [run, transmit, turns])
  | ok done =>
      rw [turns] at further
      have call := flushing after
      have flushed : Made (stream after) [.flush] (stream (flush after).2) := by
        rw [show stream (flush after).2 = (stream after).flush.2 from
          congrArg Prod.snd call]
        rfl
      have answer : (flush after).1 = (stream after).flush.1 :=
        congrArg Prod.fst call
      simp only [Outlet.flush, further.flushError] at answer
      have last : run.2 = (flush after).2 := by
        rcases final : flush after with ⟨error | done, last⟩ <;>
          simp only [run, transmit, turns, final]
      refine ⟨made, [.flush], by rw [last]; exact further.trans flushed, writes,
        by simp, fun given succeeded => ⟨rfl, ?_⟩⟩
      cases refused : (stream state).flushError with
      | none => rfl
      | some error =>
          rw [refused] at answer
          rcases final : flush after with ⟨other | done, last⟩
          · simp only [run, transmit, turns, final] at succeeded
            cases succeeded
          · rw [final] at answer
            cases answer

end

theorem sendFile_calls
    (options : TransferOptions)
    (tree : FileTree)
    (path : Path)
    (outlet : Outlet) :
    let run := sendFile options tree path outlet
    ∃ writes flushes, Outlet.SentBy run.1 outlet run.2 writes flushes := by
  intro run
  simp only [run, sendFile]
  cases Source.open? none tree path with
  | error fault => exact ⟨[], [], .nothing fault outlet⟩
  | ok source =>
      simp only [sendSource_eq]
      refine transmit_calls id ?_ (fun _ => rfl) _ _ _ outlet
      intro buffer state
      obtain ⟨made, further, writes⟩ :=
        Outlet.writeAll_writes (Prod.eta (state.writeAll buffer)).symm
      exact ⟨made, further, fun call => writes.isWrite⟩

theorem TimedOutlet.writeStep_calls
    (named : String × Bytes)
    (outlet : TimedOutlet) :
    ∃ made,
      Outlet.Made outlet.untimed made (outlet.writeStep named).2.untimed ∧
        ∀ call ∈ made, call.IsWrite := by
  obtain ⟨step, buffer⟩ := named
  have shape := writeStep_eq step buffer outlet
  simp only at shape
  rcases written :
      outlet.writeAll? (some (outlet.clock + Limits.writeDeadline buffer.length)) buffer
    with ⟨reply, after⟩
  obtain ⟨made, further, writes⟩ := writeAll?_writes written
  refine ⟨made, ?_, fun call => writes.isWrite⟩
  rw [shape, written]
  cases reply <;> exact further

theorem TimedOutlet.untimed_flush (outlet : TimedOutlet) :
    Prod.map id untimed outlet.flush = outlet.untimed.flush := rfl

theorem TimedOutlet.untimed_finish (outlet : TimedOutlet) :
    Prod.map id untimed outlet.finish = outlet.untimed.finish := rfl

theorem sendFileTimed_calls
    (options : TransferOptions)
    (tree : FileTree)
    (path : Path)
    (outlet : TimedOutlet) :
    let run := sendFileTimed options tree path outlet
    ∃ writes flushes,
      Outlet.SentBy run.1 outlet.untimed run.2.untimed writes flushes := by
  intro run
  simp only [run, sendFileTimed]
  cases Source.open? (some timedSourceLimit) tree path with
  | error fault => exact ⟨[], [], .nothing fault outlet.untimed⟩
  | ok source =>
      have transmits := sendSourceTimed_eq options path source outlet
      simp only at transmits ⊢
      obtain ⟨writes, flushes, made, writing, flushing, success⟩ :=
        transmit_calls TimedOutlet.untimed TimedOutlet.writeStep_calls
          TimedOutlet.untimed_flush (source.steps options.room)
          (source.inlet.wire.stop.reading "read source file")
          (.ofContent .client options.digesting source.name path ⟨0, 0⟩
            source.inlet.wire.bytes)
          outlet
      rw [← transmits] at made success
      refine ⟨writes, flushes, made, writing, flushing, fun receipt sent => ?_⟩
      exact success receipt.untimed (by rw [sent]; rfl)

/-!
## The law of a delivery
-/

/-- The verdict on a connection, as a journal is told of it. -/
def Event.verdict (peer : String) : Except Fault Receipt → Event
  | .ok receipt => .done peer receipt
  | .error fault => .error peer fault.message

/--
The header and the content of a file have reached a stream: all of it was taken by
writes, then it was flushed, then closed for writing, and neither of these failed.
-/
structure Outlet.Delivered
    (tree : FileTree)
    (plan : ClientPlan)
    (receipt : Receipt)
    (before after : Outlet) :
    Prop where
  whole :
    ∃ content writes,
      tree.contentOf plan.file = .ok content ∧
        Filename.Announces plan.file receipt.name ∧
        receipt.untimed =
          .ofContent .client plan.digesting receipt.name plan.file ⟨0, 0⟩ content ∧
        (∀ call ∈ writes, call.IsWrite) ∧
        moved writes = Header.announcement receipt.name ++ content ∧
        after.calls = .finish :: .flush :: (writes.reverse ++ before.calls)
  flushed : before.flushError = none
  finished : before.finishError = none

namespace Delivery

/-- What becomes of a connection that was made, of which the stream is seen as an outlet. -/
structure Concluded
    {σ : Type}
    (tree : FileTree)
    (plan : ClientPlan)
    (send : σ → Except Fault Receipt × σ)
    (stream : σ → Outlet)
    (opened last : σ)
    (delivery : Delivery σ) :
    Prop where
  connection : delivery.connection = some last
  events :
    delivery.events =
      [.start plan.address, .verdict plan.address delivery.outcome]
  outcome :
    delivery.outcome =
      match (send opened).1, (stream opened).finishError with
      | .error fault, _ => .error fault
      | .ok _, some error => .error (.host "shutdown" error)
      | .ok receipt, none => .ok receipt
  finishes :
    (stream last).finishes =
      (stream opened).finishes + if (send opened).1.isOk then 1 else 0
  delivered :
    ∀ receipt, delivery.outcome = .ok receipt →
      Outlet.Delivered tree plan receipt (stream opened) (stream last)

/-- What a delivery is, for every outcome of its one attempt to connect. -/
structure Lawful
    {σ : Type}
    (tree : FileTree)
    (plan : ClientPlan)
    (dialer : String → Nat → Except Fault σ)
    (send : σ → Except Fault Receipt × σ)
    (stream : σ → Outlet)
    (delivery : Delivery σ) :
    Prop where
  dialed : delivery.dialed = [(plan.host, plan.port)]
  unconnected :
    ∀ fault, dialer plan.host plan.port = .error fault →
      delivery.outcome = .error fault ∧ delivery.events = [] ∧
        delivery.connection = none
  connected :
    ∀ opened, dialer plan.host plan.port = .ok opened →
      ∃ last, Concluded tree plan send stream opened last delivery

/-- A way of sending that the law of a delivery rests on. -/
structure Sends
    {σ : Type}
    (tree : FileTree)
    (plan : ClientPlan)
    (send : σ → Except Fault Receipt × σ)
    (stream : σ → Outlet) :
    Prop where
  calls :
    ∀ opened, ∃ writes flushes,
      Outlet.SentBy (send opened).1 (stream opened) (stream (send opened).2)
        writes flushes
  account :
    ∀ opened receipt, (send opened).1 = .ok receipt →
      ∃ content,
        tree.contentOf plan.file = .ok content ∧
          Filename.Announces plan.file receipt.name ∧
          (stream (send opened).2).accepted =
            (stream opened).accepted ++
              (Header.announcement receipt.name ++ content) ∧
          receipt.untimed =
            .ofContent .client plan.digesting receipt.name plan.file ⟨0, 0⟩ content

theorem sends_sendFile (tree : FileTree) (plan : ClientPlan) :
    Sends tree plan (sendFile plan.options tree plan.file) id where
  calls := sendFile_calls plan.options tree plan.file
  account outlet receipt sent := by
    have succeeds :
        ((Sender.blocking outlet).send plan.options tree plan.file).1 = .ok receipt :=
      sent
    exact Sender.sent_of_send succeeds

theorem sends_sendFileTimed (tree : FileTree) (plan : ClientPlan) :
    Sends tree plan (sendFileTimed plan.options tree plan.file)
      TimedOutlet.untimed where
  calls := sendFileTimed_calls plan.options tree plan.file
  account outlet receipt sent := by
    have succeeds :
        ((Sender.timed outlet).send plan.options tree plan.file).1 = .ok receipt :=
      sent
    exact Sender.sent_of_send succeeds

variable
  {σ : Type}
  {tree : FileTree}
  {plan : ClientPlan}
  {dialer : String → Nat → Except Fault σ}
  {send : σ → Except Fault Receipt × σ}
  {finish : σ → Except HostError Unit × σ}
  {stream : σ → Outlet}

/-- A delivery on a connection that was judged. -/
def judged
    (plan : ClientPlan)
    (outcome : Except Fault Receipt)
    (last : σ) :
    Delivery σ where
  dialed := [(plan.host, plan.port)]
  events := [.start plan.address, .verdict plan.address outcome]
  outcome := outcome
  connection := some last

theorem run_of_refused
    {fault : Fault}
    (refused : dialer plan.host plan.port = .error fault) :
    run plan dialer send finish =
      ⟨⟨[(plan.host, plan.port)], []⟩, .error fault, none⟩ := by
  simp [run, Trail.dial, Trail.empty, refused]

theorem run_of_unsent
    {opened after : σ}
    {fault : Fault}
    (opens : dialer plan.host plan.port = .ok opened)
    (unsent : send opened = (.error fault, after)) :
    run plan dialer send finish = judged plan (.error fault) after := by
  simp [run, Trail.dial, Trail.tell, Trail.empty, opens, unsent, judged,
    Event.verdict]

theorem run_of_unclosed
    {opened after last : σ}
    {receipt : Receipt}
    {error : HostError}
    (opens : dialer plan.host plan.port = .ok opened)
    (sent : send opened = (.ok receipt, after))
    (unclosed : finish after = (.error error, last)) :
    run plan dialer send finish =
      judged plan (.error (.host "shutdown" error)) last := by
  simp [run, Trail.dial, Trail.tell, Trail.empty, opens, sent, unclosed, judged,
    Event.verdict]

theorem run_of_closed
    {opened after last : σ}
    {receipt : Receipt}
    (opens : dialer plan.host plan.port = .ok opened)
    (sent : send opened = (.ok receipt, after))
    (closed : finish after = (.ok (), last)) :
    run plan dialer send finish = judged plan (.ok receipt) last := by
  simp [run, Trail.dial, Trail.tell, Trail.empty, opens, sent, closed, judged,
    Event.verdict]

/-- A client dials once, whatever comes of it. -/
theorem run_dialed :
    (run plan dialer send finish).dialed = [(plan.host, plan.port)] := by
  cases dials : dialer plan.host plan.port with
  | error fault => rw [run_of_refused dials]
  | ok opened =>
      rcases sent : send opened with ⟨fault | receipt, after⟩
      · rw [run_of_unsent dials sent]
        rfl
      rcases closes : finish after with ⟨error | done, last⟩
      · rw [run_of_unclosed dials sent closes]
        rfl
      · rw [run_of_closed dials sent closes]
        rfl

/-- A stream that took a whole file, and was flushed and closed, has it delivered. -/
theorem Sends.delivered
    (sends : Sends tree plan send stream)
    {opened after : σ}
    {receipt : Receipt}
    {last : Outlet}
    (sent : send opened = (.ok receipt, after))
    (closed : (stream after).finish = (.ok (), last)) :
    Outlet.Delivered tree plan receipt (stream opened) last := by
  obtain ⟨writes, flushes, calls⟩ := sends.calls opened
  obtain ⟨content, reads, announces, accepted, account⟩ :=
    sends.account opened receipt (by rw [sent])
  rw [sent] at calls accepted
  obtain ⟨rfl, flushed⟩ := calls.success receipt rfl
  rw [calls.accepted] at accepted
  have whole : Outlet.moved writes = Header.announcement receipt.name ++ content :=
    List.append_cancel_left accepted
  have shape : last.calls = .finish :: (stream after).calls := by
    rw [show last = (stream after).finish.2 by rw [closed]]
    rfl
  refine ⟨⟨content, writes, reads, announces, account, calls.writing, whole, ?_⟩,
    flushed, ?_⟩
  · simp [shape, calls.made.calls]
  · rw [← calls.made.finishError]
    exact (Outlet.finishError_of_finish closed).2 rfl

/-- Whatever becomes of a connection is concluded by one verdict. -/
theorem Sends.concluded
    (sends : Sends tree plan send stream)
    (closing : ∀ state, Prod.map id stream (finish state) = (stream state).finish)
    {opened : σ}
    (opens : dialer plan.host plan.port = .ok opened) :
    ∃ last,
      Concluded tree plan send stream opened last (run plan dialer send finish) := by
  obtain ⟨writes, flushes, calls⟩ := sends.calls opened
  rcases sent : send opened with ⟨fault | receipt, after⟩
  · rw [sent] at calls
    rw [run_of_unsent opens sent]
    exact
      ⟨after,
        { connection := rfl
          events := rfl
          outcome := by rw [sent]; rfl
          finishes := by rw [sent]; exact calls.finishes
          delivered := by simp [judged] }⟩
  rw [sent] at calls
  have close := (closing after).symm
  have counted := (stream after).finishes_finish
  rw [close, calls.finishes] at counted
  rcases closes : finish after with ⟨error | done, last⟩
  · rw [closes] at close counted
    have refuses := (Outlet.finishError_of_finish close).1 error rfl
    rw [calls.made.finishError] at refuses
    rw [run_of_unclosed opens sent closes]
    exact
      ⟨last,
        { connection := rfl
          events := rfl
          outcome := by rw [sent, refuses]; rfl
          finishes := by rw [sent]; exact counted
          delivered := by simp [judged] }⟩
  · rw [closes] at close counted
    have agrees := (Outlet.finishError_of_finish close).2 rfl
    rw [calls.made.finishError] at agrees
    rw [run_of_closed opens sent closes]
    refine
      ⟨last,
        { connection := rfl
          events := rfl
          outcome := by rw [sent, agrees]; rfl
          finishes := by rw [sent]; exact counted
          delivered := fun given succeeded => ?_ }⟩
    cases succeeded
    exact sends.delivered sent close

/-- A delivery keeps its law if its ways of sending and closing are those of an outlet. -/
theorem run_lawful
    (sends : Sends tree plan send stream)
    (closing : ∀ state, Prod.map id stream (finish state) = (stream state).finish) :
    (run plan dialer send finish).Lawful tree plan dialer send stream := by
  cases dials : dialer plan.host plan.port with
  | error fault =>
      refine ⟨run_dialed, fun other same => ?_, fun opened same => ?_⟩
      · rw [dials] at same
        cases same
        rw [run_of_refused dials]
        exact ⟨rfl, rfl, rfl⟩
      · rw [dials] at same
        cases same
  | ok opened =>
      refine ⟨run_dialed, fun fault same => ?_, fun other same => ?_⟩
      · rw [dials] at same
        cases same
      · rw [dials] at same
        cases same
        exact sends.concluded closing dials

end Delivery

/--
A client, for every plan, files, dialing and stream, and for every progress bar that
passes on the calls that are made on it.  It dials once, with what its plan says.  If
that fails, it returns this fault, and nothing is recorded or written.  Otherwise its
journal has the start and then one verdict, which is the outcome: the fault of sending
or of closing with its text, or the receipt.  The stream is closed for writing exactly
if sending succeeded, and behind a receipt the whole header and content were taken,
flushed and closed without an error.  Whether a plan asks for a progress bar changes
nothing at all.  A client with deadlines keeps the same law.
-/
theorem deliver_lawful
    {β : Type}
    {bar : ProgressBar β}
    (passes : bar.PassesOn)
    (plan : ClientPlan)
    (tree : FileTree) :
    (∀ dialer,
        (deliverShowing bar plan tree dialer).Lawful tree plan dialer
          (sendFile plan.options tree plan.file) id) ∧
      (∀ dialer progress,
        deliverShowing bar { plan with progress := progress } tree dialer =
          deliverShowing bar plan tree dialer) ∧
      ∀ dialer,
        (deliverTimed plan tree dialer).Lawful tree plan dialer
          (sendFileTimed plan.options tree plan.file) TimedOutlet.untimed := by
  refine ⟨fun dialer => ?_, fun dialer progress => ?_, fun dialer => ?_⟩
  · rw [deliverShowing, passes.send]
    exact Delivery.run_lawful (Delivery.sends_sendFile tree plan) fun _ => rfl
  · simp only [deliverShowing, passes.send]
    rfl
  · exact Delivery.run_lawful (Delivery.sends_sendFileTimed tree plan)
      TimedOutlet.untimed_finish

/-- A file that was sent is not told as sent when its stream cannot be closed. -/
theorem deliver_lawful_failed_shutdown :
    let plan := { ClientPlan.standard [0x61] with progress := true }
    let tree := (FileTree.bare []).put [[0x61]] (.file [7])
    let opened :=
      Outlet.ofSteps [.take 1, .failure (.ofKind .interrupted)] none none
        (some (.ofKind .brokenPipe))
    let delivery := deliverShowing .counting plan tree fun _ _ => .ok opened
    ProgressBar.counting.PassesOn ∧
      delivery.dialed = [("127.0.0.1", 9000)] ∧
      delivery.outcome = .error (.host "shutdown" (.ofKind .brokenPipe)) ∧
      delivery.events =
        [.start "127.0.0.1:9000",
          .error "127.0.0.1:9000" "shutdown: broken pipe"] := by
  intro plan tree opened delivery
  have passes := ProgressBar.counting_passesOn
  obtain ⟨lawful, -, -⟩ := deliver_lawful passes plan tree
  obtain ⟨dialed, -, connected⟩ := lawful fun _ _ => .ok opened
  obtain ⟨last, concluded⟩ := connected opened rfl
  have announces : Filename.Announces [0x61] "a" :=
    ⟨⟨"a", by cbv, by cbv⟩, by decide, by cbv⟩
  have stands : tree.find [0x61] = .ok ([[0x61]], .file [7]) := by cbv
  have pieces :
      ((Entry.file [7]).inlet none).pieces plan.options.room = [[7]] :=
    Inlet.pieces_of_fits (by decide) (by simp)
  have sent : (sendFile plan.options tree [0x61] opened).1.isOk := by
    simp only [sendFile, Source.open?_of_announced announces stands, sendSource_eq,
      pieces]
    cbv
  have outcome : delivery.outcome = .error (.host "shutdown" (.ofKind .brokenPipe)) := by
    rw [concluded.outcome]
    rcases reply : (sendFile plan.options tree plan.file opened).1 with fault | receipt
    · exact absurd (reply ▸ sent) (by simp [Except.isOk, Except.toBool])
    · rfl
  have address : plan.address = "127.0.0.1:9000" := by cbv
  refine ⟨passes, dialed, outcome, ?_⟩
  rw [concluded.events, outcome, address]
  rfl

end FileTransfer
