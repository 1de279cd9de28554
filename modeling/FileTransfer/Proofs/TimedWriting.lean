import FileTransfer.Proofs.Pieces

namespace FileTransfer

/-!
# Writing against a clock

A deadline only cuts writing off.  A single write under a deadline is the one that
waits as long as it takes, if that completes in time, and otherwise none at all.  A
buffer under a deadline is therefore written as if there were none, or it is left at
the last write that completed in time (`TimedOutlet.Paused`), and the clock stands at
the deadline.

`TimedOutlet.writeOperations` lists the buffers that are written in turn with the
time that each takes when nothing hurries it.  If all of them keep their deadlines,
they are written as by a stream without a clock (`TimedOutlet.inTurn_in_time`), and so
is a whole transmission (`TimedOutlet.transmit_in_time`); the first one that does not
ends the run (`TimedOutlet.inTurn_late`).
-/

namespace TimedOutlet

theorem expire_some (latest : Nat) (outlet : TimedOutlet) :
    outlet.expire (some latest) = { outlet with clock := latest } := rfl

/-!
## One write
-/

theorem moment_replySteps?
    {latest limit : Option Nat}
    {offered : Bytes}
    {moment : Nat}
    {steps : List (Timed Outlet.Step)}
    {writing : Writing}
    (completed : replySteps? latest limit offered moment steps = some writing) :
    moment ≤ writing.moment := by
  fun_induction replySteps? latest limit offered moment steps with
  | case1 =>
      cases completed
      exact Nat.le_refl _
  | case2 => cases completed
  | case3 moment milliseconds more early ih =>
      have further := ih completed
      omega
  | case4 => cases completed
  | case5 =>
      cases completed
      exact Nat.le_refl _

/-- A deadline keeps the reply that comes in time, and drops any other one. -/
theorem replySteps?_some
    {latest moment : Nat}
    (limit : Option Nat)
    (offered : Bytes)
    (steps : List (Timed Outlet.Step))
    (started : moment ≤ latest) :
    replySteps? (some latest) limit offered moment steps =
      (replySteps? none limit offered moment steps).filter (·.moment ≤ latest) := by
  fun_induction replySteps? (some latest) limit offered moment steps with
  | case1 => simp [replySteps?, Option.filter_some, started]
  | case2 moment milliseconds more late =>
      simp only [isLate, decide_eq_true_eq] at late
      symm
      simp only [replySteps?, isLate, Bool.false_eq_true, if_false,
        Option.filter_eq_none_iff, decide_eq_true_eq, Nat.not_le]
      intro writing completed
      have further := moment_replySteps? completed
      omega
  | case3 moment milliseconds more early ih =>
      simp only [isLate, decide_eq_true_eq, Nat.not_lt] at early
      rw [ih early]
      simp [replySteps?, isLate]
  | case4 => simp [replySteps?]
  | case5 moment step more => simp [replySteps?, Option.filter_some, started]

/-- A write that completes is the one of the stream without delays. -/
theorem replySteps?_untimed
    {latest limit : Option Nat}
    {offered : Bytes}
    {moment : Nat}
    {steps : List (Timed Outlet.Step)}
    {writing : Writing}
    (completed : replySteps? latest limit offered moment steps = some writing) :
    Outlet.replySteps limit offered (Timed.instant steps) =
      (writing.reply, Timed.instant writing.rest) := by
  fun_induction replySteps? latest limit offered moment steps with
  | case1 =>
      cases completed
      rfl
  | case2 => cases completed
  | case3 moment milliseconds more early ih => exact ih completed
  | case4 => cases completed
  | case5 moment step more =>
      cases completed
      cases step <;> rfl

theorem clock_write?
    {latest : Option Nat}
    {offered : Bytes}
    {outlet after : TimedOutlet}
    {reply : Except HostError Nat}
    (written : outlet.write? latest offered = (some reply, after)) :
    outlet.clock ≤ after.clock := by
  unfold write? at written
  split at written
  case h_1 => cases written
  case h_2 found moment rest replied =>
    cases written
    exact moment_replySteps? replied

/-- A write that completes under a deadline completes without one, and in time. -/
theorem write?_sound
    {latest : Nat}
    {offered : Bytes}
    {outlet after : TimedOutlet}
    {reply : Except HostError Nat}
    (started : outlet.clock ≤ latest)
    (written : outlet.write? (some latest) offered = (some reply, after)) :
    outlet.write? none offered = (some reply, after) ∧ after.clock ≤ latest := by
  unfold write? at written ⊢
  rw [replySteps?_some _ _ _ started] at written
  split at written
  case h_1 => cases written
  case h_2 found moment rest replied =>
    cases written
    obtain ⟨replied, inTime⟩ := Option.filter_eq_some_iff.mp replied
    simp only [replied]
    exact ⟨trivial, of_decide_eq_true inTime⟩

/-- A write that a deadline stops would complete later, if at all. -/
theorem write?_cut
    {latest : Nat}
    {offered : Bytes}
    {outlet after : TimedOutlet}
    (started : outlet.clock ≤ latest)
    (stopped : outlet.write? (some latest) offered = (none, after)) :
    after = outlet.expire (some latest) ∧
      ∀ reply next,
        outlet.write? none offered = (some reply, next) → latest < next.clock := by
  unfold write? at stopped ⊢
  rw [replySteps?_some _ _ _ started] at stopped
  split at stopped
  case h_1 nothing =>
    cases stopped
    refine ⟨rfl, fun reply next written => ?_⟩
    split at written
    case h_1 => cases written
    case h_2 found moment rest replied =>
      cases written
      have late := Option.filter_eq_none_iff.mp nothing _ replied
      simpa using late
  case h_2 => cases stopped

theorem write?_untimed
    {latest : Option Nat}
    {offered : Bytes}
    {outlet after : TimedOutlet}
    {reply : Except HostError Nat}
    (written : outlet.write? latest offered = (some reply, after)) :
    outlet.untimed.write offered = (reply, after.untimed) := by
  unfold write? at written
  split at written
  case h_1 => cases written
  case h_2 found moment rest replied =>
    cases written
    simp only [Outlet.write, untimed, replySteps?_untimed replied]

/-!
## One buffer
-/

theorem clock_writeAll?
    {latest : Option Nat}
    {buffer : Bytes}
    {outlet after : TimedOutlet}
    {reply : Except Fault Unit}
    (written : outlet.writeAll? latest buffer = (some reply, after)) :
    outlet.clock ≤ after.clock := by
  fun_induction writeAll? latest buffer outlet with
  | case1 =>
      cases written
      exact Nat.le_refl _
  | case2 => cases written
  | case3 buffer outlet nonempty rest writes =>
      cases written
      exact clock_write? writes
  | case4 buffer outlet nonempty count rest writes ih =>
      exact Nat.le_trans (clock_write? writes) (ih written)
  | case5 buffer outlet nonempty error rest writes interrupted ih =>
      exact Nat.le_trans (clock_write? writes) (ih written)
  | case6 buffer outlet nonempty error rest writes final =>
      cases written
      exact clock_write? writes

/-- A buffer that is written to its end is written as to the stream without delays. -/
theorem writeAll?_untimed
    {latest : Option Nat}
    {buffer : Bytes}
    {outlet after : TimedOutlet}
    {reply : Except Fault Unit}
    (written : outlet.writeAll? latest buffer = (some reply, after)) :
    outlet.untimed.writeAll buffer = (reply, after.untimed) := by
  fun_induction writeAll? latest buffer outlet with
  | case1 =>
      cases written
      rw [Outlet.writeAll_eq, if_pos rfl]
  | case2 => cases written
  | case3 buffer outlet nonempty rest writes =>
      cases written
      rw [Outlet.writeAll_eq, if_neg nonempty, write?_untimed writes]
  | case4 buffer outlet nonempty count rest writes ih =>
      rw [Outlet.writeAll_eq, if_neg nonempty, write?_untimed writes]
      exact ih written
  | case5 buffer outlet nonempty error rest writes interrupted ih =>
      rw [Outlet.writeAll_eq, if_neg nonempty, write?_untimed writes]
      simpa only [interrupted, if_true] using ih written
  | case6 buffer outlet nonempty error rest writes final =>
      cases written
      rw [Outlet.writeAll_eq, if_neg nonempty, write?_untimed writes]
      simp only [final, if_false, Bool.false_eq_true]

/--
An outlet at the last write that completed in time, when `left` is what it still
has to take of a front of some octets: the next write completes too late, or never.
-/
structure Paused
    (latest : Nat)
    (octets front : Bytes)
    (outlet paused : TimedOutlet)
    (left : Bytes) :
    Prop where
  made :
    ∃ made, Outlet.Made outlet.untimed made paused.untimed ∧
      Outlet.Writes octets made none ∧ Outlet.moved made ++ left = front
  nonempty : left ≠ []
  early : paused.clock ≤ latest
  late :
    ∀ reply next, paused.write? none left = (some reply, next) → latest < next.clock

/-- What is left at the last write in time would be written too late, or never. -/
theorem Paused.beyond
    {latest : Nat}
    {octets front left : Bytes}
    {outlet paused after : TimedOutlet}
    {reply : Except Fault Unit}
    (pauses : Paused latest octets front outlet paused left)
    (written : paused.writeAll? none left = (some reply, after)) :
    latest < after.clock := by
  rw [writeAll?_eq, if_neg pauses.nonempty] at written
  split at written
  case h_1 => cases written
  case h_2 next writes =>
    cases written
    exact pauses.late _ _ writes
  case h_3 count next writes =>
    exact Nat.lt_of_lt_of_le (pauses.late _ _ writes) (clock_writeAll? written)
  case h_4 error next writes =>
    split at written
    · exact Nat.lt_of_lt_of_le (pauses.late _ _ writes) (clock_writeAll? written)
    · cases written
      exact pauses.late _ _ writes

/-- Calls that were made before do not move the pause. -/
theorem Paused.after
    {latest : Nat}
    {octets rest front back left : Bytes}
    {calls : List Outlet.Call}
    {outlet next paused : TimedOutlet}
    (made : Outlet.Made outlet.untimed calls next.untimed)
    (first :
      ∀ more,
        Outlet.Writes rest more none → Outlet.Writes octets (calls ++ more) none)
    (whole : Outlet.moved calls ++ back = front)
    (pauses : Paused latest rest back next paused left) :
    Paused latest octets front outlet paused left where
  made := by
    obtain ⟨more, further, writes, split⟩ := pauses.made
    refine ⟨calls ++ more, made.trans further, first more writes, ?_⟩
    rw [Outlet.moved_append, List.append_assoc, split, whole]
  nonempty := pauses.nonempty
  early := pauses.early
  late := pauses.late

/--
A buffer under a deadline is written as without one, if that completes in time, and
otherwise it is left at the last write that completed in time.
-/
theorem writeAll?_cases
    {latest : Nat}
    (buffer : Bytes)
    (outlet : TimedOutlet)
    (started : outlet.clock ≤ latest) :
    (∃ reply after,
        outlet.writeAll? none buffer = (some reply, after) ∧
          after.clock ≤ latest ∧
          outlet.writeAll? (some latest) buffer = (some reply, after)) ∨
      ∃ paused left,
        Paused latest buffer buffer outlet paused left ∧
          outlet.writeAll? none buffer = paused.writeAll? none left ∧
          outlet.writeAll? (some latest) buffer =
            (none, paused.expire (some latest)) := by
  fun_induction writeAll? (some latest) buffer outlet with
  | case1 outlet =>
      exact .inl ⟨_, _, by rw [writeAll?_eq, if_pos rfl], started, rfl⟩
  | case2 buffer outlet nonempty rest writes =>
      obtain ⟨rfl, late⟩ := write?_cut started writes
      exact .inr ⟨outlet, buffer,
        ⟨⟨[], .refl _, .cut nonempty, rfl⟩, nonempty, started, late⟩, rfl, rfl⟩
  | case3 buffer outlet nonempty rest writes =>
      obtain ⟨patient, early⟩ := write?_sound started writes
      exact .inl ⟨_, _, by rw [writeAll?_eq, if_neg nonempty, patient], early, rfl⟩
  | case4 buffer outlet nonempty count rest writes ih =>
      obtain ⟨patient, early⟩ := write?_sound started writes
      obtain ⟨made, fits⟩ := made_write? writes
      rw [writeAll?_eq none, if_neg nonempty, patient]
      rcases ih early with completes | ⟨paused, left, pauses, continues, stopped⟩
      · exact .inl completes
      · refine .inr ⟨paused, left, .after made ?_ ?_ pauses, continues, stopped⟩
        · exact fun more => .whole_part (Nat.succ_pos count) (fits _ rfl)
        · simp [Outlet.Call.accepted]
  | case5 buffer outlet nonempty error rest writes interrupted ih =>
      obtain ⟨patient, early⟩ := write?_sound started writes
      obtain ⟨made, -⟩ := made_write? writes
      rw [writeAll?_eq none, if_neg nonempty, patient]
      simp only [interrupted, if_true]
      rcases ih early with completes | ⟨paused, left, pauses, continues, stopped⟩
      · exact .inl completes
      · refine .inr ⟨paused, left, .after made ?_ rfl pauses, continues, stopped⟩
        exact fun more => .whole_again nonempty interrupted
  | case6 buffer outlet nonempty error rest writes final =>
      obtain ⟨patient, early⟩ := write?_sound started writes
      refine .inl ⟨_, _, ?_, early, rfl⟩
      rw [writeAll?_eq, if_neg nonempty, patient]
      simp only [final, if_false, Bool.false_eq_true]

end TimedOutlet

/-!
## Buffers in turn
-/

/-- A buffer that is written as a step of some name, when time does not matter. -/
structure WriteOperation where
  step : String
  buffer : Bytes
  /-- The milliseconds that it takes, unless it never completes. -/
  delay : Option Nat
  deriving Repr, DecidableEq

namespace WriteOperation

/-- The milliseconds that an operation may take. -/
def deadline (operation : WriteOperation) : Nat :=
  Limits.writeDeadline operation.buffer.length

/-- Whether an operation keeps its deadline. -/
def InTime (operation : WriteOperation) : Prop :=
  ∃ delay ∈ operation.delay, delay ≤ operation.deadline

instance decidableInTime (operation : WriteOperation) : Decidable operation.InTime :=
  inferInstanceAs (Decidable (∃ delay ∈ operation.delay, delay ≤ operation.deadline))

/-- The milliseconds that some operations take together. -/
def duration (operations : List WriteOperation) : Nat :=
  (operations.map fun operation => operation.delay.getD 0).sum

/-- The octets that some operations write together. -/
def octets (operations : List WriteOperation) : Bytes :=
  operations.flatMap buffer

@[simp] theorem duration_nil : duration [] = 0 := rfl

@[simp] theorem duration_cons
    (operation : WriteOperation)
    (more : List WriteOperation) :
    duration (operation :: more) = operation.delay.getD 0 + duration more := rfl

@[simp] theorem octets_nil : octets [] = [] := rfl

@[simp] theorem octets_cons
    (operation : WriteOperation)
    (more : List WriteOperation) :
    octets (operation :: more) = operation.buffer ++ octets more := rfl

end WriteOperation

namespace TimedOutlet

/-- The operations in which some buffers are written in turn, when nothing hurries them. -/
def writeOperations : List (String × Bytes) → TimedOutlet → List WriteOperation
  | [], _ => []
  | (step, buffer) :: more, outlet =>
      match outlet.writeAll? none buffer with
      | (none, _) => [⟨step, buffer, none⟩]
      | (some (.error _), after) => [⟨step, buffer, some (after.clock - outlet.clock)⟩]
      | (some (.ok ()), after) =>
          ⟨step, buffer, some (after.clock - outlet.clock)⟩ ::
            writeOperations more after

/-- The first operation is that of the first buffer; others follow if it succeeds. -/
theorem writeOperations_cons
    (step : String)
    (buffer : Bytes)
    (more : List (String × Bytes))
    (outlet : TimedOutlet) :
    ∃ delay others,
      outlet.writeOperations ((step, buffer) :: more) =
          ⟨step, buffer, delay⟩ :: others ∧
        (∀ reply after,
          outlet.writeAll? none buffer = (some reply, after) →
            delay = some (after.clock - outlet.clock)) ∧
        (others ≠ [] →
          ∃ after, outlet.writeAll? none buffer = (some (.ok ()), after) ∧
            others = after.writeOperations more) := by
  rcases patient : outlet.writeAll? none buffer with ⟨_ | ⟨fault | done⟩, after⟩ <;>
    simp [writeOperations, patient]

theorem writeStep_eq
    (step : String)
    (buffer : Bytes)
    (outlet : TimedOutlet) :
    let deadline := Limits.writeDeadline buffer.length
    outlet.writeStep (step, buffer) =
      match outlet.writeAll? (some (outlet.clock + deadline)) buffer with
      | (some reply, after) => (reply, after)
      | (none, after) => (.error (.timeout step deadline), after) := by
  intro deadline
  simp only [writeStep, writeWithin, within]
  rcases outlet.writeAll? (some (outlet.clock + deadline)) buffer with
    ⟨_ | reply, after⟩ <;> rfl

/-- A buffer that keeps its deadline is written as if it had none. -/
theorem writeStep_in_time
    {step : String}
    {buffer : Bytes}
    {outlet after : TimedOutlet}
    {reply : Except Fault Unit}
    (written : outlet.writeAll? none buffer = (some reply, after))
    (inTime :
      WriteOperation.InTime ⟨step, buffer, some (after.clock - outlet.clock)⟩) :
    outlet.writeStep (step, buffer) = (reply, after) := by
  obtain ⟨delay, same, short⟩ := inTime
  cases same
  simp only [WriteOperation.deadline] at short
  have started := Nat.le_add_right outlet.clock (Limits.writeDeadline buffer.length)
  rw [writeStep_eq]
  rcases writeAll?_cases buffer outlet started with
    ⟨found, last, patient, -, completes⟩ | ⟨paused, left, pauses, continues, -⟩
  · rw [written] at patient
    cases patient
    rw [completes]
  · have beyond := pauses.beyond (continues ▸ written)
    omega

/-- A buffer that would take longer than its deadline is left when that is over. -/
theorem writeStep_late
    {step : String}
    {buffer : Bytes}
    {outlet : TimedOutlet}
    (late :
      ∀ reply after,
        outlet.writeAll? none buffer = (some reply, after) →
          ¬WriteOperation.InTime ⟨step, buffer, some (after.clock - outlet.clock)⟩) :
    let deadline := Limits.writeDeadline buffer.length
    let moment := outlet.clock + deadline
    ∃ paused left,
      Paused moment buffer buffer outlet paused left ∧
        outlet.writeStep (step, buffer) =
          (.error (.timeout step deadline), paused.expire (some moment)) := by
  intro deadline moment
  rw [writeStep_eq]
  rcases writeAll?_cases buffer outlet (Nat.le_add_right _ deadline) with
    ⟨reply, after, patient, early, -⟩ | ⟨paused, left, pauses, -, stopped⟩
  · refine absurd ⟨_, rfl, ?_⟩ (late reply after patient)
    simp only [WriteOperation.deadline]
    omega
  · exact ⟨paused, left, pauses, by rw [stopped]⟩

/-- Buffers that all keep their deadlines are written as to a stream without a clock. -/
theorem inTurn_in_time
    {named : List (String × Bytes)}
    {outlet : TimedOutlet}
    (inTime : ∀ operation ∈ outlet.writeOperations named, operation.InTime) :
    ∃ reply after,
      inTurn writeStep named outlet = (reply, after) ∧
        inTurn Outlet.writeAll (named.map Prod.snd) outlet.untimed =
          (reply, after.untimed) ∧
        after.clock =
          outlet.clock + WriteOperation.duration (outlet.writeOperations named) := by
  induction named generalizing outlet with
  | nil => exact ⟨_, _, rfl, rfl, rfl⟩
  | cons first more ih =>
      obtain ⟨step, buffer⟩ := first
      rcases patient : outlet.writeAll? none buffer with ⟨_ | reply, after⟩
      · simp only [writeOperations, patient, List.mem_singleton, forall_eq] at inTime
        obtain ⟨delay, never, -⟩ := inTime
        cases never
      have forward := clock_writeAll? patient
      have instant := writeAll?_untimed patient
      cases reply with
      | error fault =>
          simp only [writeOperations, patient, List.mem_singleton, forall_eq] at inTime ⊢
          have writes := writeStep_in_time patient inTime
          refine ⟨.error fault, after, ?_, ?_, ?_⟩
          · simp only [inTurn, writes]
          · simp only [List.map_cons, inTurn, instant]
          · simp only [WriteOperation.duration_cons, WriteOperation.duration_nil,
              Option.getD_some]
            omega
      | ok done =>
          simp only [writeOperations, patient, List.forall_mem_cons] at inTime ⊢
          have writes := writeStep_in_time patient inTime.1
          obtain ⟨reply, last, turns, others, clock⟩ := ih inTime.2
          refine ⟨reply, last, ?_, ?_, ?_⟩
          · simp only [inTurn, writes, turns]
          · simp only [List.map_cons, inTurn, instant, others]
          · simp only [WriteOperation.duration_cons, Option.getD_some]
            omega

/-- A transmission in time is the one to the stream without a clock. -/
theorem transmit_in_time
    {named : List (String × Bytes)}
    {outlet : TimedOutlet}
    (inTime : ∀ operation ∈ outlet.writeOperations named, operation.InTime)
    (stop : Inlet.Stop)
    (timedStep instantStep : String)
    (receipt : Receipt) :
    let timed := transmit writeStep flush named (stop.reading timedStep) receipt outlet
    let instant :=
      transmit Outlet.writeAll Outlet.flush (named.map Prod.snd)
        (stop.reading instantStep) receipt outlet.untimed
    timed.2.untimed = instant.2 ∧
      timed.2.clock =
        outlet.clock + WriteOperation.duration (outlet.writeOperations named) ∧
      (timed.1 = instant.1 ∨
        ∃ error, stop = .failed error ∧
          timed.1 = .error (.host timedStep error) ∧
          instant.1 = .error (.host instantStep error)) := by
  obtain ⟨reply, after, turns, others, clock⟩ := inTurn_in_time inTime
  unfold transmit
  rw [turns, others]
  rcases reply with fault | done
  · exact ⟨rfl, clock, .inl rfl⟩
  cases stop with
  | failed error => exact ⟨rfl, clock, .inr ⟨error, rfl, rfl, rfl⟩⟩
  | ended =>
      simp only [Inlet.Stop.reading, flush, Outlet.flush]
      cases refused : after.flushError <;>
        exact ⟨by simp [untimed, refused], clock, .inl (by simp [untimed, refused])⟩

/-- A first buffer that does not keep its deadline ends the run. -/
theorem inTurn_late_now
    {step : String}
    {buffer : Bytes}
    {outlet : TimedOutlet}
    (late :
      ∀ reply after,
        outlet.writeAll? none buffer = (some reply, after) →
          ¬WriteOperation.InTime ⟨step, buffer, some (after.clock - outlet.clock)⟩)
    (more : List (String × Bytes)) :
    let deadline := Limits.writeDeadline buffer.length
    let moment := outlet.clock + deadline
    ∃ paused left,
      Paused moment (buffer ++ (more.map Prod.snd).flatten) buffer outlet paused left ∧
        left <:+ buffer ∧
        inTurn writeStep ((step, buffer) :: more) outlet =
          (.error (.timeout step deadline), paused.expire (some moment)) := by
  intro deadline moment
  obtain ⟨paused, left, pauses, stopped⟩ := writeStep_late late
  obtain ⟨made, further, writes, split⟩ := pauses.made
  refine ⟨paused, left, ?_, ⟨_, split⟩, by simp only [inTurn, stopped]; rfl⟩
  exact
    { pauses with made := ⟨made, further, writes.before (by simp) _, split⟩ }

/--
The first buffer that does not keep its deadline ends the run: what completed before
the deadline stays, and the clock stands at it.
-/
theorem inTurn_late
    {named : List (String × Bytes)}
    {outlet : TimedOutlet}
    {before after : List WriteOperation}
    {late : WriteOperation}
    (shape : outlet.writeOperations named = before ++ late :: after)
    (early : ∀ operation ∈ before, operation.InTime)
    (isLate : ¬late.InTime) :
    let moment := outlet.clock + WriteOperation.duration before + late.deadline
    ∃ paused left,
      Paused moment (named.map Prod.snd).flatten
          (WriteOperation.octets before ++ late.buffer) outlet paused left ∧
        left <:+ late.buffer ∧
        inTurn writeStep named outlet =
          (.error (.timeout late.step late.deadline),
            paused.expire (some moment)) := by
  induction named generalizing outlet before with
  | nil => simp [writeOperations] at shape
  | cons first more ih =>
      obtain ⟨step, buffer⟩ := first
      obtain ⟨delay, others, operations, delays, further⟩ :=
        writeOperations_cons step buffer more outlet
      rw [operations] at shape
      rcases List.cons_eq_append_iff.mp shape with ⟨rfl, now⟩ | ⟨earlier, rfl, rest⟩
      · cases now
        have late (reply : Except Fault Unit) (after : TimedOutlet)
            (written : outlet.writeAll? none buffer = (some reply, after)) :
            ¬WriteOperation.InTime
                ⟨step, buffer, some (after.clock - outlet.clock)⟩ := by
          rwa [← delays reply after written]
        simpa [WriteOperation.deadline] using inTurn_late_now late more
      · obtain ⟨now, soon⟩ := List.forall_mem_cons.mp early
        obtain ⟨next, patient, rfl⟩ := further (by simp [rest])
        have forward := clock_writeAll? patient
        obtain rfl := delays _ _ patient
        obtain ⟨calls, made, writes⟩ := writeAll?_writes patient
        obtain ⟨paused, left, pauses, front, stops⟩ := ih rest soon
        have moment :
            next.clock + WriteOperation.duration earlier + late.deadline =
              outlet.clock +
                  WriteOperation.duration
                    (⟨step, buffer, some (next.clock - outlet.clock)⟩ :: earlier) +
                late.deadline := by
          simp only [WriteOperation.duration_cons, Option.getD_some]
          omega
        rw [moment] at pauses stops
        refine ⟨paused, left, .after made ?_ ?_ pauses, front, ?_⟩
        · exact fun more later => writes.trans later
        · simp [writes.moved_eq_iff.mpr rfl]
        · simp only [inTurn, writeStep_in_time patient now, stops]

end TimedOutlet

end FileTransfer
