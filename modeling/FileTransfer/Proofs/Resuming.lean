import FileTransfer.Proofs.TimedWriting

namespace FileTransfer

/-!
# Writing a buffer to its end

A buffer is offered to its stream until nothing is left of it.  From any call on, the
calls write exactly what those before it left (`Outlet.Resumes.from_call`).  Hence each
of them offers the part of the buffer that was not taken yet (`Outlet.Resumes.offers`),
an interrupted call is made again as it was (`Outlet.Resumes.repeats`), and the replies
alone tell how writing ends.

A clock changes nothing of this.  A stream that never stalls is written to as if it had
no delays (`TimedOutlet.writeAll?_flows`), and whatever cuts writing off, the calls made
until then are the first of those that would have been made (`TimedOutlet.calls_writeAll?`).
-/

namespace Outlet

namespace Resumes

variable
  {octets offered : Bytes}
  {made earlier later : List Call}
  {call : Call}
  {error : HostError}
  {reply : Option (Except Fault Unit)}

/-!
## From one call to the next
-/

/-- The first call offers everything, and is made only if there is something. -/
theorem first_call (resumes : Resumes octets (call :: later) reply) :
    octets ≠ [] ∧ ∃ answer, call = .write octets answer := by
  cases resumes with
  | part some_moved fits further =>
      refine ⟨?_, _, rfl⟩
      rintro rfl
      exact absurd (Nat.lt_of_lt_of_le some_moved fits) (Nat.lt_irrefl 0)
  | again nonempty interrupted further => exact ⟨nonempty, _, rfl⟩
  | closed nonempty => exact ⟨nonempty, _, rfl⟩
  | failed nonempty final => exact ⟨nonempty, _, rfl⟩

/-- From any call on, the calls write what those before it left. -/
theorem from_call
    (resumes : Resumes octets made reply)
    (splits : made = earlier ++ call :: later) :
    ∃ left, moved earlier ++ left = octets ∧ Resumes left (call :: later) reply := by
  induction earlier generalizing octets made with
  | nil =>
      subst splits
      exact ⟨octets, rfl, resumes⟩
  | cons first front ih =>
      cases resumes with
      | done => cases splits
      | part some_moved fits further =>
          obtain ⟨rfl, rest⟩ := List.cons.inj splits
          obtain ⟨left, split, resumed⟩ := ih further rest
          refine ⟨left, ?_, resumed⟩
          rw [moved_cons, Call.accepted, List.append_assoc, split,
            List.take_append_drop]
      | again nonempty interrupted further =>
          obtain ⟨rfl, rest⟩ := List.cons.inj splits
          obtain ⟨left, split, resumed⟩ := ih further rest
          exact ⟨left, split, resumed⟩
      | closed nonempty => simp at splits
      | failed nonempty final => simp at splits
      | cut nonempty => cases splits

/-- Every call offers what follows the octets that were taken before it. -/
theorem offers
    (resumes : Resumes octets made reply)
    (splits : made = earlier ++ call :: later) :
    ∃ offered answer, call = .write offered answer ∧ offered ≠ [] ∧
      moved earlier ++ offered = octets := by
  obtain ⟨left, split, resumed⟩ := resumes.from_call splits
  obtain ⟨nonempty, answer, rfl⟩ := resumed.first_call
  exact ⟨left, answer, rfl, nonempty, split⟩

/-- An interrupted call leaves everything to the calls after it. -/
theorem after_interruption
    (resumes : Resumes octets (.write offered (.error error) :: later) reply)
    (interrupted : error.isInterrupted) :
    Resumes octets later reply := by
  cases resumes with
  | again nonempty interrupted further => exact further
  | failed nonempty final => exact absurd interrupted final

/-- Without a call something is left only if the next one did not complete. -/
theorem reply_of_no_call
    (resumes : Resumes octets [] reply)
    (nonempty : octets ≠ []) :
    reply = none := by
  cases resumes with
  | done => exact absurd rfl nonempty
  | cut nonempty => rfl

/-- The call after an interrupted one offers the same. -/
theorem repeats
    (resumes : Resumes octets made reply)
    (splits : made = earlier ++ .write offered (.error error) :: later)
    (interrupted : error.isInterrupted) :
    (∃ answer more, later = .write offered answer :: more) ∨
      later = [] ∧ reply = none := by
  obtain ⟨left, -, resumed⟩ := resumes.from_call splits
  obtain ⟨nonempty, answer, same⟩ := resumed.first_call
  cases same
  have further := resumed.after_interruption interrupted
  cases later with
  | nil =>
      exact .inr ⟨rfl, further.reply_of_no_call nonempty⟩
  | cons next more =>
      obtain ⟨-, answer, rfl⟩ := further.first_call
      exact .inl ⟨answer, more, rfl⟩

/-- For nothing there is no call. -/
theorem of_nil (resumes : Resumes [] made reply) :
    made = [] ∧ reply = some (.ok ()) := by
  cases made with
  | nil =>
      cases resumes with
      | done => exact ⟨rfl, rfl⟩
      | cut nonempty => exact absurd rfl nonempty
  | cons call more => exact absurd rfl resumes.first_call.1

end Resumes

/--
What there is to say about the calls that write one buffer, and about their end; there
is no reply when the next call did not complete.
-/
structure WrittenExactly
    (buffer : Bytes)
    (made : List Call)
    (reply : Option (Except Fault Unit)) :
    Prop where
  /-- Every call offers the octets that follow those taken before it, at least one. -/
  offers :
    ∀ earlier call later,
      made = earlier ++ call :: later →
      ∃ offered answer, call = .write offered answer ∧ offered ≠ [] ∧
        moved earlier ++ offered = buffer
  /-- At all times the octets that were taken are a front of the buffer. -/
  front : ∀ earlier, earlier <+: made → moved earlier <+: buffer
  /-- What was offered to an interrupted call is offered to the next one. -/
  repeats :
    ∀ earlier offered error later,
      made = earlier ++ .write offered (.error error) :: later →
      error.isInterrupted →
      (∃ answer more, later = .write offered answer :: more) ∨
        later = [] ∧ reply = none
  /-- For an empty buffer no call is made. -/
  empty : buffer = [] → made = [] ∧ reply = some (.ok ())
  succeeds : reply = some (.ok ()) ↔ moved made = buffer
  closes : reply = some (.error .connectionClosed) ↔ Closes made
  fails : ∀ error, reply = some (.error (.host "write" error)) ↔ Fails error made
  /-- Writing ends in no other way. -/
  ends :
    reply = none ∨ reply = some (.ok ()) ∨
      reply = some (.error .connectionClosed) ∨
      ∃ error, reply = some (.error (.host "write" error))

theorem Resumes.exactly
    {buffer : Bytes}
    {made : List Call}
    {reply : Option (Except Fault Unit)}
    (resumes : Resumes buffer made reply) :
    WrittenExactly buffer made reply where
  offers := fun earlier call later splits => resumes.offers splits
  front := by
    rintro earlier ⟨later, rfl⟩
    apply List.IsPrefix.trans _ resumes.writes.moved_prefix
    rw [moved_append]
    exact List.prefix_append _ _
  repeats := fun earlier offered error later splits => resumes.repeats splits
  empty := by
    rintro rfl
    exact resumes.of_nil
  succeeds := resumes.writes.moved_eq_iff.symm
  closes := resumes.writes.closed_iff
  fails := resumes.writes.failed_iff
  ends := resumes.writes.reply_cases

end Outlet

/-!
## Against a clock
-/

namespace TimedOutlet

theorem replySteps?_flows
    {steps : List (Timed Outlet.Step)}
    (flows : .stall ∉ steps)
    (limit : Option Nat)
    (offered : Bytes)
    (moment : Nat) :
    ∃ writing,
      replySteps? none limit offered moment steps = some writing ∧
        .stall ∉ writing.rest := by
  fun_induction replySteps? none limit offered moment steps with
  | case1 => exact ⟨_, rfl, flows⟩
  | case2 moment milliseconds more late => cases late
  | case3 moment milliseconds more early ih =>
      exact ih (List.not_mem_of_not_mem_cons flows)
  | case4 => exact absurd List.mem_cons_self flows
  | case5 => exact ⟨_, rfl, List.not_mem_of_not_mem_cons flows⟩

theorem write?_flows
    {offered : Bytes}
    {outlet after : TimedOutlet}
    {reply : Option (Except HostError Nat)}
    (flows : .stall ∉ outlet.steps)
    (written : outlet.write? none offered = (reply, after)) :
    reply ≠ none ∧ .stall ∉ after.steps := by
  obtain ⟨writing, replied, further⟩ :=
    replySteps?_flows flows outlet.limit offered outlet.clock
  rw [write?, replied] at written
  cases written
  exact ⟨by simp, further⟩

/-- A stream that never stalls is written to until there is a reply. -/
theorem writeAll?_flows
    {buffer : Bytes}
    {outlet after : TimedOutlet}
    {reply : Option (Except Fault Unit)}
    (flows : .stall ∉ outlet.steps)
    (written : outlet.writeAll? none buffer = (reply, after)) :
    reply ≠ none := by
  fun_induction writeAll? none buffer outlet with
  | case1 =>
      cases written
      simp
  | case2 buffer outlet nonempty rest writes =>
      exact absurd rfl (write?_flows flows writes).1
  | case3 =>
      cases written
      simp
  | case4 buffer outlet nonempty count rest writes ih =>
      exact ih (write?_flows flows writes).2 written
  | case5 buffer outlet nonempty error rest writes interrupted ih =>
      exact ih (write?_flows flows writes).2 written
  | case6 =>
      cases written
      simp

/-- Where writing was cut off, the stream without delays would go on. -/
theorem writeAll?_goes_on
    {latest : Option Nat}
    {buffer : Bytes}
    {outlet after : TimedOutlet}
    (stopped : outlet.writeAll? latest buffer = (none, after)) :
    ∃ left, outlet.untimed.writeAll buffer = after.untimed.writeAll left := by
  fun_induction writeAll? latest buffer outlet with
  | case1 => cases stopped
  | case2 buffer outlet nonempty rest writes =>
      cases stopped
      exact ⟨buffer, by rw [untimed_write? writes]⟩
  | case3 => cases stopped
  | case4 buffer outlet nonempty count rest writes ih =>
      rw [Outlet.writeAll_eq, if_neg nonempty, write?_untimed writes]
      exact ih stopped
  | case5 buffer outlet nonempty error rest writes interrupted ih =>
      rw [Outlet.writeAll_eq, if_neg nonempty, write?_untimed writes]
      simpa only [interrupted, if_true] using ih stopped
  | case6 => cases stopped

/-- The calls made on a clock are the first of those made without one. -/
theorem calls_writeAll?
    (latest : Option Nat)
    (buffer : Bytes)
    (outlet : TimedOutlet) :
    (outlet.writeAll? latest buffer).2.calls <:+
      (outlet.untimed.writeAll buffer).2.calls := by
  rcases written : outlet.writeAll? latest buffer with ⟨_ | reply, after⟩
  · obtain ⟨left, goesOn⟩ := writeAll?_goes_on written
    obtain ⟨made, further, -⟩ :=
      Outlet.writeAll_resumes (Prod.eta (after.untimed.writeAll left)).symm
    rw [goesOn, further.calls]
    exact List.suffix_append _ _
  · rw [writeAll?_untimed written]
    exact List.suffix_rfl

end TimedOutlet

/--
Writing a buffer, for every stream with and without a clock.  At each call what is
offered is exactly what was not taken yet, so the octets that were taken are a front of
the buffer at all times.  Writing succeeds if and only if they are all of it, finds the
peer gone if and only if a call took nothing, and fails if and only if a call did that
was not merely interrupted; an interrupted call is made again as it was.  On a clock the
same calls are made with the same outcome, unless a deadline or a stall cuts them off.
-/
theorem writeAll_exact (buffer : Bytes) :
    (∀ outlet : Outlet,
        let run := outlet.writeAll buffer
        ∃ made,
          run.2.calls = made.reverse ++ outlet.calls ∧
            run.2.accepted = outlet.accepted ++ Outlet.moved made ∧
            Outlet.WrittenExactly buffer made (some run.1)) ∧
      ∀ (outlet : TimedOutlet) (latest : Option Nat),
        let run := outlet.writeAll? latest buffer
        let instant := outlet.untimed.writeAll buffer
        (∃ made,
            run.2.calls = made.reverse ++ outlet.calls ∧
              run.2.accepted = outlet.accepted ++ Outlet.moved made ∧
              Outlet.WrittenExactly buffer made run.1) ∧
          (∀ reply, run.1 = some reply → instant = (reply, run.2.untimed)) ∧
          (latest = none → .stall ∉ outlet.steps → run.1 ≠ none) ∧
          run.2.calls <:+ instant.2.calls := by
  constructor
  · intro outlet run
    obtain ⟨made, further, resumes⟩ :=
      Outlet.writeAll_resumes (Prod.eta (outlet.writeAll buffer)).symm
    exact ⟨made, further.calls, further.accepted, resumes.exactly⟩
  · intro outlet latest run instant
    refine ⟨?_, ?_, ?_, TimedOutlet.calls_writeAll? latest buffer outlet⟩
    · obtain ⟨made, further, resumes⟩ :=
        TimedOutlet.writeAll?_resumes
          (Prod.eta (outlet.writeAll? latest buffer)).symm
      exact ⟨made, further.calls, further.accepted, resumes.exactly⟩
    · intro reply replied
      exact TimedOutlet.writeAll?_untimed (Prod.ext replied rfl)
    · rintro rfl flows
      exact TimedOutlet.writeAll?_flows flows (Prod.eta (outlet.writeAll? none buffer)).symm

/-- What a short write or an interruption leaves is offered again. -/
example :
    let steps : List Outlet.Step :=
      [.take 2, .failure (.ofKind .interrupted), .take 1, .take 0]
    let run := (Outlet.ofSteps steps none none none).writeAll [1, 2, 3, 4]
    run.1 = .error .connectionClosed ∧ run.2.accepted = [1, 2, 3] ∧
      run.2.offered = [[1, 2, 3, 4], [3, 4], [3, 4], [4]] := by
  cbv

end FileTransfer
