import FileTransfer.Proofs.Writing

namespace FileTransfer

/-!
# Writing call by call

What the calls on a stream were decides what became of a buffer.  `Writes` relates
the octets that are to be written to the calls that write them and to their end:
each call offers a front of what is left, a part that was taken is not offered
again, and the last call shows why there are no more of them.  Whatever a loop of
writes can do is read off this relation: its calls are in order and without gaps
(`Writes.in_order`), and its end is the reply of a call (`Writes.closed_iff`,
`Writes.failed_iff`).

`Resumes` is the same for one buffer, where nothing is held back: each call offers all
that is left (`writeAll_resumes`, `writeAll?_resumes`).
-/

namespace Outlet

/-- The octets that a stream took in the course of some calls, from the first one on. -/
def moved (made : List Call) : Bytes :=
  made.flatMap Call.accepted

@[simp] theorem moved_nil : moved [] = [] := rfl

@[simp] theorem moved_cons (call : Call) (more : List Call) :
    moved (call :: more) = call.accepted ++ moved more := rfl

theorem moved_append (earlier later : List Call) :
    moved (earlier ++ later) = moved earlier ++ moved later := by
  simp [moved]

/-- An outlet after some further calls, of which the first one comes first. -/
def Made (outlet : Outlet) (made : List Call) (after : Outlet) : Prop :=
  after =
    { outlet with
      steps := after.steps
      calls := made.reverse ++ outlet.calls }

namespace Made

theorem refl (outlet : Outlet) : Made outlet [] outlet := rfl

theorem trans
    {first second third : Outlet}
    {made more : List Call}
    (earlier : Made first made second)
    (later : Made second more third) :
    Made first (made ++ more) third := by
  unfold Made at earlier later ⊢
  rw [later, earlier]
  simp

theorem calls
    {outlet after : Outlet}
    {made : List Call}
    (further : Made outlet made after) :
    after.calls = made.reverse ++ outlet.calls := by
  rw [further]

theorem flushError
    {outlet after : Outlet}
    {made : List Call}
    (further : Made outlet made after) :
    after.flushError = outlet.flushError := by
  rw [further]

theorem accepted
    {outlet after : Outlet}
    {made : List Call}
    (further : Made outlet made after) :
    after.accepted = outlet.accepted ++ moved made := by
  simp [Outlet.accepted, acceptedIn, moved, further.calls]

end Made

/-- Some write took nothing of what it was offered. -/
def Closes (made : List Call) : Prop :=
  ∃ offered, .write offered (.ok 0) ∈ made

/-- Some write failed, and was not merely interrupted. -/
def Fails (error : HostError) (made : List Call) : Prop :=
  ¬error.isInterrupted ∧ ∃ offered, .write offered (.error error) ∈ made

/--
Some octets, the calls that write them, and how these end.  Without a reply the
next write did not complete.
-/
inductive Writes : Bytes → List Call → Option (Except Fault Unit) → Prop where
  | done : Writes [] [] (some (.ok ()))
  | part
      {offered left : Bytes}
      {count : Nat}
      {more : List Call}
      {reply : Option (Except Fault Unit)}
      (some_moved : 0 < count)
      (fits : count ≤ offered.length)
      (further : Writes (offered.drop count ++ left) more reply) :
      Writes (offered ++ left) (.write offered (.ok count) :: more) reply
  | again
      {offered left : Bytes}
      {error : HostError}
      {more : List Call}
      {reply : Option (Except Fault Unit)}
      (nonempty : offered ≠ [])
      (interrupted : error.isInterrupted)
      (further : Writes (offered ++ left) more reply) :
      Writes (offered ++ left) (.write offered (.error error) :: more) reply
  | closed
      {offered left : Bytes}
      (nonempty : offered ≠ []) :
      Writes (offered ++ left) [.write offered (.ok 0)]
        (some (.error .connectionClosed))
  | failed
      {offered left : Bytes}
      {error : HostError}
      (nonempty : offered ≠ [])
      (final : ¬error.isInterrupted) :
      Writes (offered ++ left) [.write offered (.error error)]
        (some (.error (.host "write" error)))
  | cut
      {left : Bytes}
      (nonempty : left ≠ []) :
      Writes left [] none

namespace Writes

variable
  {octets front back : Bytes}
  {made more : List Call}
  {reply : Option (Except Fault Unit)}

/-!
A call that offers all that is left is the case in which nothing stays behind it.
-/

theorem whole_part
    {offered : Bytes}
    {count : Nat}
    (some_moved : 0 < count)
    (fits : count ≤ offered.length)
    (further : Writes (offered.drop count) more reply) :
    Writes offered (.write offered (.ok count) :: more) reply := by
  have writes : Writes (offered ++ []) _ reply :=
    .part some_moved fits (by rwa [List.append_nil])
  rwa [List.append_nil] at writes

theorem whole_again
    {offered : Bytes}
    {error : HostError}
    (nonempty : offered ≠ [])
    (interrupted : error.isInterrupted)
    (further : Writes offered more reply) :
    Writes offered (.write offered (.error error) :: more) reply := by
  have writes : Writes (offered ++ []) _ reply :=
    .again nonempty interrupted (by rwa [List.append_nil])
  rwa [List.append_nil] at writes

theorem whole_closed
    {offered : Bytes}
    (nonempty : offered ≠ []) :
    Writes offered [.write offered (.ok 0)] (some (.error .connectionClosed)) := by
  have writes : Writes (offered ++ []) _ _ := .closed nonempty
  rwa [List.append_nil] at writes

theorem whole_failed
    {offered : Bytes}
    {error : HostError}
    (nonempty : offered ≠ [])
    (final : ¬error.isInterrupted) :
    Writes offered [.write offered (.error error)]
      (some (.error (.host "write" error))) := by
  have writes : Writes (offered ++ []) _ _ := .failed nonempty final
  rwa [List.append_nil] at writes

/-- Octets that were all written are followed by those written next. -/
theorem trans
    (earlier : Writes front made (some (.ok ())))
    (later : Writes back more reply) :
    Writes (front ++ back) (made ++ more) reply := by
  generalize whole : some (Except.ok ()) = answer at earlier
  induction earlier with
  | done => exact later
  | @part offered left count made answer some_moved fits further ih =>
      have rest := ih whole
      rw [List.append_assoc] at rest ⊢
      exact .part some_moved fits rest
  | @again offered left error made answer nonempty interrupted further ih =>
      have rest := ih whole
      rw [List.append_assoc] at rest ⊢
      exact .again nonempty interrupted rest
  | closed => cases whole
  | failed => cases whole
  | cut => cases whole

/-- Octets behind those that were not all written are never offered. -/
theorem before
    (writes : Writes octets made reply)
    (unfinished : reply ≠ some (.ok ()))
    (back : Bytes) :
    Writes (octets ++ back) made reply := by
  induction writes with
  | done => exact absurd rfl unfinished
  | part some_moved fits further ih =>
      have rest := ih unfinished
      rw [List.append_assoc] at rest ⊢
      exact .part some_moved fits rest
  | again nonempty interrupted further ih =>
      have rest := ih unfinished
      rw [List.append_assoc] at rest ⊢
      exact .again nonempty interrupted rest
  | closed nonempty =>
      rw [List.append_assoc]
      exact .closed nonempty
  | failed nonempty final =>
      rw [List.append_assoc]
      exact .failed nonempty final
  | cut nonempty => exact .cut (List.append_ne_nil_of_left_ne_nil nonempty back)

/-- What was taken is a front of the octets, and all of them only in the end. -/
theorem exists_left (writes : Writes octets made reply) :
    ∃ left, octets = moved made ++ left ∧ (left = [] ↔ reply = some (.ok ())) := by
  induction writes with
  | done => exact ⟨[], rfl, by simp⟩
  | @part offered behind count made reply some_moved fits further ih =>
      obtain ⟨left, split, ends⟩ := ih
      refine ⟨left, ?_, ends⟩
      simp only [moved_cons, Call.accepted, List.append_assoc, ← split]
      rw [← List.append_assoc, List.take_append_drop]
  | again nonempty interrupted further ih => exact ih
  | @closed offered behind nonempty =>
      exact ⟨offered ++ behind, by simp [Call.accepted], by simp [nonempty]⟩
  | @failed offered behind error nonempty final =>
      exact ⟨offered ++ behind, by simp [Call.accepted], by simp [nonempty]⟩
  | cut nonempty => exact ⟨_, rfl, by simp [nonempty]⟩

theorem moved_prefix (writes : Writes octets made reply) :
    moved made <+: octets := by
  obtain ⟨left, split, -⟩ := writes.exists_left
  exact ⟨left, split.symm⟩

theorem moved_eq_iff (writes : Writes octets made reply) :
    moved made = octets ↔ reply = some (.ok ()) := by
  obtain ⟨left, split, ends⟩ := writes.exists_left
  rw [← ends, split, List.self_eq_append_right]

/-- Every call offers the octets that follow what was taken before it. -/
theorem in_order
    (writes : Writes octets made reply)
    {earlier later : List Call}
    {call : Call}
    (splits : made = earlier ++ call :: later) :
    ∃ offered answer, call = .write offered answer ∧
      offered ≠ [] ∧ moved earlier ++ offered <+: octets := by
  induction writes generalizing earlier with
  | done => simp at splits
  | @part offered behind count made reply some_moved fits further ih =>
      rcases List.cons_eq_append_iff.mp splits with ⟨rfl, same⟩ | ⟨more, rfl, rest⟩
      · cases same
        have nonempty : offered ≠ [] := by
          rintro rfl
          simp only [List.length_nil] at fits
          omega
        exact ⟨offered, _, rfl, nonempty, List.prefix_append offered behind⟩
      · obtain ⟨next, answer, shape, nonempty, ⟨left, split⟩⟩ := ih rest
        refine ⟨next, answer, shape, nonempty, left, ?_⟩
        rw [moved_cons, Call.accepted, List.append_assoc, List.append_assoc,
          ← List.append_assoc (moved more), split, ← List.append_assoc,
          List.take_append_drop]
  | @again offered behind error made reply nonempty interrupted further ih =>
      rcases List.cons_eq_append_iff.mp splits with ⟨rfl, same⟩ | ⟨more, rfl, rest⟩
      · cases same
        exact ⟨offered, _, rfl, nonempty, List.prefix_append offered behind⟩
      · obtain ⟨next, answer, shape, given, ordered⟩ := ih rest
        exact ⟨next, answer, shape, given, ordered⟩
  | @closed offered behind nonempty =>
      rcases List.cons_eq_append_iff.mp splits with ⟨rfl, same⟩ | ⟨more, -, rest⟩
      · cases same
        exact ⟨offered, _, rfl, nonempty, List.prefix_append offered behind⟩
      · simp at rest
  | @failed offered behind error nonempty final =>
      rcases List.cons_eq_append_iff.mp splits with ⟨rfl, same⟩ | ⟨more, -, rest⟩
      · cases same
        exact ⟨offered, _, rfl, nonempty, List.prefix_append offered behind⟩
      · simp at rest
  | cut => simp at splits

/-- The peer is found gone exactly if a write took nothing. -/
theorem closed_iff (writes : Writes octets made reply) :
    reply = some (.error .connectionClosed) ↔ Closes made := by
  unfold Closes
  induction writes with
  | done => simp
  | part some_moved fits further ih =>
      simp only [ih, List.mem_cons, Call.write.injEq, Except.ok.injEq]
      exact exists_congr fun offered => by simp [Nat.ne_of_lt some_moved]
  | again nonempty interrupted further ih => simp [ih]
  | @closed offered behind nonempty => simp
  | failed nonempty final => simp
  | cut nonempty => simp

/-- Writing fails exactly as a write did that was not merely interrupted. -/
theorem failed_iff
    (writes : Writes octets made reply)
    (error : HostError) :
    reply = some (.error (.host "write" error)) ↔ Fails error made := by
  unfold Fails
  induction writes with
  | done => simp
  | part some_moved fits further ih => simp [ih]
  | again nonempty interrupted further ih =>
      rw [ih]
      constructor
      · rintro ⟨final, offered, member⟩
        exact ⟨final, offered, List.mem_cons_of_mem _ member⟩
      · rintro ⟨final, offered, member⟩
        rcases List.mem_cons.mp member with same | member
        · cases same
          exact absurd interrupted final
        · exact ⟨final, offered, member⟩
  | closed nonempty => simp
  | @failed offered behind found nonempty final =>
      simp only [Option.some.injEq, Except.error.injEq, Fault.host.injEq, true_and,
        List.mem_singleton, Call.write.injEq]
      constructor
      · rintro rfl
        exact ⟨final, offered, rfl, rfl⟩
      · rintro ⟨-, -, -, rfl⟩
        rfl
  | cut nonempty => simp

/-- Writing that does not succeed finds the peer gone, fails, or is cut off. -/
theorem reply_cases (writes : Writes octets made reply) :
    reply = none ∨ reply = some (.ok ()) ∨
      reply = some (.error .connectionClosed) ∨
      ∃ error, reply = some (.error (.host "write" error)) := by
  induction writes with
  | done => simp
  | part _ _ _ ih => exact ih
  | again _ _ _ ih => exact ih
  | closed => simp
  | failed => simp
  | cut => simp

end Writes

/-!
## One buffer
-/

/--
Some octets, the calls that write them, and how these end, when every call offers all
that is left of the octets.
-/
inductive Resumes : Bytes → List Call → Option (Except Fault Unit) → Prop where
  | done : Resumes [] [] (some (.ok ()))
  | part
      {left : Bytes}
      {count : Nat}
      {more : List Call}
      {reply : Option (Except Fault Unit)}
      (some_moved : 0 < count)
      (fits : count ≤ left.length)
      (further : Resumes (left.drop count) more reply) :
      Resumes left (.write left (.ok count) :: more) reply
  | again
      {left : Bytes}
      {error : HostError}
      {more : List Call}
      {reply : Option (Except Fault Unit)}
      (nonempty : left ≠ [])
      (interrupted : error.isInterrupted)
      (further : Resumes left more reply) :
      Resumes left (.write left (.error error) :: more) reply
  | closed
      {left : Bytes}
      (nonempty : left ≠ []) :
      Resumes left [.write left (.ok 0)] (some (.error .connectionClosed))
  | failed
      {left : Bytes}
      {error : HostError}
      (nonempty : left ≠ [])
      (final : ¬error.isInterrupted) :
      Resumes left [.write left (.error error)] (some (.error (.host "write" error)))
  | cut
      {left : Bytes}
      (nonempty : left ≠ []) :
      Resumes left [] none

theorem Resumes.writes
    {octets : Bytes}
    {made : List Call}
    {reply : Option (Except Fault Unit)}
    (resumes : Resumes octets made reply) :
    Writes octets made reply := by
  induction resumes with
  | done => exact .done
  | part some_moved fits further ih => exact .whole_part some_moved fits ih
  | again nonempty interrupted further ih => exact .whole_again nonempty interrupted ih
  | closed nonempty => exact .whole_closed nonempty
  | failed nonempty final => exact .whole_failed nonempty final
  | cut nonempty => exact .cut nonempty

theorem made_write (offered : Bytes) (outlet : Outlet) :
    Made outlet [.write offered (outlet.write offered).1]
      (outlet.write offered).2 := rfl

theorem write_le
    {offered : Bytes}
    {outlet after : Outlet}
    {count : Nat}
    (written : outlet.write offered = (.ok count, after)) :
    count ≤ offered.length := by
  simp only [write, Prod.mk.injEq] at written
  exact replySteps_le (Prod.ext written.1 rfl)

/-- Writing a whole buffer offers what is left of it again and again. -/
theorem writeAll_resumes
    {buffer : Bytes}
    {outlet after : Outlet}
    {reply : Except Fault Unit}
    (written : outlet.writeAll buffer = (reply, after)) :
    ∃ made, Made outlet made after ∧ Resumes buffer made (some reply) := by
  fun_induction writeAll buffer outlet with
  | case1 =>
      cases written
      exact ⟨[], .refl _, .done⟩
  | case2 buffer outlet nonempty rest writes =>
      cases written
      have made := made_write buffer outlet
      rw [writes] at made
      exact ⟨_, made, .closed nonempty⟩
  | case3 buffer outlet nonempty count rest writes ih =>
      have made := made_write buffer outlet
      rw [writes] at made
      obtain ⟨more, further, calls⟩ := ih written
      exact ⟨_, made.trans further,
        .part (Nat.succ_pos count) (write_le writes) calls⟩
  | case4 buffer outlet nonempty error rest writes interrupted ih =>
      have made := made_write buffer outlet
      rw [writes] at made
      obtain ⟨more, further, calls⟩ := ih written
      exact ⟨_, made.trans further, .again nonempty interrupted calls⟩
  | case5 buffer outlet nonempty error rest writes final =>
      cases written
      have made := made_write buffer outlet
      rw [writes] at made
      exact ⟨_, made, .failed nonempty final⟩

/-- Writing a whole buffer is a run of writes of it, and does nothing else. -/
theorem writeAll_writes
    {buffer : Bytes}
    {outlet after : Outlet}
    {reply : Except Fault Unit}
    (written : outlet.writeAll buffer = (reply, after)) :
    ∃ made, Made outlet made after ∧ Writes buffer made (some reply) := by
  obtain ⟨made, further, resumes⟩ := writeAll_resumes written
  exact ⟨made, further, resumes.writes⟩

end Outlet

namespace TimedOutlet

theorem replySteps?_le
    {latest limit : Option Nat}
    {offered : Bytes}
    {moment count : Nat}
    {steps : List (Timed Outlet.Step)}
    {writing : Writing}
    (completed : replySteps? latest limit offered moment steps = some writing)
    (taken : writing.reply = .ok count) :
    count ≤ offered.length := by
  fun_induction replySteps? latest limit offered moment steps with
  | case1 =>
      cases completed
      cases taken
      exact Outlet.length_reach limit offered ▸ capped_le limit offered.length
  | case2 => cases completed
  | case3 moment milliseconds more early ih => exact ih completed
  | case4 => cases completed
  | case5 moment step more =>
      cases completed
      exact Outlet.replySteps_le (Prod.ext taken rfl)

/-- A write that completes is one call, and takes no more than it offers. -/
theorem made_write?
    {latest : Option Nat}
    {offered : Bytes}
    {outlet after : TimedOutlet}
    {reply : Except HostError Nat}
    (written : outlet.write? latest offered = (some reply, after)) :
    Outlet.Made outlet.untimed [.write offered reply] after.untimed ∧
      ∀ count, reply = .ok count → count ≤ offered.length := by
  unfold write? at written
  split at written
  case h_1 => cases written
  case h_2 found moment rest replied =>
    cases written
    exact ⟨rfl, fun count taken => replySteps?_le replied taken⟩

/-- A write that does not complete leaves the stream as it was. -/
theorem untimed_write?
    {latest : Option Nat}
    {offered : Bytes}
    {outlet after : TimedOutlet}
    (stopped : outlet.write? latest offered = (none, after)) :
    after.untimed = outlet.untimed := by
  unfold write? at stopped
  split at stopped
  case h_1 =>
    cases stopped
    rfl
  case h_2 => cases stopped

/-- Writing a whole buffer under a deadline offers what is left of it as well. -/
theorem writeAll?_resumes
    {latest : Option Nat}
    {buffer : Bytes}
    {outlet after : TimedOutlet}
    {reply : Option (Except Fault Unit)}
    (written : outlet.writeAll? latest buffer = (reply, after)) :
    ∃ made, Outlet.Made outlet.untimed made after.untimed ∧
      Outlet.Resumes buffer made reply := by
  fun_induction writeAll? latest buffer outlet with
  | case1 =>
      cases written
      exact ⟨[], .refl _, .done⟩
  | case2 buffer outlet nonempty rest writes =>
      cases written
      exact ⟨[], by rw [untimed_write? writes]; exact .refl _, .cut nonempty⟩
  | case3 buffer outlet nonempty rest writes =>
      cases written
      exact ⟨_, (made_write? writes).1, .closed nonempty⟩
  | case4 buffer outlet nonempty count rest writes ih =>
      obtain ⟨made, fits⟩ := made_write? writes
      obtain ⟨more, further, calls⟩ := ih written
      exact ⟨_, made.trans further,
        .part (Nat.succ_pos count) (fits _ rfl) calls⟩
  | case5 buffer outlet nonempty error rest writes interrupted ih =>
      obtain ⟨made, -⟩ := made_write? writes
      obtain ⟨more, further, calls⟩ := ih written
      exact ⟨_, made.trans further, .again nonempty interrupted calls⟩
  | case6 buffer outlet nonempty error rest writes final =>
      cases written
      exact ⟨_, (made_write? writes).1, .failed nonempty final⟩

theorem writeAll?_writes
    {latest : Option Nat}
    {buffer : Bytes}
    {outlet after : TimedOutlet}
    {reply : Option (Except Fault Unit)}
    (written : outlet.writeAll? latest buffer = (reply, after)) :
    ∃ made, Outlet.Made outlet.untimed made after.untimed ∧
      Outlet.Writes buffer made reply := by
  obtain ⟨made, further, resumes⟩ := writeAll?_resumes written
  exact ⟨made, further, resumes.writes⟩

end TimedOutlet

end FileTransfer
