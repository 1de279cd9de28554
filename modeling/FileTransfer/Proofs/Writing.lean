import FileTransfer.Stream.TimedOutlet

namespace FileTransfer

/-!
# What a stream accepts

Writes may be partial, be interrupted, fail, or run out of time.  Whatever they
do, what the stream accepted is a front of what it was offered, without gaps or
repetitions, and a call that succeeds has passed on all of it (`Accepted`).
-/

/--
What a stream had accepted before and after it was offered some octets: it took
a front of them, and all of them if everything went well.
-/
def Accepted (earlier offered later : Bytes) (well : Prop) : Prop :=
  ∃ moved, later = earlier ++ moved ∧ moved <+: offered ∧ (well → moved = offered)

namespace Accepted

theorem nothing (earlier : Bytes) (well : Prop) : Accepted earlier [] earlier well :=
  ⟨[], by simp, List.prefix_rfl, fun _ => rfl⟩

theorem failed
    {well : Prop}
    (earlier offered : Bytes)
    (fails : ¬well) :
    Accepted earlier offered earlier well :=
  ⟨[], by simp, List.nil_prefix, fun wellDone => absurd wellDone fails⟩

/-- Octets that were all accepted are followed by those offered next. -/
theorem trans
    {first second third front back : Bytes}
    {well later : Prop}
    (wellDone : well)
    (earlier : Accepted first front second well)
    (further : Accepted second back third later) :
    Accepted first (front ++ back) third later := by
  rcases earlier with ⟨start, rfl, -, all⟩
  rcases further with ⟨moved, rfl, front, whole⟩
  rw [all wellDone]
  refine ⟨_, List.append_assoc .., ?_, fun finished => by rw [whole finished]⟩
  exact (List.prefix_append_right_inj _).mpr front

theorem cut
    {first second front : Bytes}
    {well later : Prop}
    (earlier : Accepted first front second well)
    (back : Bytes)
    (fails : ¬later) :
    Accepted first (front ++ back) second later := by
  rcases earlier with ⟨moved, rfl, start, -⟩
  exact ⟨moved, rfl, start.trans (List.prefix_append front back),
    fun finished => absurd finished fails⟩

end Accepted

namespace Outlet

theorem acceptedIn_cons (call : Call) (calls : List Call) :
    acceptedIn (call :: calls) = acceptedIn calls ++ call.accepted := by
  simp [acceptedIn]

theorem accepted_flush (outlet : Outlet) :
    outlet.flush.2.accepted = outlet.accepted := by
  simp [flush, accepted, acceptedIn_cons, Call.accepted]

theorem accepted_write
    {offered : Bytes}
    {outlet rest : Outlet}
    {reply : Except HostError Nat}
    (written : outlet.write offered = (reply, rest)) :
    rest.accepted = outlet.accepted ++ (Call.write offered reply).accepted := by
  simp only [write, Prod.mk.injEq] at written
  rcases written with ⟨rfl, rfl⟩
  exact acceptedIn_cons _ _

theorem writeAll_eq (buffer : Bytes) (outlet : Outlet) :
    outlet.writeAll buffer =
      if buffer = [] then (.ok (), outlet)
      else
        match outlet.write buffer with
        | (.ok 0, rest) => (.error .connectionClosed, rest)
        | (.ok (count + 1), rest) => rest.writeAll (buffer.drop (count + 1))
        | (.error error, rest) =>
            if error.isInterrupted then rest.writeAll buffer
            else (.error (.host "write" error), rest) := by
  rw [writeAll]
  split
  case isTrue empty => rfl
  case isFalse nonempty => split <;> simp only [*]

/-- Writing a whole buffer passes it on in order. -/
theorem writeAll_accepted
    {buffer : Bytes}
    {outlet after : Outlet}
    {reply : Except Fault Unit}
    (written : outlet.writeAll buffer = (reply, after)) :
    Accepted outlet.accepted buffer after.accepted (reply = .ok ()) := by
  fun_induction writeAll buffer outlet with
  | case1 outlet =>
      cases written
      exact .nothing _ _
  | case2 buffer outlet nonempty rest writes =>
      cases written
      have moved := accepted_write writes
      simp only [Call.accepted, List.take_zero, List.append_nil] at moved
      rw [moved]
      exact .failed _ _ (by simp)
  | case3 buffer outlet nonempty count rest writes ih =>
      have moved := accepted_write writes
      have first : Accepted outlet.accepted (buffer.take (count + 1))
          rest.accepted True :=
        ⟨_, moved, List.prefix_rfl, fun _ => rfl⟩
      have whole := first.trans trivial (ih written)
      rwa [List.take_append_drop] at whole
  | case4 buffer outlet nonempty error rest writes interrupted ih =>
      have moved := accepted_write writes
      simp only [Call.accepted, List.append_nil] at moved
      rw [← moved]
      exact ih written
  | case5 buffer outlet nonempty error rest writes final =>
      cases written
      have moved := accepted_write writes
      simp only [Call.accepted, List.append_nil] at moved
      rw [moved]
      exact .failed _ _ (by simp)

end Outlet

namespace TimedOutlet

theorem accepted_flush (outlet : TimedOutlet) :
    outlet.flush.2.accepted = outlet.accepted := by
  simp [flush, accepted, Outlet.acceptedIn_cons, Outlet.Call.accepted]

theorem accepted_write?
    {latest : Option Nat}
    {offered : Bytes}
    {outlet rest : TimedOutlet}
    {reply : Option (Except HostError Nat)}
    (written : outlet.write? latest offered = (reply, rest)) :
    rest.accepted =
      outlet.accepted ++
        match reply with
        | none => []
        | some answer => (Outlet.Call.write offered answer).accepted := by
  unfold write? at written
  split at written
  · cases written
    simp [accepted, expire]
  · cases written
    exact Outlet.acceptedIn_cons _ _

theorem writeAll?_eq (latest : Option Nat) (buffer : Bytes) (outlet : TimedOutlet) :
    outlet.writeAll? latest buffer =
      if buffer = [] then (some (.ok ()), outlet)
      else
        match outlet.write? latest buffer with
        | (none, rest) => (none, rest)
        | (some (.ok 0), rest) => (some (.error .connectionClosed), rest)
        | (some (.ok (count + 1)), rest) =>
            rest.writeAll? latest (buffer.drop (count + 1))
        | (some (.error error), rest) =>
            if error.isInterrupted then rest.writeAll? latest buffer
            else (some (.error (.host "write" error)), rest) := by
  rw [writeAll?]
  split
  case isTrue empty => rfl
  case isFalse nonempty => split <;> simp only [*]

/-- Writing a whole buffer passes it on in order, as far as time allows. -/
theorem writeAll?_accepted
    {latest : Option Nat}
    {buffer : Bytes}
    {outlet after : TimedOutlet}
    {reply : Option (Except Fault Unit)}
    (written : outlet.writeAll? latest buffer = (reply, after)) :
    Accepted outlet.accepted buffer after.accepted (reply = some (.ok ())) := by
  fun_induction writeAll? latest buffer outlet with
  | case1 outlet =>
      cases written
      exact .nothing _ _
  | case2 buffer outlet nonempty rest writes =>
      cases written
      have moved := accepted_write? writes
      simp only [List.append_nil] at moved
      rw [moved]
      exact .failed _ _ (by simp)
  | case3 buffer outlet nonempty rest writes =>
      cases written
      have moved := accepted_write? writes
      simp only [Outlet.Call.accepted, List.take_zero, List.append_nil] at moved
      rw [moved]
      exact .failed _ _ (by simp)
  | case4 buffer outlet nonempty count rest writes ih =>
      have moved := accepted_write? writes
      have first : Accepted outlet.accepted (buffer.take (count + 1))
          rest.accepted True :=
        ⟨_, moved, List.prefix_rfl, fun _ => rfl⟩
      have whole := first.trans trivial (ih written)
      rwa [List.take_append_drop] at whole
  | case5 buffer outlet nonempty error rest writes interrupted ih =>
      have moved := accepted_write? writes
      simp only [Outlet.Call.accepted, List.append_nil] at moved
      rw [← moved]
      exact ih written
  | case6 buffer outlet nonempty error rest writes final =>
      cases written
      have moved := accepted_write? writes
      simp only [Outlet.Call.accepted, List.append_nil] at moved
      rw [moved]
      exact .failed _ _ (by simp)

end TimedOutlet

end FileTransfer
