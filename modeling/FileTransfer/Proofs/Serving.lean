import FileTransfer.Proofs.Containment
import FileTransfer.Transfer.Serve

namespace FileTransfer

/-!
# What a server records

A server answers every arrival with a turn of its own, in order.  `Turn.Answers` says
how: a session is recorded by its start and by one event for its end, and a failure to
accept by one event.  Since the events of a turn open and close one connection
(`Turn.Answers.settled`), no more than one connection is open at any point of a run
(`pending_of_settled`), and the files are those of the sessions alone
(`finalTree_serve`).
-/

/-!
## Turns
-/

section Turns

variable
  {σ : Type}
  (turn : FileTree → Arrival σ → Turn)

theorem length_turns (tree : FileTree) (arrivals : List (Arrival σ)) :
    (turns turn tree arrivals).length = arrivals.length := by
  induction arrivals generalizing tree with
  | nil => rfl
  | cons arrival more ih => exact congrArg (· + 1) (ih _)

theorem finalTree_cons (tree : FileTree) (first : Turn) (done : List Turn) :
    finalTree tree (first :: done) = finalTree first.tree done := by
  cases shape : done.getLast? with
  | none =>
      obtain rfl := List.getLast?_eq_none_iff.mp shape
      rfl
  | some last => simp [finalTree, List.getLast?_cons, shape]

/-- Later turns start on the files that the earlier ones left. -/
theorem turns_append (tree : FileTree) (before after : List (Arrival σ)) :
    turns turn tree (before ++ after) =
      turns turn tree before ++
        turns turn (finalTree tree (turns turn tree before)) after := by
  induction before generalizing tree with
  | nil => rfl
  | cons arrival more ih =>
      simp only [List.cons_append, turns, finalTree_cons]
      rw [ih]

/-- Each arrival has the turn of its place in the run. -/
theorem getElem?_turns
    (tree : FileTree)
    (before : List (Arrival σ))
    (arrival : Arrival σ)
    (after : List (Arrival σ)) :
    (turns turn tree (before ++ arrival :: after))[before.length]? =
      some (turn (finalTree tree (turns turn tree before)) arrival) := by
  rw [turns_append, List.getElem?_append_right (by rw [length_turns]), length_turns,
    Nat.sub_self]
  rfl

theorem finalTree_turns_concat
    (tree : FileTree)
    (before : List (Arrival σ))
    (arrival : Arrival σ) :
    finalTree tree (turns turn tree (before ++ [arrival])) =
      (turn (finalTree tree (turns turn tree before)) arrival).tree := by
  rw [turns_append]
  simp [finalTree, turns]

/-- Every turn of a run answers one of its arrivals, on some files. -/
theorem exists_of_mem_turns
    {turn : FileTree → Arrival σ → Turn}
    {tree : FileTree}
    {arrivals : List (Arrival σ)}
    {done : Turn}
    (taken : done ∈ turns turn tree arrivals) :
    ∃ found, ∃ arrival ∈ arrivals, done = turn found arrival := by
  induction arrivals generalizing tree with
  | nil => cases taken
  | cons arrival more ih =>
      obtain rfl | later := List.mem_cons.mp taken
      · exact ⟨tree, arrival, List.mem_cons_self, rfl⟩
      · obtain ⟨found, answered, among, same⟩ := ih later
        exact ⟨found, answered, List.mem_cons_of_mem _ among, same⟩

/-- Turns that leave the same files and look the same in some way do so all along. -/
theorem map_turns_congr
    {β : Type}
    {turn other : FileTree → Arrival σ → Turn}
    {view : Turn → β}
    (files : ∀ tree arrival, (turn tree arrival).tree = (other tree arrival).tree)
    (same : ∀ tree arrival, view (turn tree arrival) = view (other tree arrival))
    (tree : FileTree)
    (arrivals : List (Arrival σ)) :
    (turns turn tree arrivals).map view = (turns other tree arrivals).map view := by
  induction arrivals generalizing tree with
  | nil => rfl
  | cons arrival more ih =>
      simp only [turns, List.map_cons]
      rw [same, files, ih]

end Turns

/-!
## What one turn records
-/

/--
How a server that goes on answers an arrival.  A failure to accept changes no files
and is recorded for the peer `-`; a session is recorded by its start and its end.
-/
inductive Turn.Answers
    {σ : Type}
    (receive : FileTree → σ → Reception × σ)
    (found : FileTree) :
    Arrival σ → Turn → Prop where
  | failed (fault : Fault) (notices : List String) :
      Answers receive found (.failure fault)
        ⟨.error fault, [.error "-" fault.message], notices, found⟩
  | completed
      {peer : String}
      {inlet : σ}
      {receipt : Receipt}
      {left : FileTree}
      (notices : List String)
      (ends : (receive found inlet).1 = ⟨.ok receipt, left⟩) :
      Answers receive found (.connection peer inlet)
        ⟨.ok (.ok receipt), [.start peer, .done peer receipt], notices, left⟩
  | aborted
      {peer : String}
      {inlet : σ}
      {aborted : Abort}
      {left : FileTree}
      (notices : List String)
      (ends : (receive found inlet).1 = ⟨.error aborted, left⟩) :
      Answers receive found (.connection peer inlet)
        ⟨.ok (.error aborted), [.start peer, .error peer aborted.message], notices, left⟩

/-- A turn that is carried on from answers its arrival. -/
theorem Turn.answers_carryOn
    {σ : Type}
    (receive : FileTree → σ → Reception × σ)
    (notices : String → Except Abort Receipt → List String)
    (found : FileTree)
    (arrival : Arrival σ) :
    ((Turn.take receive notices found arrival).carryOn).Answers receive found arrival := by
  cases arrival with
  | failure fault => exact .failed fault _
  | connection peer inlet =>
      rcases ends : receive found inlet with ⟨⟨aborted | receipt, left⟩, rest⟩
      · simp only [take, carryOn, ends, sessionEvents]
        exact .aborted _ (congrArg Prod.fst ends)
      · simp only [take, carryOn, ends, sessionEvents]
        exact .completed _ (congrArg Prod.fst ends)

/-!
## Open connections
-/

/-- The connections that are open after an event, each by the name of its peer. -/
def Event.follow (opened : List String) : Event → List String
  | .listening .. => opened
  | .start peer => peer :: opened
  | .done peer _ => opened.erase peer
  | .error peer _ => opened.erase peer

/-- The connections that were started in some events and not ended. -/
def pending (events : List Event) : List String :=
  events.foldl Event.follow []

/-- A turn that leaves no connection open, and opens no more than one. -/
structure Turn.Settled (turn : Turn) : Prop where
  all : pending turn.events = []
  each : ∀ count, (pending (turn.events.take count)).length ≤ 1

theorem Turn.Answers.settled
    {σ : Type}
    {receive : FileTree → σ → Reception × σ}
    {found : FileTree}
    {arrival : Arrival σ}
    {turn : Turn}
    (answers : turn.Answers receive found arrival) :
    turn.Settled := by
  cases answers with
  | failed fault notices =>
      refine ⟨rfl, fun count => ?_⟩
      cases count with
      | zero => exact Nat.zero_le 1
      | succ more =>
          rw [List.take_succ_cons, List.take_nil]
          exact Nat.zero_le 1
  | completed notices ends =>
      refine ⟨by simp [pending, Event.follow], fun count => ?_⟩
      match count with
      | 0 => exact Nat.zero_le 1
      | 1 => exact Nat.le_refl 1
      | more + 2 => simp [pending, Event.follow]
  | aborted notices ends =>
      refine ⟨by simp [pending, Event.follow], fun count => ?_⟩
      match count with
      | 0 => exact Nat.zero_le 1
      | 1 => exact Nat.le_refl 1
      | more + 2 => simp [pending, Event.follow]

theorem pending_append
    {first : List Event}
    (closed : pending first = [])
    (second : List Event) :
    pending (first ++ second) = pending second := by
  rw [pending, List.foldl_append]
  exact congrArg (second.foldl Event.follow) closed

/-- Settled turns leave no connection open, and never have more than one open. -/
theorem pending_of_settled
    {done : List Turn}
    (settled : ∀ turn ∈ done, turn.Settled) :
    pending (done.flatMap Turn.events) = [] ∧
      ∀ count, (pending ((done.flatMap Turn.events).take count)).length ≤ 1 := by
  induction done with
  | nil =>
      refine ⟨rfl, fun count => ?_⟩
      rw [List.flatMap_nil, List.take_nil]
      exact Nat.zero_le 1
  | cons turn more ih =>
      obtain ⟨closed, within⟩ := settled turn List.mem_cons_self
      obtain ⟨all, each⟩ := ih fun later taken =>
        settled later (List.mem_cons_of_mem turn taken)
      simp only [List.flatMap_cons]
      refine ⟨(pending_append closed _).trans all, fun count => ?_⟩
      rw [List.take_append]
      by_cases early : count ≤ turn.events.length
      · rw [Nat.sub_eq_zero_of_le early, List.take_zero, List.append_nil]
        exact within count
      · rw [List.take_of_length_le (Nat.le_of_not_le early), pending_append closed]
        exact each _

/-!
## Runs
-/

/-- The sessions that some arrivals lead to. -/
def ServerPlan.sessions
    (plan : ServerPlan)
    (arrivals : List (Arrival Inlet)) :
    List Session :=
  arrivals.filterMap fun
    | .connection _ inlet => some ⟨plan.options, .blocking inlet⟩
    | .failure _ => none

/-- The files after a run are those that its sessions leave. -/
theorem finalTree_serve
    (plan : ServerPlan)
    (tree : FileTree)
    (arrivals : List (Arrival Inlet)) :
    finalTree tree (serve plan tree arrivals) =
      tree.afterSessions plan.directory (plan.sessions arrivals) := by
  induction arrivals using List.reverseRecOn with
  | nil => rfl
  | append_singleton before arrival ih =>
      rw [serve] at ih ⊢
      rw [finalTree_turns_concat, ih]
      cases arrival with
      | failure fault =>
          simp [ServerPlan.sessions, List.filterMap_append, acceptOne, Turn.take,
            Turn.carryOn]
      | connection peer inlet =>
          simp only [ServerPlan.sessions, List.filterMap_append, List.filterMap_cons,
            List.filterMap_nil, FileTree.afterSessions_concat]
          rfl

/-- A turn without what the console shows of it. -/
def Turn.unseen (turn : Turn) : Turn :=
  { turn with notices := [] }

/-- A server that tells more on the console does the same otherwise. -/
theorem serve_verbose
    (plan : ServerPlan)
    (verbose : Bool)
    (tree : FileTree)
    (arrivals : List (Arrival Inlet)) :
    (serve { plan with verbose := verbose } tree arrivals).map Turn.unseen =
      (serve plan tree arrivals).map Turn.unseen := by
  refine map_turns_congr ?_ ?_ tree arrivals
  · intro files arrival
    cases arrival <;> rfl
  · intro files arrival
    cases arrival <;> rfl

/--
A server answers all arrivals, each in its own turn, on the files that the sessions
before it left; no failure ends the run.  At every point at most one connection is
open, and none is in the end.  Accepting alone records no failure to accept, and what
the console is told makes no difference to anything else.
-/
theorem serve_answers_every_arrival
    (plan : ServerPlan)
    (tree : FileTree)
    (arrivals : List (Arrival Inlet)) :
    let done := serve plan tree arrivals
    let left (taken : List (Arrival Inlet)) :=
      tree.afterSessions plan.directory (plan.sessions taken)
    done.length = arrivals.length ∧
      (∀ before arrival later, arrivals = before ++ arrival :: later →
        ∃ turn, done[before.length]? = some turn ∧
          turn.Answers (receiveFile plan.options plan.directory) (left before)
            arrival) ∧
      (∀ files fault,
        acceptOne plan files (.failure fault) = ⟨.error fault, [], [], files⟩) ∧
      (∀ count,
        (pending ((done.flatMap Turn.events).take count)).length ≤ 1) ∧
      pending (done.flatMap Turn.events) = [] ∧
      finalTree tree done = left arrivals ∧
      ∀ verbose,
        (serve { plan with verbose := verbose } tree arrivals).map Turn.unseen =
          done.map Turn.unseen := by
  intro done left
  have answers (files : FileTree) (arrival : Arrival Inlet) :=
    Turn.answers_carryOn (receiveFile plan.options plan.directory)
      (sessionNotices plan.verbose) files arrival
  have settled : ∀ turn ∈ done, turn.Settled := by
    intro turn taken
    obtain ⟨files, arrival, -, rfl⟩ := exists_of_mem_turns taken
    exact (answers files arrival).settled
  obtain ⟨closed, each⟩ := pending_of_settled settled
  refine ⟨length_turns _ tree arrivals, ?_, ?_, each, closed, ?_, ?_⟩
  · intro before arrival later split
    have found : left before = finalTree tree (serve plan tree before) :=
      (finalTree_serve plan tree before).symm
    refine ⟨_, ?_, answers (left before) arrival⟩
    rw [found]
    subst split
    exact getElem?_turns _ tree before arrival later
  · intro files fault
    rfl
  · exact finalTree_serve plan tree arrivals
  · intro verbose
    exact serve_verbose plan verbose tree arrivals

/-- Failures to accept, before and after, do not keep a session from its end. -/
theorem serve_answers_every_arrival_between_failures :
    let failing : Arrival Inlet := .failure (.host "accept" (.ofKind .connectionReset))
    let filling : Arrival Inlet := .connection "p" (.ofBytes [0, 1, 0x61, 7] none)
    let arrivals := [failing, filling, failing]
    arrivals = [failing] ++ filling :: [failing] ∧
      ∃ turn,
        (serve (.standard [Path.dot]) (.bare []) arrivals)[1]? = some turn ∧
          turn.events =
            [.start "p",
              .done "p"
                ⟨.server, "a", [Path.dot, Path.slash, 0x61], 1, ⟨0, 0⟩, none⟩] := by
  intro failing filling arrivals
  obtain ⟨-, each, -⟩ :=
    serve_answers_every_arrival (.standard [Path.dot]) (.bare []) arrivals
  obtain ⟨turn, taken, answers⟩ := each [failing] filling [failing] rfl
  have completes :
      (receiveFile .standard [Path.dot] (.bare [])
          (.ofBytes [0, 1, 0x61, 7] none)).1.outcome =
        .ok ⟨.server, "a", [Path.dot, Path.slash, 0x61], 1, ⟨0, 0⟩, none⟩ := by
    rw [receiveFile_bare]
    cbv
  refine ⟨rfl, turn, taken, ?_⟩
  change turn.Answers _ _ (.connection "p" _) at answers
  cases answers with
  | completed notices ends =>
      have outcome := (congrArg Reception.outcome ends).symm.trans completes
      rw [Except.ok.inj outcome]
  | aborted notices ends =>
      have outcome := (congrArg Reception.outcome ends).symm.trans completes
      cases outcome

end FileTransfer
