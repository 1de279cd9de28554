import FileTransfer.Proofs.Wire
import FileTransfer.Stream.TimedInlet

namespace FileTransfer

/-!
# Operations that may take their time

An operation without a latest moment waits as long as its stream makes it wait.
Such an operation is patient.  Two laws say what a deadline and a clock add to
it, and they are proved for each reading operation in turn:

* a deadline only cuts an operation off (`Punctual`): one that would complete in
  time is not affected, and any other one stops at its deadline;
* a patient operation is the one of the stream without delays, and its clock
  advances by exactly the delays that it met (`Patient`).
-/

/-- Items that do not all have a property have a first one without it. -/
theorem exists_first_without
    {α : Type}
    {property : α → Prop}
    {items : List α}
    (someWithout : ¬∀ item ∈ items, property item) :
    ∃ before first after,
      items = before ++ first :: after ∧
        (∀ item ∈ before, property item) ∧ ¬property first := by
  induction items with
  | nil => simp at someWithout
  | cons item more ih =>
      by_cases has : property item
      · obtain ⟨before, first, after, rfl, earlier, without⟩ :=
          ih fun others => someWithout (List.forall_mem_cons.mpr ⟨has, others⟩)
        exact ⟨item :: before, first, after, rfl,
          List.forall_mem_cons.mpr ⟨has, earlier⟩, without⟩
      · exact ⟨[], item, more, rfl, by simp, has⟩

/-- There is only one first item without a property. -/
theorem first_without_unique
    {α : Type}
    {property : α → Prop}
    {before others after rest : List α}
    {first second : α}
    (same : before ++ first :: after = others ++ second :: rest)
    (earlier : ∀ item ∈ before, property item)
    (without : ¬property first)
    (earlierToo : ∀ item ∈ others, property item)
    (withoutToo : ¬property second) :
    before = others ∧ first = second := by
  induction before generalizing others with
  | nil =>
      cases others with
      | nil => exact ⟨rfl, (List.cons.inj same).1⟩
      | cons item more =>
          obtain ⟨rfl, -⟩ := List.cons.inj same
          exact absurd (earlierToo first List.mem_cons_self) without
  | cons item more ih =>
      cases others with
      | nil =>
          obtain ⟨rfl, -⟩ := List.cons.inj same
          exact absurd (earlier item List.mem_cons_self) withoutToo
      | cons other remaining =>
          obtain ⟨rfl, remains⟩ := List.cons.inj same
          obtain ⟨rfl, found⟩ :=
            ih remains (List.forall_mem_cons.mp earlier).2
              (List.forall_mem_cons.mp earlierToo).2
          exact ⟨rfl, found⟩

namespace Timed

/-- The milliseconds of all delays in a script. -/
def waiting {α : Type} : List (Timed α) → Nat
  | [] => 0
  | .delay milliseconds :: more => milliseconds + waiting more
  | .stall :: more => waiting more
  | .now _ :: more => waiting more

end Timed

namespace TimedInlet

/--
Whether a deadline only cuts an operation off: one that completes in time is the
same with the deadline, and any other one stops at the deadline.
-/
structure Punctual
    {β : Type}
    (operation : Option Nat → TimedInlet → Option β × TimedInlet) :
    Prop where
  inTime :
    ∀ {latest : Nat} {inlet rest : TimedInlet} {reply : β},
      operation none inlet = (some reply, rest) →
      rest.clock ≤ latest →
      operation (some latest) inlet = (some reply, rest)
  late :
    ∀ {latest : Nat} {inlet : TimedInlet},
      inlet.clock ≤ latest →
      (∀ reply rest,
        operation none inlet = (some reply, rest) → latest < rest.clock) →
      ∃ rest,
        operation (some latest) inlet = (none, rest) ∧ rest.clock = latest

/-- An inlet before and after an operation that waited for some of its delays. -/
structure Waited (inlet rest : TimedInlet) : Prop where
  forward : inlet.clock ≤ rest.clock
  delays :
    rest.clock + Timed.waiting rest.steps =
      inlet.clock + Timed.waiting inlet.steps

namespace Waited

theorem refl (inlet : TimedInlet) : Waited inlet inlet :=
  ⟨Nat.le_refl _, rfl⟩

theorem trans
    {first second third : TimedInlet}
    (earlier : Waited first second)
    (later : Waited second third) :
    Waited first third :=
  ⟨Nat.le_trans earlier.forward later.forward, later.delays.trans earlier.delays⟩

end Waited

/--
Whether an operation, given all the time that it needs, is a given one of the
stream without delays, and takes as long as the delays that it met.
-/
def Patient
    {β : Type}
    (operation : Option Nat → TimedInlet → Option β × TimedInlet)
    (instant : Inlet → β × Inlet) :
    Prop :=
  ∀ ⦃inlet rest : TimedInlet⦄ ⦃reply : β⦄,
    operation none inlet = (some reply, rest) →
      instant inlet.untimed = (reply, rest.untimed) ∧ Waited inlet rest

/-!
## One read
-/

theorem moment_readSteps?
    {latest : Option Nat}
    {amount moment : Nat}
    {steps : List (Timed Inlet.Step)}
    {reading : Reading}
    (completed : readSteps? latest amount moment steps = some reading) :
    moment ≤ reading.moment := by
  fun_induction readSteps? latest amount moment steps with
  | case1 => cases completed; exact Nat.le_refl _
  | case2 => cases completed
  | case3 moment milliseconds more _ ih =>
      have further := ih completed
      omega
  | case4 => cases completed
  | case5 moment more ih => exact ih completed
  | case6 moment bytes more nonempty rest =>
      cases completed
      exact Nat.le_refl _
  | case7 moment error more => cases completed; exact Nat.le_refl _
  | case8 moment more => cases completed; exact Nat.le_refl _

theorem readSteps?_in_time
    {latest amount moment : Nat}
    {steps : List (Timed Inlet.Step)}
    {reading : Reading}
    (completed : readSteps? none amount moment steps = some reading)
    (inTime : reading.moment ≤ latest) :
    readSteps? (some latest) amount moment steps = some reading := by
  fun_induction readSteps? none amount moment steps with
  | case1 => exact completed
  | case2 moment milliseconds more late => cases late
  | case3 moment milliseconds more _ ih =>
      have further := moment_readSteps? completed
      have early : ¬latest < moment + milliseconds := by omega
      simp [readSteps?, isLate, early, ih completed]
  | case4 => cases completed
  | case5 moment more ih => simpa [readSteps?] using ih completed
  | case6 moment bytes more nonempty rest =>
      rw [← completed]
      cases bytes with
      | nil => exact absurd rfl nonempty
      | cons octet others => rfl
  | case7 moment error more => exact completed
  | case8 moment more => exact completed

theorem readSteps?_late
    {latest amount moment : Nat}
    {steps : List (Timed Inlet.Step)}
    (started : moment ≤ latest)
    (late :
      ∀ reading,
        readSteps? none amount moment steps = some reading →
          latest < reading.moment) :
    readSteps? (some latest) amount moment steps = none := by
  fun_induction readSteps? (some latest) amount moment steps with
  | case1 =>
      have beyond := late _ rfl
      simp only at beyond
      omega
  | case2 => rfl
  | case3 moment milliseconds more early ih =>
      simp only [isLate, decide_eq_true_eq, Nat.not_lt] at early
      exact ih early (fun reading completed =>
        late reading (by simpa [readSteps?, isLate] using completed))
  | case4 => rfl
  | case5 moment more ih =>
      exact ih started (fun reading completed =>
        late reading (by simpa [readSteps?] using completed))
  | case6 moment bytes more nonempty rest =>
      cases bytes with
      | nil => exact absurd rfl nonempty
      | cons octet others =>
          have beyond := late _ rfl
          simp only at beyond
          omega
  | case7 moment error more =>
      have beyond := late _ rfl
      simp only at beyond
      omega
  | case8 moment more =>
      have beyond := late _ rfl
      simp only at beyond
      omega

theorem readSteps?_untimed
    {latest : Option Nat}
    {amount moment : Nat}
    {steps : List (Timed Inlet.Step)}
    {reading : Reading}
    (completed : readSteps? latest amount moment steps = some reading) :
    Inlet.readSteps amount (Timed.instant steps) =
        (reading.reply, Timed.instant reading.rest) ∧
      reading.moment + Timed.waiting reading.rest =
        moment + Timed.waiting steps := by
  fun_induction readSteps? latest amount moment steps with
  | case1 =>
      cases completed
      exact ⟨rfl, rfl⟩
  | case2 => cases completed
  | case3 moment milliseconds more _ ih =>
      obtain ⟨same, waited⟩ := ih completed
      refine ⟨same, ?_⟩
      simp only [Timed.waiting]
      omega
  | case4 => cases completed
  | case5 moment more ih => exact ih completed
  | case6 moment bytes more nonempty rest =>
      cases completed
      cases bytes with
      | nil => exact absurd rfl nonempty
      | cons octet others =>
          by_cases whole : (octet :: others).drop amount = []
          · simp only [rest, whole, Timed.instant, List.filterMap_cons,
              Timed.step?, Inlet.readSteps, if_true, Timed.waiting, and_self]
          · simp only [rest, whole, Timed.instant, List.filterMap_cons,
              Timed.step?, Inlet.readSteps, if_false, Timed.waiting, and_self]
  | case7 moment error more =>
      cases completed
      exact ⟨rfl, rfl⟩
  | case8 moment more =>
      cases completed
      exact ⟨rfl, rfl⟩

/-- A read that a patient one would complete, completes as that one. -/
theorem read?_eq_some_iff
    {latest : Option Nat}
    {room : Nat}
    {inlet rest : TimedInlet}
    {reply : Except HostError Bytes} :
    inlet.read? latest room = (some reply, rest) ↔
      ∃ reading,
        readSteps? latest (capped inlet.limit room) inlet.clock inlet.steps =
            some reading ∧
          reading.reply = reply ∧
          rest = { inlet with
            steps := reading.rest
            calls := inlet.calls + 1
            consumed := inlet.consumed +
              (match reading.reply with
              | .ok piece => piece.length
              | .error _ => 0)
            clock := reading.moment } := by
  unfold read?
  constructor
  · intro completed
    split at completed
    case h_1 => cases completed
    case h_2 found reply moment after shape =>
      cases completed
      exact ⟨_, shape, rfl, rfl⟩
  · rintro ⟨⟨answer, moment, later⟩, shape, rfl, rfl⟩
    cases answer with
    | error error => simp only [shape]
    | ok piece => simp only [shape]

theorem punctual_read (room : Nat) : Punctual (read? · room) where
  inTime := by
    intro latest inlet rest reply completed inTime
    obtain ⟨reading, shape, rfl, rfl⟩ := read?_eq_some_iff.mp completed
    exact read?_eq_some_iff.mpr
      ⟨reading, readSteps?_in_time shape inTime, rfl, rfl⟩
  late := by
    intro latest inlet started late
    have nothing :
        readSteps? (some latest) (capped inlet.limit room) inlet.clock
          inlet.steps = none := by
      apply readSteps?_late started
      intro reading shape
      exact late _ _ (read?_eq_some_iff.mpr ⟨reading, shape, rfl, rfl⟩)
    exact ⟨inlet.expire (some latest), by simp only [read?, nothing], rfl⟩

/-- A read that completes is the one of the stream without delays. -/
theorem read?_untimed
    {latest : Option Nat}
    {room : Nat}
    {inlet rest : TimedInlet}
    {reply : Except HostError Bytes}
    (completed : inlet.read? latest room = (some reply, rest)) :
    inlet.untimed.read room = (reply, rest.untimed) := by
  obtain ⟨⟨answer, moment, later⟩, shape, rfl, rfl⟩ :=
    read?_eq_some_iff.mp completed
  obtain ⟨same, -⟩ := readSteps?_untimed shape
  cases answer with
  | error error => simp only [Inlet.read, untimed, same]
  | ok piece => simp only [Inlet.read, untimed, same]

theorem patient_read (room : Nat) : Patient (read? · room) (Inlet.read room) := by
  intro inlet rest reply completed
  refine ⟨read?_untimed completed, ?_⟩
  obtain ⟨reading, shape, -, rfl⟩ := read?_eq_some_iff.mp completed
  obtain ⟨-, waited⟩ := readSteps?_untimed shape
  exact ⟨moment_readSteps? shape, waited⟩

/-- What completes under a deadline is what a patient operation completes. -/
theorem Punctual.sound
    {β : Type}
    {operation : Option Nat → TimedInlet → Option β × TimedInlet}
    (punctual : Punctual operation)
    {latest : Nat}
    {inlet rest : TimedInlet}
    {reply : β}
    (started : inlet.clock ≤ latest)
    (completed : operation (some latest) inlet = (some reply, rest)) :
    operation none inlet = (some reply, rest) ∧ rest.clock ≤ latest := by
  by_cases soon :
      ∃ found after,
        operation none inlet = (some found, after) ∧ after.clock ≤ latest
  · rcases soon with ⟨found, after, patient, inTime⟩
    have same := punctual.inTime patient inTime
    rw [completed] at same
    cases same
    exact ⟨patient, inTime⟩
  · have late :
        ∀ found after,
          operation none inlet = (some found, after) → latest < after.clock := by
      intro found after patient
      exact Nat.lt_of_not_le fun early => soon ⟨found, after, patient, early⟩
    obtain ⟨after, nothing, -⟩ := punctual.late started late
    rw [completed] at nothing
    cases nothing

/-- What does not complete under a deadline would complete later, if at all. -/
theorem Punctual.cut
    {β : Type}
    {operation : Option Nat → TimedInlet → Option β × TimedInlet}
    (punctual : Punctual operation)
    {latest : Nat}
    {inlet rest : TimedInlet}
    (started : inlet.clock ≤ latest)
    (stopped : operation (some latest) inlet = (none, rest)) :
    rest.clock = latest ∧
      ∀ reply after,
        operation none inlet = (some reply, after) → latest < after.clock := by
  have late :
      ∀ reply after,
        operation none inlet = (some reply, after) → latest < after.clock := by
    intro reply after patient
    apply Nat.lt_of_not_le
    intro early
    rw [punctual.inTime patient early] at stopped
    cases stopped
  obtain ⟨after, nothing, reached⟩ := punctual.late started late
  rw [stopped] at nothing
  cases nothing
  exact ⟨reached, late⟩

/-!
## One piece, whatever interrupts it
-/

theorem readSome?_eq
    (latest : Option Nat)
    (room : Nat)
    (inlet : TimedInlet) :
    inlet.readSome? latest room =
      match inlet.read? latest room with
      | (none, rest) => (none, rest)
      | (some (.ok piece), rest) => (some (.ok piece), rest)
      | (some (.error error), rest) =>
          if error.isInterrupted then rest.readSome? latest room
          else (some (.error error), rest) := by
  rw [readSome?]
  split <;> simp only [*]

theorem patient_readSome (room : Nat) :
    Patient (readSome? · room) (Inlet.readSome room) := by
  intro inlet rest reply completed
  change inlet.readSome? none room = (some reply, rest) at completed
  fun_induction readSome? none room inlet with
  | case1 inlet after reads => cases completed
  | case2 inlet piece after reads =>
      cases completed
      obtain ⟨same, waited⟩ := patient_read room reads
      exact ⟨by rw [Inlet.readSome_eq, same], waited⟩
  | case3 inlet error after reads interrupted ih =>
      obtain ⟨same, waited⟩ := patient_read room reads
      obtain ⟨later, further⟩ := ih completed
      refine ⟨?_, waited.trans further⟩
      rw [Inlet.readSome_eq, same]
      simpa only [interrupted, if_true] using later
  | case4 inlet error after reads final =>
      cases completed
      obtain ⟨same, waited⟩ := patient_read room reads
      refine ⟨?_, waited⟩
      rw [Inlet.readSome_eq, same]
      simp only [final, if_false, Bool.false_eq_true]

theorem punctual_readSome (room : Nat) : Punctual (readSome? · room) where
  inTime := by
    intro latest inlet rest reply completed inTime
    fun_induction readSome? none room inlet with
    | case1 inlet after reads => cases completed
    | case2 inlet piece after reads =>
        cases completed
        rw [readSome?_eq, (punctual_read room).inTime reads inTime]
    | case3 inlet error after reads interrupted ih =>
        obtain ⟨-, waited⟩ := patient_readSome room completed
        rw [readSome?_eq, (punctual_read room).inTime reads
          (Nat.le_trans waited.forward inTime)]
        simp only [interrupted, if_true, ih completed]
    | case4 inlet error after reads final =>
        cases completed
        rw [readSome?_eq, (punctual_read room).inTime reads inTime]
        simp only [final, if_false, Bool.false_eq_true]
  late := by
    intro latest inlet started late
    fun_induction readSome? (some latest) room inlet with
    | case1 inlet after reads =>
        exact ⟨after, rfl, ((punctual_read room).cut started reads).1⟩
    | case2 inlet piece after reads =>
        obtain ⟨patient, early⟩ := (punctual_read room).sound started reads
        have beyond := late (.ok piece) after (by rw [readSome?_eq, patient])
        omega
    | case3 inlet error after reads interrupted ih =>
        obtain ⟨patient, early⟩ := (punctual_read room).sound started reads
        refine ih early fun reply rest completed => late reply rest ?_
        rw [readSome?_eq, patient]
        simpa only [interrupted, if_true] using completed
    | case4 inlet error after reads final =>
        obtain ⟨patient, early⟩ := (punctual_read room).sound started reads
        have beyond := late (.error error) after (by
          rw [readSome?_eq, patient]
          simp only [final, if_false, Bool.false_eq_true])
        omega

/-!
## A field of known length
-/

theorem fill?_eq
    (latest : Option Nat)
    (missing : Nat)
    (inlet : TimedInlet) :
    inlet.fill? latest missing =
      if missing = 0 then (some ([], none), inlet)
      else
        match inlet.read? latest missing with
        | (none, rest) => (none, rest)
        | (some (.ok []), rest) => (some ([], some .ended), rest)
        | (some (.ok (octet :: others)), rest) =>
            match rest.fill? latest (missing - (others.length + 1)) with
            | (found, last) =>
                (found.map fun (more, stop) => (octet :: others ++ more, stop),
                  last)
        | (some (.error error), rest) =>
            if error.isInterrupted then rest.fill? latest missing
            else (some ([], some (.failed error)), rest) := by
  rw [fill?]
  split
  · rfl
  · split <;> simp only [*]

/-- A field that is read to its end is the one of the stream without delays. -/
theorem fill?_untimed
    {latest : Option Nat}
    {missing : Nat}
    {inlet rest : TimedInlet}
    {found : Bytes × Option Inlet.Stop}
    (completed : inlet.fill? latest missing = (some found, rest)) :
    inlet.untimed.fill missing = (found, rest.untimed) := by
  fun_induction fill? latest missing inlet generalizing found rest with
  | case1 inlet =>
      cases completed
      rw [Inlet.fill_eq, if_pos rfl]
  | case2 missing inlet positive after reads => cases completed
  | case3 missing inlet positive after reads =>
      cases completed
      rw [Inlet.fill_eq, if_neg positive, read?_untimed reads]
  | case4 missing inlet positive octet others after reads deeper last filled ih =>
      cases deeper with
      | none => cases completed
      | some deeper =>
          cases completed
          rw [Inlet.fill_eq, if_neg positive, read?_untimed reads]
          simp only [ih filled]
  | case5 missing inlet positive error after reads interrupted ih =>
      rw [Inlet.fill_eq, if_neg positive, read?_untimed reads]
      simpa only [interrupted, if_true] using ih completed
  | case6 missing inlet positive error after reads final =>
      cases completed
      rw [Inlet.fill_eq, if_neg positive, read?_untimed reads]
      simp only [final, if_false, Bool.false_eq_true]

theorem patient_fill (missing : Nat) :
    Patient (fill? · missing) (Inlet.fill missing) := by
  intro inlet rest found completed
  change inlet.fill? none missing = (some found, rest) at completed
  refine ⟨fill?_untimed completed, ?_⟩
  fun_induction fill? none missing inlet generalizing found rest with
  | case1 inlet =>
      cases completed
      exact .refl _
  | case2 missing inlet positive after reads => cases completed
  | case3 missing inlet positive after reads =>
      cases completed
      exact (patient_read missing reads).2
  | case4 missing inlet positive octet others after reads deeper last filled ih =>
      cases deeper with
      | none => cases completed
      | some deeper =>
          cases completed
          exact (patient_read missing reads).2.trans (ih filled)
  | case5 missing inlet positive error after reads interrupted ih =>
      exact (patient_read missing reads).2.trans (ih completed)
  | case6 missing inlet positive error after reads final =>
      cases completed
      exact (patient_read missing reads).2

theorem punctual_fill (missing : Nat) : Punctual (fill? · missing) where
  inTime := by
    intro latest inlet rest found completed inTime
    fun_induction fill? none missing inlet generalizing found rest with
    | case1 inlet => rw [fill?_eq, if_pos rfl, completed]
    | case2 missing inlet positive after reads => cases completed
    | case3 missing inlet positive after reads =>
        cases completed
        rw [fill?_eq, if_neg positive, (punctual_read missing).inTime reads inTime]
    | case4 missing inlet positive octet others after reads deeper last filled ih =>
        cases deeper with
        | none => cases completed
        | some deeper =>
            cases completed
            obtain ⟨-, waited⟩ := patient_fill _ filled
            rw [fill?_eq, if_neg positive, (punctual_read missing).inTime reads
              (Nat.le_trans waited.forward inTime)]
            simp only [ih filled inTime]
            rfl
    | case5 missing inlet positive error after reads interrupted ih =>
        obtain ⟨-, waited⟩ := patient_fill missing completed
        rw [fill?_eq, if_neg positive, (punctual_read missing).inTime reads
          (Nat.le_trans waited.forward inTime)]
        simp only [interrupted, if_true, ih completed inTime]
    | case6 missing inlet positive error after reads final =>
        cases completed
        rw [fill?_eq, if_neg positive, (punctual_read missing).inTime reads inTime]
        simp only [final, if_false, Bool.false_eq_true]
  late := by
    intro latest inlet started late
    fun_induction fill? (some latest) missing inlet with
    | case1 inlet =>
        have beyond := late ([], none) inlet (by rw [fill?_eq, if_pos rfl])
        omega
    | case2 missing inlet positive after reads =>
        exact ⟨after, rfl, ((punctual_read missing).cut started reads).1⟩
    | case3 missing inlet positive after reads =>
        obtain ⟨patient, early⟩ := (punctual_read missing).sound started reads
        have beyond := late ([], some .ended) after
          (by rw [fill?_eq, if_neg positive, patient])
        omega
    | case4 missing inlet positive octet others after reads deeper last filled ih =>
        obtain ⟨patient, early⟩ := (punctual_read missing).sound started reads
        obtain ⟨rest, nothing, reached⟩ := ih early (by
          intro found rest completed
          refine late (octet :: others ++ found.1, found.2) rest ?_
          rw [fill?_eq, if_neg positive, patient]
          simp only [completed]
          rfl)
        rw [filled] at nothing
        cases nothing
        exact ⟨last, rfl, reached⟩
    | case5 missing inlet positive error after reads interrupted ih =>
        obtain ⟨patient, early⟩ := (punctual_read missing).sound started reads
        refine ih early fun found rest completed => late found rest ?_
        rw [fill?_eq, if_neg positive, patient]
        simpa only [interrupted, if_true] using completed
    | case6 missing inlet positive error after reads final =>
        obtain ⟨patient, early⟩ := (punctual_read missing).sound started reads
        have beyond := late ([], some (.failed error)) after (by
          rw [fill?_eq, if_neg positive, patient]
          simp only [final, if_false, Bool.false_eq_true])
        omega

/-!
## Operations under a deadline
-/

/-- Reading a reply differently does not affect what a deadline does. -/
theorem Punctual.map
    {β γ : Type}
    {operation : Option Nat → TimedInlet → Option β × TimedInlet}
    (punctual : Punctual operation)
    (reading : β → γ) :
    Punctual fun latest inlet =>
      ((operation latest inlet).1.map reading, (operation latest inlet).2) where
  inTime := by
    intro latest inlet rest reply completed inTime
    simp only [Prod.mk.injEq, Option.map_eq_some_iff] at completed
    rcases completed with ⟨⟨found, replied, rfl⟩, rfl⟩
    rw [punctual.inTime (Prod.ext replied rfl) inTime]
    rfl
  late := by
    intro latest inlet started late
    obtain ⟨rest, nothing, reached⟩ :=
      punctual.late started fun reply rest completed =>
        late (reading reply) rest (by simp [completed])
    exact ⟨rest, by simp [nothing], reached⟩

theorem Patient.map
    {β γ : Type}
    {operation : Option Nat → TimedInlet → Option β × TimedInlet}
    {instant : Inlet → β × Inlet}
    (patient : Patient operation instant)
    (reading : β → γ) :
    Patient
      (fun latest inlet =>
        ((operation latest inlet).1.map reading, (operation latest inlet).2))
      (fun inlet => (reading (instant inlet).1, (instant inlet).2)) := by
  intro inlet rest reply completed
  simp only [Prod.mk.injEq, Option.map_eq_some_iff] at completed
  rcases completed with ⟨⟨found, replied, rfl⟩, rfl⟩
  obtain ⟨same, waited⟩ := patient (Prod.ext replied rfl)
  exact ⟨by simp only [same], waited⟩

/-- An operation that completes within its time is the patient one. -/
theorem within_in_time
    {β : Type}
    {operation :
      Option Nat → TimedInlet → Option (Except Fault β) × TimedInlet}
    (punctual : Punctual operation)
    {step : String}
    {milliseconds : Nat}
    {inlet rest : TimedInlet}
    {reply : Except Fault β}
    (completed : operation none inlet = (some reply, rest))
    (inTime : rest.clock ≤ inlet.clock + milliseconds) :
    within step milliseconds TimedInlet.clock operation inlet = (reply, rest) := by
  rw [within, punctual.inTime completed inTime]

/-- An operation that would take longer than its time ends when that is over. -/
theorem within_late
    {β : Type}
    {operation :
      Option Nat → TimedInlet → Option (Except Fault β) × TimedInlet}
    (punctual : Punctual operation)
    (step : String)
    {milliseconds : Nat}
    {inlet : TimedInlet}
    (late :
      ∀ reply rest,
        operation none inlet = (some reply, rest) →
          inlet.clock + milliseconds < rest.clock) :
    ∃ rest,
      within step milliseconds TimedInlet.clock operation inlet =
          (.error (.timeout step milliseconds), rest) ∧
        rest.clock = inlet.clock + milliseconds := by
  obtain ⟨rest, nothing, reached⟩ := punctual.late (by omega) late
  exact ⟨rest, by rw [within, nothing], reached⟩

theorem punctual_readExact (length : Nat) : Punctual (readExact? · length) :=
  (punctual_fill length).map (Inlet.exactly length)

theorem patient_readExact (length : Nat) :
    Patient (readExact? · length) (Inlet.readExact length) :=
  (patient_fill length).map (Inlet.exactly length)

end TimedInlet

end FileTransfer
