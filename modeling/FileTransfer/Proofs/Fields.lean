import FileTransfer.Proofs.Chunking
import FileTransfer.Proofs.Patience

namespace FileTransfer

/-!
# A field of known length

What reading a field yields is decided by what the stream delivers before its first end
or failure, and by nothing else (`Inlet.readExact_congr`).  If that is enough, the field
is the front of it, and whatever the script holds behind these octets is neither looked
at nor changed (`Inlet.readExact_followedBy`).

On a clock a field is read as without one.  A read that never stalls ends
(`TimedInlet.readExact?_flows`), and one that is cut off has taken less than the field
(`TimedInlet.readExact?_cut`).
-/

namespace Inlet

/-!
## Behind the field
-/

/-- The same stream with something more behind all that it has to deliver. -/
def followedBy (inlet : Inlet) (behind : List Step) : Inlet :=
  { inlet with steps := inlet.steps ++ behind }

/-- A read that finds something before the script ends finds it whatever is behind. -/
theorem readSteps_append
    {amount : Nat}
    {steps rest : List Step}
    {reply : Except HostError Bytes}
    (found : readSteps amount steps = (reply, rest))
    (shows : reply ≠ .ok [])
    (behind : List Step) :
    readSteps amount (steps ++ behind) = (reply, rest ++ behind) := by
  fun_induction readSteps amount steps with
  | case1 =>
      cases found
      exact absurd rfl shows
  | case2 more ih =>
      rw [List.cons_append, readSteps]
      exact ih found
  | case3 bytes more nonempty left =>
      cases found
      obtain ⟨octet, others, rfl⟩ := List.exists_cons_of_ne_nil nonempty
      rw [List.cons_append, readSteps]
      · split <;> rfl
      · simp
  | case4 error more =>
      cases found
      rfl
  | case5 more =>
      cases found
      exact absurd rfl shows

theorem read_followedBy
    {room : Nat}
    {inlet rest : Inlet}
    {reply : Except HostError Bytes}
    (found : inlet.read room = (reply, rest))
    (shows : reply ≠ .ok [])
    (behind : List Step) :
    (inlet.followedBy behind).read room = (reply, rest.followedBy behind) := by
  simp only [read, Prod.mk.injEq] at found
  rcases found with ⟨replied, rfl⟩
  have same := readSteps_append (Prod.ext replied rfl) shows behind
  simp only [followedBy, read, same, replied]

/-- A field that is filled is filled whatever is behind it. -/
theorem fill_followedBy
    {missing : Nat}
    {inlet rest : Inlet}
    {bytes : Bytes}
    (found : inlet.fill missing = ((bytes, none), rest))
    (behind : List Step) :
    (inlet.followedBy behind).fill missing =
      ((bytes, none), rest.followedBy behind) := by
  fun_induction fill missing inlet generalizing bytes rest with
  | case1 inlet =>
      cases found
      rw [fill_eq, if_pos rfl]
  | case2 => cases found
  | case3 missing inlet positive octet others after reads more stop last deeper ih =>
      cases found
      rw [fill_eq, if_neg positive, read_followedBy reads (by simp)]
      simp only [ih deeper]
  | case4 missing inlet positive error after reads interrupted ih =>
      rw [fill_eq, if_neg positive, read_followedBy reads (by simp)]
      simpa only [interrupted, if_true] using ih found
  | case5 => cases found

/-- A field that is read is read whatever is behind it, and leaves that as it is. -/
theorem readExact_followedBy
    {length : Nat}
    {inlet rest : Inlet}
    {bytes : Bytes}
    (found : inlet.readExact length = (.ok bytes, rest))
    (behind : List Step) :
    (inlet.followedBy behind).readExact length =
      (.ok bytes, rest.followedBy behind) := by
  rcases filled : inlet.fill length with ⟨⟨delivered, _ | _ | error⟩, after⟩
  · simp only [readExact, filled, exactly] at found
    cases found
    simp only [readExact, fill_followedBy filled, exactly]
  · simp [readExact, filled, exactly] at found
  · simp [readExact, filled, exactly] at found

/-!
## Only what is delivered counts
-/

theorem readExact_zero (inlet : Inlet) : inlet.readExact 0 = (.ok [], inlet) := by
  rw [readExact, fill_eq, if_pos rfl]
  rfl

/-- Streams that deliver the same octets up to the same stop yield the same fields. -/
theorem readExact_congr
    {first second : Inlet}
    (sameWire : first.wire = second.wire)
    (sameStart : first.consumed = second.consumed)
    (length : Nat) :
    (first.readExact length).1 = (second.readExact length).1 ∧
      (first.readExact length).2.consumed = (second.readExact length).2.consumed := by
  rcases Nat.lt_or_ge first.wire.bytes.length length with short | enough
  · obtain ⟨rest, found, consumed⟩ := readExact_of_lt short
    obtain ⟨other, replied, taken⟩ := readExact_of_lt (sameWire ▸ short)
    rw [found, replied, sameWire]
    exact ⟨rfl, by rw [consumed, taken, sameWire, sameStart]⟩
  · obtain ⟨rest, found, -, consumed⟩ := readExact_of_le enough
    obtain ⟨other, replied, -, taken⟩ := readExact_of_le (sameWire ▸ enough)
    rw [found, replied, sameWire]
    exact ⟨rfl, by rw [consumed, taken, sameStart]⟩

end Inlet

/-!
## Against a clock
-/

namespace TimedInlet

/-- A read that does not complete leaves the stream as it was. -/
theorem untimed_read?
    {latest : Option Nat}
    {room : Nat}
    {inlet rest : TimedInlet}
    (stopped : inlet.read? latest room = (none, rest)) :
    rest.untimed = inlet.untimed := by
  unfold read? at stopped
  split at stopped
  case h_1 =>
    cases stopped
    rfl
  case h_2 => cases stopped

/-- A field that is cut off was not read to its end, and nothing of it is lost. -/
theorem fill?_cut
    {latest : Option Nat}
    {missing : Nat}
    {inlet rest : TimedInlet}
    (stopped : inlet.fill? latest missing = (none, rest)) :
    ∃ bytes, bytes.length < missing ∧
      Inlet.Advanced inlet.untimed bytes rest.untimed := by
  fun_induction fill? latest missing inlet generalizing rest with
  | case1 => cases stopped
  | case2 missing inlet positive after reads =>
      cases stopped
      refine ⟨[], Nat.pos_of_ne_zero positive, ?_⟩
      rw [untimed_read? reads]
      exact .refl _
  | case3 => cases stopped
  | case4 missing inlet positive octet others after reads deeper last filled ih =>
      cases deeper with
      | some found => cases stopped
      | none =>
          cases stopped
          obtain ⟨bytes, less, later⟩ := ih filled
          obtain ⟨short, earlier⟩ :=
            Inlet.read_piece (Nat.pos_of_ne_zero positive) (read?_untimed reads) (by simp)
          refine ⟨_, ?_, earlier.trans later⟩
          simp only [List.length_append, List.length_cons] at short ⊢
          omega
  | case5 missing inlet positive error after reads interrupted ih =>
      obtain ⟨bytes, less, later⟩ := ih stopped
      have earlier :=
        Inlet.read_interrupted (Nat.pos_of_ne_zero positive) (read?_untimed reads)
          interrupted
      exact ⟨bytes, less, earlier.trans later⟩
  | case6 => cases stopped

theorem readExact?_cut
    {latest : Option Nat}
    {length : Nat}
    {inlet rest : TimedInlet}
    (stopped : inlet.readExact? latest length = (none, rest)) :
    ∃ bytes, bytes.length < length ∧
      Inlet.Advanced inlet.untimed bytes rest.untimed := by
  simp only [readExact?, Prod.mk.injEq, Option.map_eq_none_iff] at stopped
  exact fill?_cut (Prod.ext stopped.1 stopped.2)

/-- A field that is read is the one of the stream without delays. -/
theorem readExact?_untimed
    {latest : Option Nat}
    {length : Nat}
    {inlet rest : TimedInlet}
    {reply : Except Fault Bytes}
    (completed : inlet.readExact? latest length = (some reply, rest)) :
    inlet.untimed.readExact length = (reply, rest.untimed) := by
  simp only [readExact?, Prod.mk.injEq, Option.map_eq_some_iff] at completed
  rcases completed with ⟨⟨found, filled, rfl⟩, rfl⟩
  rw [Inlet.readExact, fill?_untimed (Prod.ext filled rfl)]

theorem readSteps?_flows
    {steps : List (Timed Inlet.Step)}
    (flows : .stall ∉ steps)
    (amount moment : Nat) :
    ∃ reading,
      readSteps? none amount moment steps = some reading ∧
        .stall ∉ reading.rest := by
  fun_induction readSteps? none amount moment steps with
  | case1 => exact ⟨_, rfl, flows⟩
  | case2 moment milliseconds more late => cases late
  | case3 moment milliseconds more early ih =>
      exact ih (List.not_mem_of_not_mem_cons flows)
  | case4 => exact absurd List.mem_cons_self flows
  | case5 moment more ih => exact ih (List.not_mem_of_not_mem_cons flows)
  | case6 moment bytes more nonempty rest =>
      refine ⟨_, rfl, ?_⟩
      have further := List.not_mem_of_not_mem_cons flows
      split
      · exact further
      · simpa using further
  | case7 => exact ⟨_, rfl, List.not_mem_of_not_mem_cons flows⟩
  | case8 => exact ⟨_, rfl, List.not_mem_of_not_mem_cons flows⟩

theorem read?_flows
    {room : Nat}
    {inlet rest : TimedInlet}
    {reply : Option (Except HostError Bytes)}
    (flows : .stall ∉ inlet.steps)
    (found : inlet.read? none room = (reply, rest)) :
    reply ≠ none ∧ .stall ∉ rest.steps := by
  obtain ⟨reading, replied, further⟩ :=
    readSteps?_flows flows (capped inlet.limit room) inlet.clock
  rw [read?, replied] at found
  cases found
  exact ⟨by simp, further⟩

theorem fill?_flows
    {missing : Nat}
    {inlet rest : TimedInlet}
    {found : Option (Bytes × Option Inlet.Stop)}
    (flows : .stall ∉ inlet.steps)
    (filled : inlet.fill? none missing = (found, rest)) :
    found ≠ none := by
  fun_induction fill? none missing inlet generalizing found rest with
  | case1 =>
      cases filled
      simp
  | case2 missing inlet positive after reads =>
      exact absurd rfl (read?_flows flows reads).1
  | case3 =>
      cases filled
      simp
  | case4 missing inlet positive octet others after reads deeper last further ih =>
      cases filled
      simpa using ih (read?_flows flows reads).2 further
  | case5 missing inlet positive error after reads interrupted ih =>
      exact ih (read?_flows flows reads).2 filled
  | case6 =>
      cases filled
      simp

/-- A field of a stream that never stalls is read until there is a reply. -/
theorem readExact?_flows
    {length : Nat}
    {inlet rest : TimedInlet}
    {reply : Option (Except Fault Bytes)}
    (flows : .stall ∉ inlet.steps)
    (found : inlet.readExact? none length = (reply, rest)) :
    reply ≠ none := by
  rcases filled : inlet.fill? none length with ⟨field, after⟩
  simp only [readExact?, filled, Prod.mk.injEq] at found
  rcases found with ⟨rfl, rfl⟩
  simpa using fill?_flows flows filled

end TimedInlet

/--
Reading a field of known length, for every stream with and without a clock.  If the
stream delivers enough before it first ends or fails, the field is the front of that,
exactly so many octets are taken, and what follows them in the script is left as it is,
be it a stop.  Otherwise the fault tells what stopped the stream, and after how many
octets.  For an empty field the stream is not touched, and interruptions change neither
the outcome nor what is taken.  On a clock the outcome is the same, unless a deadline or a
stall cuts the reading off before the last octet of the field.
-/
theorem readExact_exact (length : Nat) :
    (∀ inlet : Inlet,
        let run := inlet.readExact length
        let wire := inlet.wire
        (length ≤ wire.bytes.length →
            run.1 = .ok (wire.bytes.take length) ∧
              (wire.bytes.take length).length = length ∧
              run.2.consumed = inlet.consumed + length ∧
              run.2.wire = wire.drop length ∧
              ∀ behind,
                (inlet.followedBy behind).readExact length =
                  (run.1, run.2.followedBy behind)) ∧
          (wire.bytes.length < length →
            run.1 =
                .error
                  (match wire.stop with
                  | .ended => .unexpectedEof wire.bytes.length length
                  | .failed error => .host "read" error) ∧
              run.2.consumed = inlet.consumed + wire.bytes.length) ∧
          (length = 0 → run.2 = inlet) ∧
          let calm := inlet.uninterrupted.readExact length
          calm.1 = run.1 ∧ calm.2.consumed = run.2.consumed) ∧
      ∀ (inlet : TimedInlet) (latest : Option Nat),
        let run := inlet.readExact? latest length
        (∀ reply,
            run.1 = some reply →
            inlet.untimed.readExact length = (reply, run.2.untimed)) ∧
          (latest = none → .stall ∉ inlet.steps → run.1 ≠ none) ∧
          (run.1 = none →
            ∃ bytes,
              bytes.length < length ∧
                run.2.consumed = inlet.consumed + bytes.length ∧
                inlet.untimed.wire = run.2.untimed.wire.after bytes) := by
  constructor
  · intro inlet run wire
    refine ⟨?_, ?_, ?_, ?_⟩
    · intro enough
      obtain ⟨rest, found, left, consumed⟩ := Inlet.readExact_of_le enough
      simp only [run, wire, found, true_and]
      exact ⟨List.length_take_of_le enough, consumed, left,
        Inlet.readExact_followedBy found⟩
    · intro short
      obtain ⟨rest, found, consumed⟩ := Inlet.readExact_of_lt short
      simp only [run, found]
      exact ⟨by cases inlet.wire.stop <;> rfl, consumed⟩
    · rintro rfl
      simp only [run, Inlet.readExact_zero]
    · exact Inlet.readExact_congr (Inlet.undisturbed_uninterrupted inlet).wire rfl length
  · intro inlet latest run
    refine ⟨?_, ?_, ?_⟩
    · intro reply replied
      exact TimedInlet.readExact?_untimed (Prod.ext replied rfl)
    · rintro rfl flows
      exact TimedInlet.readExact?_flows flows (Prod.eta (inlet.readExact? none length)).symm
    · intro stopped
      obtain ⟨bytes, less, wire, consumed⟩ :=
        TimedInlet.readExact?_cut (Prod.ext stopped rfl)
      exact ⟨bytes, less, consumed, wire⟩

/-- The failure behind a field is left to whoever reads on. -/
example :
    let steps : List Inlet.Step :=
      [.data [1], .failure (.ofKind .interrupted), .data [2, 3],
        .failure (.ofKind .connectionReset)]
    let run := (Inlet.ofSteps steps none).readExact 3
    run.1 = .ok [1, 2, 3] ∧ run.2.consumed = 3 ∧
      run.2.steps = [.failure (.ofKind .connectionReset)] := by
  cbv

end FileTransfer
