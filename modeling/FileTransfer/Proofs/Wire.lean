import FileTransfer.Stream.Inlet

namespace FileTransfer

/-!
# What a stream delivers altogether

The script of an inlet cuts what it delivers into runs, interrupts reads, and
limits them.  A `Wire` forgets all of this: it holds the octets that come before
the first end or failure of the stream, and that end or failure.

The reading loops see no more than the wire.  `readSome` takes a part of it off
its front (`readSome_piece`) or finds what stops it, and `readExact` takes
exactly the field it was asked for (`readExact_of_le`, `readExact_of_lt`).
-/

/-- All octets that a stream delivers, and what stops it then. -/
structure Wire where
  bytes : Bytes
  stop : Inlet.Stop
  deriving Repr, DecidableEq

namespace Wire

/-- A stream that has nothing to deliver. -/
def stopped (stop : Inlet.Stop) : Wire where
  bytes := []
  stop := stop

/-- A stream that first delivers some more octets. -/
def after (front : Bytes) (wire : Wire) : Wire where
  bytes := front ++ wire.bytes
  stop := wire.stop

/-- A stream without the first octets it delivers. -/
def drop (count : Nat) (wire : Wire) : Wire where
  bytes := wire.bytes.drop count
  stop := wire.stop

@[simp] theorem after_nil (wire : Wire) : wire.after [] = wire := rfl

theorem after_append (first second : Bytes) (wire : Wire) :
    wire.after (first ++ second) = (wire.after second).after first := by
  simp [after]

@[simp] theorem bytes_after (front : Bytes) (wire : Wire) :
    (wire.after front).bytes = front ++ wire.bytes := rfl

@[simp] theorem stop_after (front : Bytes) (wire : Wire) :
    (wire.after front).stop = wire.stop := rfl

/-- What follows octets that were delivered first is found behind them. -/
theorem drop_after (front : Bytes) (wire : Wire) :
    (wire.after front).drop front.length = wire := by
  simp [after, drop]

end Wire

namespace Inlet

/-- Why a field of `expected` octets was not read to its end after `got` of them. -/
def Stop.fault (got expected : Nat) : Stop → Fault
  | .ended => .unexpectedEof got expected
  | .failed error => .host "read" error

/--
What a script delivers altogether.  A stream of which a read moves nothing has
ended as soon as it has something to deliver.
-/
def wireOf (limit : Option Nat) : List Step → Wire
  | [] => .stopped .ended
  | .data bytes :: more =>
      if bytes ≠ [] ∧ limit = some 0 then .stopped .ended
      else (wireOf limit more).after bytes
  | .failure error :: more =>
      if error.isInterrupted then wireOf limit more
      else .stopped (.failed error)
  | .close :: _ => .stopped .ended

/-- What an inlet still delivers altogether. -/
def wire (inlet : Inlet) : Wire :=
  wireOf inlet.limit inlet.steps

theorem capped_pos
    {limit : Option Nat}
    {room : Nat}
    (positive : 0 < room)
    (moves : limit ≠ some 0) :
    0 < capped limit room := by
  cases limit with
  | none => exact positive
  | some most =>
      have apart : most ≠ 0 := fun zero => moves (by rw [zero])
      simp only [capped]
      omega

theorem capped_zero (room : Nat) : capped (some 0) room = 0 := by
  simp [capped]

/-- How the first reply of a script shows in what the script delivers. -/
theorem wireOf_readSteps
    {room : Nat}
    (limit : Option Nat)
    (positive : 0 < room)
    (steps : List Step) :
    match readSteps (capped limit room) steps with
    | (.ok [], _) => wireOf limit steps = .stopped .ended
    | (.ok piece, rest) =>
        piece.length ≤ room ∧
          wireOf limit steps = (wireOf limit rest).after piece
    | (.error error, rest) =>
        wireOf limit steps =
          if error.isInterrupted then wireOf limit rest
          else .stopped (.failed error) := by
  generalize shape : capped limit room = amount
  fun_induction readSteps amount steps with
  | case1 => rfl
  | case2 more ih => simpa [wireOf] using ih
  | case3 bytes more nonempty rest =>
      have filled : bytes ≠ [] := fun empty => nonempty (by rw [empty])
      by_cases idle : limit = some 0
      · subst idle
        rw [capped_zero] at shape
        subst shape
        simp [wireOf, filled]
      · have some_room : 0 < amount := shape ▸ capped_pos positive idle
        have most : amount ≤ room := shape ▸ capped_le limit room
        cases bytes with
        | nil => exact absurd rfl filled
        | cons octet others =>
            obtain ⟨less, rfl⟩ : ∃ less, amount = less + 1 :=
              ⟨amount - 1, by omega⟩
            simp only [List.take_succ_cons, rest, List.drop_succ_cons]
            constructor
            · simp only [List.length_cons, List.length_take]
              omega
            · by_cases whole : others.drop less = []
              · simp [wireOf, idle, whole,
                  List.take_of_length_le (List.drop_eq_nil_iff.mp whole)]
              · simp [wireOf, idle, whole, Wire.after, ← List.append_assoc]
  | case4 error more => simp [wireOf]
  | case5 more => rfl

/-- An inlet from which some octets were read in a row. -/
structure Advanced (inlet : Inlet) (bytes : Bytes) (rest : Inlet) : Prop where
  wire : inlet.wire = rest.wire.after bytes
  consumed : rest.consumed = inlet.consumed + bytes.length

/-- An inlet from which all octets were read that it had to deliver. -/
structure Exhausted
    (inlet : Inlet)
    (bytes : Bytes)
    (stop : Stop)
    (rest : Inlet) :
    Prop where
  wire : inlet.wire = ⟨bytes, stop⟩
  consumed : rest.consumed = inlet.consumed + bytes.length

namespace Advanced

theorem refl (inlet : Inlet) : Advanced inlet [] inlet :=
  ⟨rfl, rfl⟩

theorem trans
    {first second third : Inlet}
    {front back : Bytes}
    (earlier : Advanced first front second)
    (later : Advanced second back third) :
    Advanced first (front ++ back) third where
  wire := by rw [earlier.wire, later.wire, Wire.after_append]
  consumed := by
    rw [later.consumed, earlier.consumed, List.length_append]
    omega

theorem exhausted
    {first second third : Inlet}
    {front back : Bytes}
    {stop : Stop}
    (earlier : Advanced first front second)
    (later : Exhausted second back stop third) :
    Exhausted first (front ++ back) stop third where
  wire := by rw [earlier.wire, later.wire, Wire.after]
  consumed := by
    rw [later.consumed, earlier.consumed, List.length_append]
    omega

end Advanced

/-!
## One read
-/

/-- What a reply to a read of at most `room` octets says about the stream. -/
def Replied (room : Nat) (inlet rest : Inlet) : Except HostError Bytes → Prop
  | .ok [] => Exhausted inlet [] .ended rest
  | .ok piece => piece.length ≤ room ∧ Advanced inlet piece rest
  | .error error =>
      if error.isInterrupted then Advanced inlet [] rest
      else Exhausted inlet [] (.failed error) rest

/-- Every read replies what the stream as a whole has to deliver next. -/
theorem replied_of_read
    {room : Nat}
    {inlet rest : Inlet}
    {reply : Except HostError Bytes}
    (positive : 0 < room)
    (found : inlet.read room = (reply, rest)) :
    Replied room inlet rest reply := by
  simp only [read, Prod.mk.injEq] at found
  rcases found with ⟨rfl, rfl⟩
  have law := wireOf_readSteps inlet.limit positive inlet.steps
  generalize readSteps (capped inlet.limit room) inlet.steps = answer at law ⊢
  rcases answer with ⟨reply, later⟩
  cases reply with
  | error error =>
      simp only [Replied]
      simp only at law
      split at law
      case isTrue interrupted =>
        rw [if_pos interrupted]
        exact ⟨law, rfl⟩
      case isFalse final =>
        rw [if_neg final]
        exact ⟨law, rfl⟩
  | ok piece =>
      cases piece with
      | nil => exact ⟨law, rfl⟩
      | cons octet others => exact ⟨law.1, law.2, rfl⟩

theorem read_piece
    {room : Nat}
    {inlet rest : Inlet}
    {piece : Bytes}
    (positive : 0 < room)
    (found : inlet.read room = (.ok piece, rest))
    (nonempty : piece ≠ []) :
    piece.length ≤ room ∧ Advanced inlet piece rest := by
  cases piece with
  | nil => exact absurd rfl nonempty
  | cons octet others => exact replied_of_read positive found

theorem read_interrupted
    {room : Nat}
    {inlet rest : Inlet}
    {error : HostError}
    (positive : 0 < room)
    (found : inlet.read room = (.error error, rest))
    (interrupted : error.isInterrupted) :
    Advanced inlet [] rest := by
  have law := replied_of_read positive found
  rwa [Replied, if_pos interrupted] at law

theorem read_failed
    {room : Nat}
    {inlet rest : Inlet}
    {error : HostError}
    (positive : 0 < room)
    (found : inlet.read room = (.error error, rest))
    (final : ¬error.isInterrupted) :
    Exhausted inlet [] (.failed error) rest := by
  have law := replied_of_read positive found
  rwa [Replied, if_neg final] at law

/-!
## One piece, whatever interrupts it
-/

theorem readSome_eq (room : Nat) (inlet : Inlet) :
    inlet.readSome room =
      match inlet.read room with
      | (.ok piece, rest) => (.ok piece, rest)
      | (.error error, rest) =>
          if error.isInterrupted then rest.readSome room
          else (.error error, rest) := by
  rw [readSome]
  split <;> simp only [*]

theorem readSome_piece
    {room : Nat}
    {inlet rest : Inlet}
    {piece : Bytes}
    (positive : 0 < room)
    (found : inlet.readSome room = (.ok piece, rest))
    (nonempty : piece ≠ []) :
    piece.length ≤ room ∧ Advanced inlet piece rest := by
  fun_induction readSome room inlet with
  | case1 inlet delivered after reads =>
      cases found
      exact read_piece positive reads nonempty
  | case2 inlet error after reads interrupted ih =>
      obtain ⟨short, later⟩ := ih found
      have earlier := read_interrupted positive reads interrupted
      exact ⟨short, earlier.trans later⟩
  | case3 inlet error after reads final => cases found

theorem readSome_ended
    {room : Nat}
    {inlet rest : Inlet}
    (positive : 0 < room)
    (found : inlet.readSome room = (.ok [], rest)) :
    Exhausted inlet [] .ended rest := by
  fun_induction readSome room inlet with
  | case1 inlet delivered after reads =>
      cases found
      exact replied_of_read positive reads
  | case2 inlet error after reads interrupted ih =>
      have earlier := read_interrupted positive reads interrupted
      exact earlier.exhausted (ih found)
  | case3 inlet error after reads final => cases found

theorem readSome_failed
    {room : Nat}
    {inlet rest : Inlet}
    {error : HostError}
    (positive : 0 < room)
    (found : inlet.readSome room = (.error error, rest)) :
    Exhausted inlet [] (.failed error) rest := by
  fun_induction readSome room inlet with
  | case1 inlet delivered after reads => cases found
  | case2 inlet error after reads interrupted ih =>
      have earlier := read_interrupted positive reads interrupted
      exact earlier.exhausted (ih found)
  | case3 inlet error after reads final =>
      cases found
      exact read_failed positive reads final

/-!
## A field of known length
-/

theorem fill_eq (missing : Nat) (inlet : Inlet) :
    inlet.fill missing =
      if missing = 0 then (([], none), inlet)
      else
        match inlet.read missing with
        | (.ok [], rest) => (([], some .ended), rest)
        | (.ok (octet :: others), rest) =>
            match rest.fill (missing - (others.length + 1)) with
            | ((more, stop), last) => ((octet :: others ++ more, stop), last)
        | (.error error, rest) =>
            if error.isInterrupted then rest.fill missing
            else (([], some (.failed error)), rest) := by
  rw [fill]
  split
  · rfl
  · split <;> simp only [*]

/-- A field that was filled is taken off the front of the wire. -/
theorem fill_complete
    {missing : Nat}
    {inlet rest : Inlet}
    {bytes : Bytes}
    (found : inlet.fill missing = ((bytes, none), rest)) :
    bytes.length = missing ∧ Advanced inlet bytes rest := by
  fun_induction fill missing inlet generalizing bytes rest with
  | case1 inlet =>
      cases found
      exact ⟨rfl, .refl inlet⟩
  | case2 missing inlet positive after reads => cases found
  | case3 missing inlet positive octet others after reads more stop last deeper ih =>
      cases found
      obtain ⟨short, earlier⟩ :=
        read_piece (Nat.pos_of_ne_zero positive) reads (by simp)
      obtain ⟨exact, later⟩ := ih deeper
      refine ⟨?_, earlier.trans later⟩
      simp only [List.length_append, List.length_cons] at short ⊢
      omega
  | case4 missing inlet positive error after reads interrupted ih =>
      obtain ⟨exact, later⟩ := ih found
      have earlier :=
        read_interrupted (Nat.pos_of_ne_zero positive) reads interrupted
      exact ⟨exact, earlier.trans later⟩
  | case5 missing inlet positive error after reads final => cases found

/-- A field that was not filled is all that the stream had to deliver. -/
theorem fill_stopped
    {missing : Nat}
    {inlet rest : Inlet}
    {bytes : Bytes}
    {stop : Stop}
    (found : inlet.fill missing = ((bytes, some stop), rest)) :
    bytes.length < missing ∧ Exhausted inlet bytes stop rest := by
  fun_induction fill missing inlet generalizing bytes rest with
  | case1 inlet => cases found
  | case2 missing inlet positive after reads =>
      cases found
      have some_room := Nat.pos_of_ne_zero positive
      exact ⟨some_room, replied_of_read some_room reads⟩
  | case3 missing inlet positive octet others after reads more stop last deeper ih =>
      cases found
      obtain ⟨short, earlier⟩ :=
        read_piece (Nat.pos_of_ne_zero positive) reads (by simp)
      obtain ⟨less, later⟩ := ih deeper
      refine ⟨?_, earlier.exhausted later⟩
      simp only [List.length_append, List.length_cons] at short ⊢
      omega
  | case4 missing inlet positive error after reads interrupted ih =>
      obtain ⟨less, later⟩ := ih found
      have earlier :=
        read_interrupted (Nat.pos_of_ne_zero positive) reads interrupted
      exact ⟨less, earlier.exhausted later⟩
  | case5 missing inlet positive error after reads final =>
      cases found
      have some_room := Nat.pos_of_ne_zero positive
      exact ⟨some_room, read_failed some_room reads final⟩

/-- A field that the stream holds is read, and nothing beyond it. -/
theorem readExact_of_le
    {length : Nat}
    {inlet : Inlet}
    (enough : length ≤ inlet.wire.bytes.length) :
    ∃ rest,
      inlet.readExact length = (.ok (inlet.wire.bytes.take length), rest) ∧
        rest.wire = inlet.wire.drop length ∧
        rest.consumed = inlet.consumed + length := by
  obtain ⟨⟨⟨bytes, stop⟩, rest⟩, found⟩ : ∃ answer, inlet.fill length = answer :=
    ⟨_, rfl⟩
  cases stop with
  | some stop =>
      obtain ⟨less, wire, -⟩ := fill_stopped found
      rw [wire] at enough
      simp only at enough
      omega
  | none =>
      obtain ⟨rfl, wire, consumed⟩ := fill_complete found
      refine ⟨rest, ?_, ?_, consumed⟩
      · simp [readExact, found, exactly, wire]
      · rw [wire, Wire.drop_after]

/-- A field that the stream does not hold stops where the stream does. -/
theorem readExact_of_lt
    {length : Nat}
    {inlet : Inlet}
    (short : inlet.wire.bytes.length < length) :
    ∃ rest,
      inlet.readExact length =
          (.error (inlet.wire.stop.fault inlet.wire.bytes.length length), rest) ∧
        rest.consumed = inlet.consumed + inlet.wire.bytes.length := by
  obtain ⟨⟨⟨bytes, stop⟩, rest⟩, found⟩ : ∃ answer, inlet.fill length = answer :=
    ⟨_, rfl⟩
  cases stop with
  | none =>
      obtain ⟨rfl, wire, -⟩ := fill_complete found
      rw [wire] at short
      simp only [Wire.bytes_after, List.length_append] at short
      omega
  | some stop =>
      obtain ⟨-, wire, consumed⟩ := fill_stopped found
      refine ⟨rest, ?_, by rw [consumed, wire]⟩
      rw [wire]
      cases stop <;> simp [readExact, found, exactly, Stop.fault]

/-!
## Files
-/

/-- An inlet over the rest of a file. -/
structure Over (limit : Option Nat) (rest : Bytes) (inlet : Inlet) : Prop where
  limit : inlet.limit = limit
  steps : inlet.steps = [.data rest] ∨ rest = [] ∧ inlet.steps = []

theorem over_ofBytes (limit : Option Nat) (content : Bytes) :
    (ofBytes content limit).Over limit content :=
  ⟨rfl, .inl rfl⟩

/-- Reading the rest of a file yields the front of it that fits. -/
theorem Over.readSome
    {limit : Option Nat}
    {rest : Bytes}
    {inlet : Inlet}
    (spans : inlet.Over limit rest)
    (room : Nat) :
    let moved := capped limit room
    ∃ after,
      inlet.readSome room = (.ok (rest.take moved), after) ∧
        after.Over limit (rest.drop moved) := by
  intro moved
  have replied :
      ∃ later,
        readSteps moved inlet.steps = (.ok (rest.take moved), later) ∧
          (later = [.data (rest.drop moved)] ∨
            rest.drop moved = [] ∧ later = []) := by
    rcases spans.steps with steps | ⟨rfl, steps⟩
    · rw [steps]
      cases rest with
      | nil => exact ⟨[], by simp [readSteps]⟩
      | cons octet others =>
          refine ⟨_, rfl, ?_⟩
          split
          case isTrue nothing => exact .inr ⟨nothing, rfl⟩
          case isFalse something => exact .inl rfl
    · rw [steps]
      exact ⟨[], by simp [readSteps]⟩
  rcases replied with ⟨later, replies, left⟩
  refine ⟨⟨later, limit, inlet.calls + 1, inlet.consumed + (rest.take moved).length⟩,
    ?_, rfl, left⟩
  rw [readSome_eq]
  simp only [read, spans.limit]
  rw [replies]

end Inlet

end FileTransfer
