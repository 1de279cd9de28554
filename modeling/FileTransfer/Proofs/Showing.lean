import FileTransfer.Proofs.Writing
import FileTransfer.Transfer.Deliver

namespace FileTransfer

/-!
# Sending behind a progress bar

A writer follows an outlet if every call on it is the same call on that outlet.  Sending
to such a writer does to the outlet what sending to it directly does
(`Writer.Follows.sendFile`), so a progress bar that passes on its calls does not change
how a client sends (`ProgressBar.PassesOn.send`).
-/

theorem sendBody_step
    (room : Nat)
    (source : Inlet)
    (tally : Tally)
    (outlet : Outlet) :
    sendBody room source tally outlet =
      match source.readSome room with
      | (.error error, _) => ((.error (.host "read body" error), tally), outlet)
      | (.ok [], _) => ((.ok (), tally), outlet)
      | (.ok (octet :: others), rest) =>
          match outlet.writeAll (octet :: others) with
          | (.error fault, after) => ((.error fault, tally), after)
          | (.ok (), after) =>
              sendBody room rest (tally.record (octet :: others)) after := by
  rw [sendBody]
  split
  case h_1 => simp only [*]
  case h_2 => simp only [*]
  case h_3 octet others rest found =>
    rcases written : outlet.writeAll (octet :: others) with ⟨fault | done, after⟩ <;>
      simp only [found, written]

namespace Writer

variable
  {σ : Type}
  {writer : Writer σ}
  {behind : σ → Outlet}

/-- Every call on a writer is the same call on the outlet behind it, with the same reply. -/
structure Follows (writer : Writer σ) (behind : σ → Outlet) : Prop where
  write :
    ∀ offered state,
      Prod.map id behind (writer.write offered state) = (behind state).write offered
  flush :
    ∀ state, Prod.map id behind (writer.flush state) = (behind state).flush

namespace Follows

/-- Each call has the same reply on both sides, so both loops go the same way. -/
theorem writeAll
    (follows : writer.Follows behind)
    (buffer : Bytes)
    (state : σ) :
    Prod.map id behind (writer.writeAll buffer state) =
      (behind state).writeAll buffer := by
  fun_induction Writer.writeAll writer buffer state with
  | case1 state => simp [Outlet.writeAll_eq]
  | case2 buffer state nonempty rest writes =>
      have call := follows.write buffer state
      rw [writes] at call
      rw [Outlet.writeAll_eq, if_neg nonempty, ← call]
      rfl
  | case3 buffer state nonempty count rest writes ih =>
      have call := follows.write buffer state
      rw [writes] at call
      rw [ih, Outlet.writeAll_eq buffer (behind state), if_neg nonempty, ← call]
      rfl
  | case4 buffer state nonempty error rest writes interrupted ih =>
      have call := follows.write buffer state
      rw [writes] at call
      rw [ih, Outlet.writeAll_eq buffer (behind state), if_neg nonempty, ← call]
      simp [interrupted]
  | case5 buffer state nonempty error rest writes final =>
      have call := follows.write buffer state
      rw [writes] at call
      rw [Outlet.writeAll_eq, if_neg nonempty, ← call]
      simp [final]

theorem sendBody
    (follows : writer.Follows behind)
    (room : Nat)
    (source : Inlet)
    (tally : Tally)
    (state : σ) :
    Prod.map id behind (writer.sendBody room source tally state) =
      FileTransfer.sendBody room source tally (behind state) := by
  fun_induction Writer.sendBody writer room source tally state with
  | case1 source tally state error rest reads =>
      rw [sendBody_step, reads]
      rfl
  | case2 source tally state rest reads =>
      rw [sendBody_step, reads]
      rfl
  | case3 source tally state octet others rest reads fault after writes =>
      have piece := follows.writeAll (octet :: others) state
      rw [writes] at piece
      rw [sendBody_step, reads]
      simp only [← piece, Prod.map, id]
  | case4 source tally state octet others rest reads after writes ih =>
      have piece := follows.writeAll (octet :: others) state
      rw [writes] at piece
      rw [ih, sendBody_step room source, reads]
      simp only [← piece, Prod.map, id]

theorem sendSource
    (follows : writer.Follows behind)
    (options : TransferOptions)
    (path : Path)
    (source : Source)
    (state : σ) :
    Prod.map id behind (writer.sendSource options path source state) =
      FileTransfer.sendSource options path source (behind state) := by
  have header := follows.writeAll source.header state
  unfold Writer.sendSource FileTransfer.sendSource
  rcases first : writer.writeAll source.header state with ⟨fault | done, after⟩
  · rw [first] at header
    simp only [← header, Prod.map, id]
  rw [first] at header
  have body :=
    follows.sendBody options.room source.inlet (.start options.digesting) after
  simp only [← header, Prod.map, id] at body ⊢
  rcases second :
      writer.sendBody options.room source.inlet (.start options.digesting) after
    with ⟨⟨fault | done, tally⟩, last⟩
  · rw [second] at body
    simp only [← body]
  rw [second] at body
  have flushes := follows.flush last
  rcases third : writer.flush last with ⟨error | done, flushed⟩ <;>
    rw [third] at flushes <;>
    simp only [← body, ← flushes, third, Prod.map, id]

/-- Sending to a writer does to the outlet behind it what sending to that outlet does. -/
theorem sendFile
    (follows : writer.Follows behind)
    (options : TransferOptions)
    (tree : FileTree)
    (path : Path)
    (state : σ) :
    Prod.map id behind (writer.sendFile options tree path state) =
      FileTransfer.sendFile options tree path (behind state) := by
  unfold Writer.sendFile FileTransfer.sendFile
  cases Source.open? none tree path with
  | error fault => rfl
  | ok source => exact follows.sendSource options path source state

end Follows

end Writer

namespace ProgressBar

variable
  {β : Type}
  {bar : ProgressBar β}

/-- A bar hands every call on to the stream behind it, and every reply back. -/
def PassesOn (bar : ProgressBar β) : Prop :=
  bar.wrapped.Follows Prod.snd

theorem counting_passesOn : counting.PassesOn where
  write offered shown := countedWrite_snd offered shown
  flush _ := rfl

theorem PassesOn.sendFile
    (passes : bar.PassesOn)
    (options : TransferOptions)
    (tree : FileTree)
    (path : Path)
    (outlet : Outlet) :
    bar.sendFile options tree path outlet =
      FileTransfer.sendFile options tree path outlet :=
  Writer.Follows.sendFile passes options tree path
    (bar.start (tree.sizeOf path), outlet)

/-- With such a bar or without one, a client sends the same way. -/
theorem PassesOn.send
    (passes : bar.PassesOn)
    (plan : ClientPlan)
    (tree : FileTree) :
    plan.send bar tree = FileTransfer.sendFile plan.options tree plan.file := by
  funext outlet
  simp only [ClientPlan.send, passes.sendFile, ite_self]

end ProgressBar

end FileTransfer
