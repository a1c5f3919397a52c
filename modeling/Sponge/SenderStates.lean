import Sponge.SenderRuns
import Sponge.TCPState

set_option autoImplicit false

namespace Sponge.TCPSender

open Shared

inductive Call
  | op (op : Op)
  | sendEmptySegment
  | takeSegment
  | setError
  deriving DecidableEq

def call (s : TCPSender) : Call → TCPSender
  | .op op => s.step op
  | .sendEmptySegment => s.sendEmptySegment
  | .takeSegment => { s with segmentsOut := s.segmentsOut.tail }
  | .setError => { s with stream := s.stream.setError }

def Legal (s : TCPSender) : Call → Prop
  | .op (.write _) => s.stream.inputEnded = false
  | _ => True

instance (s : TCPSender) : (call : Call) → Decidable (s.Legal call)
  | .op (.write _) => inferInstanceAs (Decidable (_ = _))
  | .op .endInput | .op .fillWindow | .op (.ack _ _) | .op (.tick _) => inferInstanceAs (Decidable True)
  | .sendEmptySegment | .takeSegment | .setError => inferInstanceAs (Decidable True)

section Reachable

variable {accepted : Bytes} {acked : List TCPSegment} {s : TCPSender}

theorem Tiled.queue (tiled : Tiled accepted acked s) (segs : List TCPSegment) :
    Tiled accepted acked { s with segmentsOut := segs } := { tiled with }

theorem Tiled.setError (tiled : Tiled accepted acked s) :
    Tiled accepted acked { s with stream := s.stream.setError } := { tiled with }

theorem Tiled.call (tiled : Tiled accepted acked s) {call : Call} (legal : s.Legal call) :
    ∃ accepted' acked', Tiled accepted' acked' (s.call call) := by
  cases call with
  | op op =>
      cases op with
      | write data => exact ⟨_, acked, tiled.write legal data⟩
      | endInput => exact ⟨accepted, acked, tiled.endInput⟩
      | fillWindow =>
          obtain ⟨_, _, after⟩ := tiled.fillWindow
          exact ⟨accepted, acked, after⟩
      | ack ackno windowSize =>
          obtain ⟨older, after, _⟩ := tiled.ackReceived ackno windowSize
          exact ⟨accepted, acked ++ older, after⟩
      | tick ms => exact ⟨accepted, acked, tiled.tick ms⟩
  | sendEmptySegment => exact ⟨accepted, acked, tiled.queue _⟩
  | takeSegment => exact ⟨accepted, acked, tiled.queue _⟩
  | setError => exact ⟨accepted, acked, tiled.setError⟩

theorem reaches_tiled {capacity : Nat} {retxTimeout : UInt16} {fixedIsn : Option WrappingInt32}
    {randomIsn : WrappingInt32} (run : Reaches call Legal (new capacity retxTimeout fixedIsn randomIsn) s) :
    ∃ accepted acked, Tiled accepted acked s := by
  apply run.invariant fun s => ∃ accepted acked, Tiled accepted acked s
  · exact ⟨[], [], tiled_new capacity retxTimeout fixedIsn randomIsn⟩
  · rintro s call ⟨accepted, acked, tiled⟩ legal
    exact tiled.call legal

end Reachable

def finDue (s : TCPSender) : Bool :=
  s.stream.inputEnded && decide (s.nextSeqnoAbsolute < s.stream.bytesWritten + 2)

def unsent (s : TCPSender) : Nat := s.stream.bufferSize + s.finDue.toNat

structure Round (s : TCPSender) : Prop where
  emits : Emits [s.nextSegment] s s.sendNext
  occupies : 1 ≤ s.nextSegment.lengthInSequenceSpace
  reads : s.readSize ≤ s.stream.bufferSize ∧ s.nextSegment.payload = s.stream.buffer.take s.readSize
  progress : s.sendNext.unsent < s.unsent
  -- `next_ackno + remain_window_size - next_seqno`, evaluated in every round, is no wrapped number.
  room : s.nextSeqnoAbsolute ≤ s.nextAckno + s.remainWindowSize

section Rounds

variable {accepted : Bytes} {acked : List TCPSegment} {s : TCPSender}

theorem Tiled.finDue_iff (tiled : Tiled accepted acked s) :
    s.finDue = true ↔ s.stream.isEnded = true ∧ s.nextSeqno < accepted.length + 2 := by
  simp [finDue, ByteStream.inputEnded, ByteStream.bytesWritten, nextSeqnoAbsolute, tiled.written]

theorem Tiled.unsent_sendNext (tiled : Tiled accepted acked s) (opened : 0 < s.nextAckno)
    (running : s.canSend = true) : s.sendNext.unsent < s.unsent := by
  obtain ⟨_, waiting⟩ := (tiled.canSend_iff opened).mp running
  have acknowledged := tiled.outstanding.le
  have occupies := (tiled.nextSegment_bounds opened running).1
  have length := s.nextSegment_length
  have read := s.readSize_le.1
  have due := tiled.finDue_iff
  have due_after := (tiled.sendNext opened running).finDue_iff
  have nextSeqno : s.sendNext.nextSeqno = s.nextSeqno + s.nextSegment.lengthInSequenceSpace := rfl
  rw [s.sendNext_emits.ended, nextSeqno] at due_after
  rw [unsent, unsent, sendNext_bufferSize]
  by_cases fin : s.nextSegment.header.fin = true
  · -- The FIN was due and is out now.
    obtain ⟨_, ended, drained⟩ := s.nextSegment_fin.mp fin
    have size := tiled.bufferSize
    rw [if_pos fin] at length
    have before : s.finDue = true := due.mpr ⟨ended, by omega⟩
    have after : s.sendNext.finDue = false := by
      rw [Bool.eq_false_iff]
      intro still
      have := (due_after.mp still).2
      omega
    rw [before, after, Bool.toNat_true, Bool.toNat_false]
    omega
  · rw [if_neg fin] at length
    have kept : s.sendNext.finDue.toNat ≤ s.finDue.toNat := by
      refine Bool.toNat_le_toNat fun still => ?_
      obtain ⟨ended, unfinished⟩ := due_after.mp still
      exact due.mpr ⟨ended, by omega⟩
    omega

theorem Tiled.round (tiled : Tiled accepted acked s) (opened : 0 < s.nextAckno) (running : s.canSend = true) :
    s.Round where
  emits := s.sendNext_emits
  occupies := (tiled.nextSegment_bounds opened running).1
  reads := ⟨s.readSize_le.1, s.nextSegment_payload⟩
  progress := tiled.unsent_sendNext opened running
  room := Nat.le_of_lt ((tiled.canSend_iff opened).mp running).1

theorem Tiled.unsent_le_rounds (tiled : Tiled accepted acked s) : s.unsent ≤ s.rounds := by
  rw [unsent, rounds, ByteStream.bytesWritten, tiled.written]
  cases due : s.finDue with
  | false => exact Nat.add_le_add_left (Nat.zero_le _) _
  | true =>
      have unfinished := (tiled.finDue_iff.mp due).2
      rw [Bool.toNat_true]
      omega

theorem Tiled.opened_of_state (tiled : Tiled accepted acked s) (open_ : s.currentState ≠ .closed)
    (answered : s.currentState ≠ .synSent) : 0 < s.nextAckno := by
  have count := tiled.count
  by_contra unacked
  by_cases fresh : s.nextSeqno = 0
  · exact open_ (by rw [currentState, nextSeqnoAbsolute, if_pos fresh])
  · exact answered (by rw [currentState, nextSeqnoAbsolute, bytesInFlight, if_neg fresh, if_pos (by omega)])

end Rounds

theorem fill_window_terminates (capacity : Nat) (retxTimeout : UInt16) (fixedIsn : Option WrappingInt32)
    (randomIsn : WrappingInt32) (s : TCPSender)
    (run : Reaches call Legal (new capacity retxTimeout fixedIsn randomIsn) s) :
    (s.currentState = .closed → s.fillWindow = s.sendSyn) ∧ (s.currentState = .synSent → s.fillWindow = s) ∧
      (s.currentState ≠ .closed → s.currentState ≠ .synSent →
        ∃ rounds ≤ s.unsent, Exits canSend sendNext s rounds ∧ s.fillWindow = sendNext^[rounds] s ∧
          ∀ k < rounds, Round (sendNext^[k] s)) := by
  obtain ⟨accepted, acked, tiled⟩ := reaches_tiled run
  refine ⟨fun closed => by rw [fillWindow, closed], fun sent => by rw [fillWindow, sent], fun open_ answered => ?_⟩
  have step (t : TCPSender) (running : t.canSend = true) (inv : Tiled accepted acked t ∧ 0 < t.nextAckno) :
      Tiled accepted acked t.sendNext ∧ 0 < t.sendNext.nextAckno :=
    ⟨inv.1.sendNext inv.2 running, inv.2⟩
  have initial : Tiled accepted acked s ∧ 0 < s.nextAckno := ⟨tiled, tiled.opened_of_state open_ answered⟩
  obtain ⟨rounds, few, exits⟩ := exits_of_decrease unsent step
    (fun t running inv => inv.1.unsent_sendNext inv.2 running) initial
  refine ⟨rounds, few, exits, ?_, fun k early => ?_⟩
  · have acknowledged := tiled.outstanding.le
    rw [tiled.fillWindow_eq, if_neg (by omega), if_neg (by omega)]
    exact exits.loop_eq (few.trans tiled.unsent_le_rounds)
  · obtain ⟨during, opened⟩ := exits.invariant step initial k early.le
    exact during.round opened (exits.running k early)

def sampleCalls : List Call :=
  [.op .fillWindow, .takeSegment, .op (.ack (wrap 1 sampleIsn) 8), .op (.write [1, 2]), .op .fillWindow,
    .sendEmptySegment, .op (.ack (wrap 2 sampleIsn) 3), .op (.tick 2000), .op (.write [3]), .op .endInput]

theorem fill_window_terminates_sample :
    AllAllowed call Legal (new 8 1000 (some sampleIsn) ⟨0⟩) sampleCalls ∧
      ∃ rounds ≤ 2, Exits canSend sendNext (sampleCalls.foldl call (new 8 1000 (some sampleIsn) ⟨0⟩)) rounds := by
  have legal : AllAllowed call Legal (new 8 1000 (some sampleIsn) ⟨0⟩) sampleCalls := by decide +kernel
  have looping := (fill_window_terminates 8 1000 (some sampleIsn) ⟨0⟩ _ (Reaches.start.foldl legal)).2.2
  obtain ⟨rounds, few, exits, _⟩ := looping (by decide +kernel) (by decide +kernel)
  exact ⟨legal, rounds, few.trans (by decide +kernel), exits⟩

section Summary

def summaryOf : TCPSenderState → TCPSenderStateSummary
  | .closed => .closed
  | .synSent => .synSent
  | .synAcked | .synAckedEof => .synAcked
  | .finSent => .finSent
  | .finAcked => .finAcked

-- Neither function reaches its last default unless it is meant: the FIN is the last number there is.
theorem Tiled.senderSummary_eq {accepted : Bytes} {acked : List TCPSegment} {s : TCPSender}
    (tiled : Tiled accepted acked s) (clean : s.stream.hasError = false) :
    TCPState.senderSummary s = summaryOf s.currentState := by
  have count : s.nextAckno + s.bytesInFlight = s.nextSeqnoAbsolute := tiled.count
  have last : s.nextSeqnoAbsolute ≤ s.stream.bytesWritten + 2 := by
    rw [ByteStream.bytesWritten, tiled.written]
    exact tiled.last
  rw [TCPState.senderSummary, if_neg (by rw [clean]; decide), currentState]
  by_cases fresh : s.nextSeqnoAbsolute = 0
  · rw [if_pos fresh, if_pos fresh]
    rfl
  · rw [if_neg fresh, if_neg fresh]
    by_cases unanswered : s.nextSeqnoAbsolute = s.bytesInFlight
    · rw [if_pos unanswered, if_pos ⟨Nat.pos_of_ne_zero fresh, unanswered⟩]
      rfl
    · have answered : ¬(0 < s.nextSeqnoAbsolute ∧ s.nextSeqnoAbsolute = s.bytesInFlight) :=
        fun both => unanswered both.2
      rw [if_neg unanswered, if_neg answered]
      cases eof : s.stream.eof with
      | false => simp [show s.bytesInFlight < s.nextSeqnoAbsolute by omega, summaryOf]
      | true =>
          by_cases unfinished : s.nextSeqnoAbsolute < s.stream.bytesWritten + 2
          · simp [unfinished, summaryOf]
          · have finished : s.nextSeqnoAbsolute = s.stream.bytesWritten + 2 := by omega
            by_cases idle : s.bytesInFlight = 0
            · simp [finished, idle, summaryOf]
            · simp [finished, idle, Nat.pos_of_ne_zero idle, summaryOf]

end Summary

theorem state_summary_agrees (capacity : Nat) (retxTimeout : UInt16) (fixedIsn : Option WrappingInt32)
    (randomIsn : WrappingInt32) (s : TCPSender)
    (run : Reaches call Legal (new capacity retxTimeout fixedIsn randomIsn) s) (clean : s.stream.hasError = false) :
    (TCPState.senderSummary s = .closed ↔ s.currentState = .closed) ∧
      (TCPState.senderSummary s = .synSent ↔ s.currentState = .synSent) ∧
      (TCPState.senderSummary s = .synAcked ↔ s.currentState = .synAcked ∨ s.currentState = .synAckedEof) ∧
      (TCPState.senderSummary s = .finSent ↔ s.currentState = .finSent) ∧
      (TCPState.senderSummary s = .finAcked ↔ s.currentState = .finAcked) := by
  obtain ⟨accepted, acked, tiled⟩ := reaches_tiled run
  rw [tiled.senderSummary_eq clean]
  cases s.currentState <;> simp [summaryOf]

theorem state_summary_agrees_sample :
    AllAllowed call Legal (new 8 1000 (some sampleIsn) ⟨0⟩) (sampleCalls ++ [.op .fillWindow]) ∧
      TCPState.senderSummary ((sampleCalls ++ [Call.op .fillWindow]).foldl call (new 8 1000 (some sampleIsn) ⟨0⟩)) =
        .finSent := by
  have legal : AllAllowed call Legal (new 8 1000 (some sampleIsn) ⟨0⟩) (sampleCalls ++ [.op .fillWindow]) := by
    decide +kernel
  have agrees := state_summary_agrees 8 1000 (some sampleIsn) ⟨0⟩ _ (Reaches.start.foldl legal) (by decide +kernel)
  exact ⟨legal, agrees.2.2.2.1.mpr (by decide +kernel)⟩

end Sponge.TCPSender
