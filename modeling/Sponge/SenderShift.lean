import Sponge.SenderRuns

set_option autoImplicit false

namespace Sponge

open Shared

def TCPSegment.shift (amount : Nat) (seg : TCPSegment) : TCPSegment :=
  { seg with
    header :=
      { seg.header with
        seqno := seg.header.seqno.advance amount
        ackno := seg.header.ackno.advance amount } }

@[simp] theorem TCPSegment.shift_length (amount : Nat) (seg : TCPSegment) :
    (seg.shift amount).lengthInSequenceSpace = seg.lengthInSequenceSpace := rfl

namespace TCPSender

def shift (amount : Nat) (s : TCPSender) : TCPSender :=
  { s with
    isn := s.isn.advance amount
    segmentsOut := s.segmentsOut.map (TCPSegment.shift amount)
    trackingSegments := s.trackingSegments.map (TCPSegment.shift amount) }

def Op.shift (amount : Nat) : Op → Op
  | .ack ackno windowSize => .ack (ackno.advance amount) windowSize
  | op => op

section Shift

variable (amount : Nat) (s : TCPSender)

theorem shift_emit (seg : TCPSegment) : (s.shift amount).emit (seg.shift amount) = (s.emit seg).shift amount := by
  simp [emit, shift]

theorem shift_nextSegment : (s.shift amount).nextSegment = s.nextSegment.shift amount := by
  have relative : (s.shift amount).relativeSeqno = s.relativeSeqno.advance amount := wrap_isn_advance ..
  simp only [nextSegment, relative]
  rw [TCPSegment.shift]
  congr 2
  exact WrappingInt32.advance_comm ..

theorem shift_sendNext : (s.shift amount).sendNext = s.sendNext.shift amount := by
  unfold sendNext
  rw [shift_nextSegment]
  have read : { s.shift amount with stream := (s.shift amount).readPayload.2 } =
      shift amount { s with stream := s.readPayload.2 } := rfl
  rw [read, shift_emit]
  rfl

theorem shift_sendSyn : (s.shift amount).sendSyn = s.sendSyn.shift amount := by
  have syn : (s.shift amount).synSegment = s.synSegment.shift amount := by
    simp only [synSegment, TCPSegment.shift, shift, wrap_isn_advance]
  unfold sendSyn
  rw [syn, shift_emit]
  rfl

theorem shift_fillWindow : (s.shift amount).fillWindow = s.fillWindow.shift amount := by
  have state : (s.shift amount).currentState = s.currentState := rfl
  have filled : loop canSend sendNext (s.shift amount).rounds (s.shift amount) =
      (loop canSend sendNext s.rounds s).shift amount := by
    apply Eq.symm
    apply loop_simulation canSend sendNext canSend sendNext fun left right => left.shift amount = right
    · rintro left _ rfl
      rfl
    · rintro left _ rfl
      exact (left.shift_sendNext amount).symm
    · rfl
  unfold fillWindow
  rw [state]
  cases s.currentState with
  | closed => exact s.shift_sendSyn amount
  | synSent => rfl
  | synAcked => exact filled
  | synAckedEof => exact filled
  | finSent => exact filled
  | finAcked => exact filled

theorem shift_tick (ms : Nat) : (s.shift amount).tick ms = (s.tick ms).shift amount := by
  have started : (s.shift amount).startTimer ms = (s.startTimer ms).shift amount := by
    rw [startTimer, startTimer, apply_ite (shift amount)]
    rfl
  simp only [tick, started]
  rw [apply_ite (shift amount)]
  refine ite_congr rfl (fun _ => ?_) fun _ => rfl
  simp only [shift, List.getLast?_map, Option.toList_map, List.map_append]
  rfl

theorem sequenceLength_shift (segs : List TCPSegment) :
    sequenceLength (segs.map (TCPSegment.shift amount)) = sequenceLength segs := by
  simp [sequenceLength, Function.comp_def]

variable (ackno : WrappingInt32)

theorem shift_remaining :
    (s.shift amount).remaining (ackno.advance amount) = (s.remaining ackno).map (TCPSegment.shift amount) := by
  simp only [remaining, shift, List.takeWhile_map]
  congr 2
  funext seg
  simp [TCPSegment.shift, bne, Bool.beq_eq_decide_eq, WrappingInt32.advance_inj]

theorem shift_matched : (s.shift amount).matched (ackno.advance amount) = s.matched ackno := by
  simp only [matched, shift, List.any_map]
  congr 1
  funext seg
  simp [TCPSegment.shift, WrappingInt32.advance_inj]

theorem shift_noteWindow (windowSize : UInt16) :
    (s.shift amount).noteWindow (ackno.advance amount) windowSize =
      (s.noteWindow ackno windowSize).shift amount := by
  have absolute : unwrap (ackno.advance amount) (s.shift amount).isn (s.shift amount).nextAckno =
      unwrap ackno s.isn s.nextAckno := unwrap_advance ..
  simp only [noteWindow, absolute]
  rw [apply_ite (shift amount)]
  rfl

theorem shift_retire : (s.shift amount).retire (ackno.advance amount) = (s.retire ackno).shift amount := by
  have absolute : unwrap (ackno.advance amount) (s.shift amount).isn (s.shift amount).nextAckno =
      unwrap ackno s.isn s.nextAckno := unwrap_advance ..
  simp only [retire, shift_matched, shift_remaining, absolute]
  rw [apply_ite (shift amount)]
  rfl

end Shift

/-- Where an acknowledgment leaves the count of tracked numbers as it was, the raw comparison with the oldest tracked
segment comes out the same when both numbers are moved by `amount`. -/
def Blind (amount : Nat) (s : TCPSender) : Op → Prop
  | .ack ackno _ =>
      s.trackedCount = sequenceLength (s.remaining ackno) →
        ∀ oldest ∈ (s.remaining ackno).getLast?,
          (oldest.header.seqno.rawValue < ackno.rawValue ↔
            (oldest.header.seqno.advance amount).rawValue < (ackno.advance amount).rawValue)
  | _ => True

instance (amount : Nat) (s : TCPSender) : (op : Op) → Decidable (s.Blind amount op)
  | .ack _ _ => inferInstanceAs (Decidable (_ → _))
  | .write _ | .endInput | .fillWindow | .tick _ => inferInstanceAs (Decidable True)

section Blind

variable {amount : Nat} {s : TCPSender}

theorem shift_ackReceived {ackno : WrappingInt32} {windowSize : UInt16}
    (blind : s.Blind amount (.ack ackno windowSize)) :
    (s.shift amount).ackReceived (ackno.advance amount) windowSize =
      (s.ackReceived ackno windowSize).shift amount := by
  have noted : (s.noteWindow ackno windowSize).remaining ackno = s.remaining ackno ∧
      (s.noteWindow ackno windowSize).trackedCount = s.trackedCount := by
    rw [noteWindow_frame]
    exact ⟨rfl, rfl⟩
  have tracking := (s.noteWindow ackno windowSize).retire_trackingSegments ackno
  rw [noted.1] at tracking
  have count : ((s.noteWindow ackno windowSize).retire ackno).trackedCount = s.trackedCount := by
    rw [retire, ← noted.2]
    split <;> rfl
  have same : (((s.noteWindow ackno windowSize).retire ackno).trackedCount = sequenceLength (s.remaining ackno) ∧
        (((s.noteWindow ackno windowSize).retire ackno).shift amount).startsBefore (ackno.advance amount) = true) ↔
      (((s.noteWindow ackno windowSize).retire ackno).trackedCount = sequenceLength (s.remaining ackno) ∧
        ((s.noteWindow ackno windowSize).retire ackno).startsBefore ackno = true) := by
    rw [count]
    refine and_congr_right fun unchanged => ?_
    have agree := blind unchanged
    simp only [startsBefore, shift, tracking, List.getLast?_map]
    cases last : (s.remaining ackno).getLast? with
    | none => simp
    | some oldest =>
        rw [last] at agree
        simpa [TCPSegment.shift] using (agree oldest rfl).symm
  simp only [ackReceived, shift_remaining, sequenceLength_shift, shift_noteWindow, shift_retire]
  rw [apply_ite (shift amount)]
  exact ite_congr (propext same) (fun _ => rfl) fun _ => rfl

theorem shift_step {op : Op} (blind : s.Blind amount op) :
    (s.shift amount).step (op.shift amount) = (s.step op).shift amount := by
  cases op with
  | write data => rfl
  | endInput => rfl
  | fillWindow => exact s.shift_fillWindow amount
  | ack ackno windowSize => exact shift_ackReceived blind
  | tick ms => exact s.shift_tick amount ms

theorem shift_run {ops : List Op} (blind : AllAllowed step (Blind amount) s ops) :
    (ops.map (Op.shift amount)).foldl step (s.shift amount) = (ops.foldl step s).shift amount := by
  induction ops generalizing s with
  | nil => rfl
  | cons op ops ih =>
      rw [List.map_cons, List.foldl_cons, List.foldl_cons, shift_step blind.1]
      exact ih blind.2

end Blind

structure SameUpTo (amount : Nat) (left right : TCPSender) : Prop where
  segmentsOut : right.segmentsOut = left.segmentsOut.map (TCPSegment.shift amount)
  bytesInFlight : right.bytesInFlight = left.bytesInFlight
  nextSeqnoAbsolute : right.nextSeqnoAbsolute = left.nextSeqnoAbsolute
  consecutiveRetransmissions : right.consecutiveRetransmissions = left.consecutiveRetransmissions

theorem SameUpTo.shift (amount : Nat) (s : TCPSender) : SameUpTo amount s (s.shift amount) := ⟨rfl, rfl, rfl, rfl⟩

theorem shift_new (capacity : Nat) (retxTimeout : UInt16) (isn randomIsn : WrappingInt32) (amount : Nat) :
    (new capacity retxTimeout (some isn) randomIsn).shift amount =
      new capacity retxTimeout (some (isn.advance amount)) randomIsn := rfl

theorem isn_unobservable (capacity : Nat) (retxTimeout : UInt16) (left right randomIsn : WrappingInt32)
    (ops : List Op)
    (blind : AllAllowed step (Blind (offset right left)) (new capacity retxTimeout (some left) randomIsn) ops) :
    ∀ before, before <+: ops →
      SameUpTo (offset right left) (before.foldl step (new capacity retxTimeout (some left) randomIsn))
        ((before.map (Op.shift (offset right left))).foldl step
          (new capacity retxTimeout (some right) randomIsn)) := by
  rintro before ⟨after, rfl⟩
  have moved := shift_run (allAllowed_append.mp blind).1
  rw [shift_new, advance_offset] at moved
  rw [moved]
  exact SameUpTo.shift _ _

def midSegmentOps : List Op :=
  [.fillWindow, .ack (wrap 1 ⟨0⟩) 8, .write [1, 2, 3, 4], .fillWindow, .ack (wrap 3 ⟨0⟩) 4, .write [5, 6],
    .fillWindow]

theorem isn_unobservable_sample :
    SameUpTo (offset ⟨10⟩ ⟨0⟩) (midSegmentOps.foldl step (new 16 1000 (some ⟨0⟩) ⟨0⟩))
      ((midSegmentOps.map (Op.shift (offset ⟨10⟩ ⟨0⟩))).foldl step (new 16 1000 (some ⟨10⟩) ⟨0⟩)) :=
  isn_unobservable 16 1000 ⟨0⟩ ⟨10⟩ ⟨0⟩ midSegmentOps (by decide +kernel) _ (List.prefix_refl _)

-- From an ISN just below 2 ^ 32 the same acknowledgment has a small raw value, and its window counts.
theorem isn_observable_across_wrap :
    (midSegmentOps.foldl step (new 16 1000 (some ⟨0⟩) ⟨0⟩)).segmentsOut.length = 3 ∧
      ((midSegmentOps.map (Op.shift (offset ⟨4294967293⟩ ⟨0⟩))).foldl step
        (new 16 1000 (some ⟨4294967293⟩) ⟨0⟩)).segmentsOut.length = 2 ∧
      ¬ SameUpTo (offset ⟨4294967293⟩ ⟨0⟩) (midSegmentOps.foldl step (new 16 1000 (some ⟨0⟩) ⟨0⟩))
        ((midSegmentOps.map (Op.shift (offset ⟨4294967293⟩ ⟨0⟩))).foldl step
          (new 16 1000 (some ⟨4294967293⟩) ⟨0⟩)) := by
  refine ⟨by decide +kernel, by decide +kernel, fun same => ?_⟩
  have flight := same.bytesInFlight
  revert flight
  decide +kernel

end TCPSender

end Sponge
