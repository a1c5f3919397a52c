import Sponge.SenderTiling

set_option autoImplicit false

namespace Sponge.TCPSender

open Shared

def hasWork (s : TCPSender) : Bool :=
  match s.currentState with
  | .closed => true
  | .synSent => false
  | _ => s.canSend

theorem rounds_pos (s : TCPSender) (running : s.canSend = true) : 0 < s.rounds := by
  simp only [canSend, Bool.and_eq_true, Bool.or_eq_true, Bool.not_eq_true', decide_eq_true_eq,
    ByteStream.bufferEmpty, List.isEmpty_eq_false_iff] at running
  rcases running.2 with unsent | unfinished
  · have := List.length_pos_iff.mpr unsent
    simp only [rounds, ByteStream.bufferSize]
    omega
  · have unsent : s.nextSeqno < s.stream.bytesWritten + 2 := by
      simp only [currentState, nextSeqnoAbsolute] at unfinished
      grind
    simp only [rounds]
    omega

theorem fillWindow_out (s : TCPSender) :
    ∃ new, s.fillWindow.segmentsOut = s.segmentsOut ++ new ∧ (new = [] ↔ s.hasWork = false) := by
  have looped : ∃ new, (loop canSend sendNext s.rounds s).segmentsOut = s.segmentsOut ++ new ∧
      (new = [] ↔ s.canSend = false) := by
    cases running : s.canSend with
    | false =>
        rw [loop_of_stopped sendNext _ running]
        exact ⟨[], by simp, by simp⟩
    | true =>
        obtain ⟨fewer, rounds⟩ := Nat.exists_eq_succ_of_ne_zero (s.rounds_pos running).ne'
        obtain ⟨later, emits⟩ := s.sendNext.fillLoop_emits fewer
        have all := s.sendNext_emits.trans emits
        refine ⟨[s.nextSegment] ++ later, ?_, by simp⟩
        simpa [rounds, loop, running] using all.out
  simp only [fillWindow, hasWork]
  cases s.currentState with
  | closed => exact ⟨_, s.sendSyn_emits.out, by simp⟩
  | synSent => exact ⟨[], by simp, by simp⟩
  | synAcked | synAckedEof | finSent | finAcked => exact looped

theorem fillWindow_idle {s : TCPSender} (idle : s.hasWork = false) : s.fillWindow = s := by
  cases state : s.currentState with
  | closed => simp [hasWork, state] at idle
  | synSent => simp [fillWindow, state]
  | synAcked | synAckedEof | finSent | finAcked =>
      simp only [hasWork, state] at idle
      simp only [fillWindow, state]
      exact loop_of_stopped sendNext _ idle

section Prompts

variable (s : TCPSender) (ackno : WrappingInt32) (windowSize : UInt16)

def windowAfter : Nat :=
  if s.nextAckno ≤ unwrap ackno s.isn s.nextAckno ∧ unwrap ackno s.isn s.nextAckno ≤ s.nextSeqno then
    windowSize.toNat
  else s.windowSize

def roomAfter : Nat :=
  if s.bytesInFlight = sequenceLength (s.remaining ackno) ∧
      ∃ oldest ∈ (s.remaining ackno).getLast?, oldest.header.seqno.rawValue < ackno.rawValue then
    s.remainWindowSize
  else if s.windowAfter ackno windowSize = 0 ∧ sequenceLength (s.remaining ackno) = 0 then 1
  else s.windowAfter ackno windowSize

def edgeAfter : Nat :=
  (if s.matched ackno then max s.nextAckno (unwrap ackno s.isn s.nextAckno) else s.nextAckno) +
    s.roomAfter ackno windowSize

def Unsent : Prop :=
  s.stream.buffer ≠ [] ∨ s.stream.eof = true ∧ s.nextSeqno < s.stream.bytesWritten + 2

-- The acknowledgment lets something out: the SYN has been acknowledged, by it or before, and there is something to send
-- below the edge it moves the window to. A sender that was written to after its FIN has sent too much, and starts again.
def Prompts : Prop :=
  sequenceLength (s.remaining ackno) < s.nextSeqno ∧
    (s.nextSeqno < s.edgeAfter ackno windowSize ∧ s.Unsent ∨
      s.stream.eof = true ∧ s.stream.bytesWritten + 2 < s.nextSeqno)

instance : Decidable (s.Prompts ackno windowSize) := by
  unfold Prompts Unsent
  infer_instance

theorem startsBefore_iff : s.startsBefore ackno = true ↔
    ∃ oldest ∈ s.trackingSegments.getLast?, oldest.header.seqno.rawValue < ackno.rawValue := by
  unfold startsBefore
  cases s.trackingSegments.getLast? <;> simp

theorem retire_noteWindow :
    (s.noteWindow ackno windowSize).retire ackno =
      { (s.retire ackno) with windowSize := s.windowAfter ackno windowSize } := by
  have noted : s.noteWindow ackno windowSize = { s with windowSize := s.windowAfter ackno windowSize } := by
    simp only [noteWindow, windowAfter]
    split <;> rfl
  have same : { s with windowSize := s.windowAfter ackno windowSize }.matched ackno = s.matched ackno := rfl
  rw [noted, retire, retire, same]
  split <;> rfl

theorem ackReceived_edge :
    (s.ackReceived ackno windowSize).nextAckno + (s.ackReceived ackno windowSize).remainWindowSize =
      s.edgeAfter ackno windowSize := by
  have left : (s.retire ackno).nextAckno =
      if s.matched ackno then max s.nextAckno (unwrap ackno s.isn s.nextAckno) else s.nextAckno := by
    unfold retire
    split <;> rfl
  have kept : (s.retire ackno).trackedCount = s.bytesInFlight ∧
      (s.retire ackno).remainWindowSize = s.remainWindowSize := by
    unfold retire
    split <;> exact ⟨rfl, rfl⟩
  have early : (s.retire ackno).startsBefore ackno = true ↔
      ∃ oldest ∈ (s.remaining ackno).getLast?, oldest.header.seqno.rawValue < ackno.rawValue := by
    rw [startsBefore_iff, retire_trackingSegments]
  simp only [ackReceived, retire_noteWindow, edgeAfter, roomAfter, ← early, ← left, ← kept.1, ← kept.2]
  generalize s.retire ackno = t
  have same : { t with windowSize := s.windowAfter ackno windowSize }.startsBefore ackno = t.startsBefore ackno := rfl
  rw [same]
  split <;> rfl

theorem Counted.ackReceived_hasWork {s : TCPSender} (counted : s.Counted) (sent : s.nextSeqno ≠ 0) :
    (s.ackReceived ackno windowSize).hasWork = true ↔ s.Prompts ackno windowSize := by
  have fewer := (counted.remaining_le ackno).trans counted.within
  have flight : (s.ackReceived ackno windowSize).bytesInFlight = _ := s.ackReceived_trackedCount ackno windowSize
  have edge := s.ackReceived_edge ackno windowSize
  obtain ⟨-, stream, -, nextSeqno⟩ := s.ackReceived_frame ackno windowSize
  simp only [Prompts, Unsent, ← edge]
  generalize sequenceLength (s.remaining ackno) = left at fewer flight ⊢
  rw [← stream, ← nextSeqno]
  rw [← nextSeqno] at sent fewer
  generalize s.ackReceived ackno windowSize = t at *
  have nonempty : t.stream.bufferEmpty = false ↔ t.stream.buffer ≠ [] := by simp [ByteStream.bufferEmpty]
  by_cases unacked : left = t.nextSeqno
  · have state : t.currentState = .synSent := by
      simp only [currentState, nextSeqnoAbsolute, flight]
      rw [if_neg sent, if_pos (by omega)]
    simp [hasWork, state, unacked]
  · cases eof : t.stream.eof with
    | false =>
        have opened : left < t.nextSeqno := by omega
        have state : t.currentState = .synAcked := by
          simp only [currentState, nextSeqnoAbsolute, flight, eof]
          rw [if_neg sent, if_neg (by omega), if_pos ⟨opened, trivial⟩]
        simp only [hasWork, state, canSend, Bool.and_eq_true, Bool.or_eq_true, Bool.not_eq_true', nonempty,
          decide_eq_true_eq]
        simp [nextSeqnoAbsolute, opened]
    | true =>
        have drained : t.stream.buffer = [] := List.isEmpty_iff.mp (Bool.and_eq_true_iff.mp eof).2
        have opened : left < t.nextSeqno := by omega
        simp only [hasWork, canSend, currentState, nextSeqnoAbsolute, flight, eof, ByteStream.bufferEmpty, drained]
        grind

end Prompts

-- With nothing in flight there is always a window of at least one: a closed one is probed.
structure Ready (accepted : Bytes) (s : TCPSender) : Prop where
  tiled : ∃ acked, Tiled accepted acked s
  window : s.trackedCount = 0 → 1 ≤ s.remainWindowSize

structure Saturated (accepted : Bytes) (s : TCPSender) : Prop extends Ready accepted s where
  full : 0 < s.nextAckno → s.canSend = false
  opened : s.stream.isEnded = true → 0 < s.nextSeqno

theorem saturated_new (capacity : Nat) (retxTimeout : UInt16) (fixedIsn : Option WrappingInt32)
    (randomIsn : WrappingInt32) : Saturated [] (new capacity retxTimeout fixedIsn randomIsn) where
  tiled := ⟨[], tiled_new capacity retxTimeout fixedIsn randomIsn⟩
  window := by simp [new]
  full := by simp [new]
  opened := by simp [new]

section Ready

variable {accepted : Bytes} {s : TCPSender}

theorem Ready.sendNext (ready : Ready accepted s) (opened : 0 < s.nextAckno) (running : s.canSend = true) :
    Ready accepted s.sendNext := by
  obtain ⟨acked, tiled⟩ := ready.tiled
  have longer := (tiled.nextSegment_bounds opened running).1
  refine ⟨⟨acked, tiled.sendNext opened running⟩, fun nothing => ?_⟩
  simp only [TCPSender.sendNext, emit] at nothing
  omega

theorem Ready.fillWindow (ready : Ready accepted s) : Saturated accepted s.fillWindow := by
  obtain ⟨acked, tiled⟩ := ready.tiled
  obtain ⟨new, emits, after⟩ := tiled.fillWindow
  have filled : 0 < s.nextAckno → Ready accepted (loop canSend TCPSender.sendNext s.rounds s) := by
    intro opened
    refine (loop_invariant canSend TCPSender.sendNext (fun t => Ready accepted t ∧ 0 < t.nextAckno) ?_ s.rounds s
      ⟨ready, opened⟩).1
    rintro t running ⟨ready, opened⟩
    exact ⟨ready.sendNext opened running, opened⟩
  refine ⟨⟨⟨acked, after⟩, ?_⟩, fun opened => ?_, fun _ => s.fillWindow_opens⟩
  · rw [tiled.fillWindow_eq]
    split_ifs
    · simp [sendSyn, emit, synSegment, TCPSegment.lengthInSequenceSpace]
    · exact ready.window
    · exact (filled (by omega)).window
  · exact tiled.fillWindow_exits (by rwa [emits.nextAckno] at opened)

theorem Ready.write (ready : Ready accepted s) (open_ : s.stream.isEnded = false) (data : Bytes) :
    Ready (accepted ++ data.take (s.stream.appendLength data)) { s with stream := s.stream.append data } := by
  obtain ⟨acked, tiled⟩ := ready.tiled
  exact ⟨⟨acked, tiled.write open_ data⟩, ready.window⟩

theorem Ready.endInput (ready : Ready accepted s) : Ready accepted { s with stream := s.stream.endInput } := by
  obtain ⟨acked, tiled⟩ := ready.tiled
  exact ⟨⟨acked, tiled.endInput⟩, ready.window⟩

theorem Ready.ackReceived (ready : Ready accepted s) (ackno : WrappingInt32) (windowSize : UInt16) :
    Ready accepted (s.ackReceived ackno windowSize) := by
  obtain ⟨acked, tiled⟩ := ready.tiled
  obtain ⟨older, after, _⟩ := tiled.ackReceived ackno windowSize
  refine ⟨⟨_, after⟩, ?_⟩
  cases found : s.matched ackno with
  | true =>
      obtain ⟨_, _, _, _, _, _, _, _, equation⟩ := tiled.ackReceived_matched found windowSize
      rw [equation]
      intro nothing
      dsimp only at nothing ⊢
      split_ifs with closed
      · exact le_rfl
      · omega
  | false =>
      rw [tiled.ackReceived_unmatched found, noteWindow_frame]
      intro nothing
      have idle : s.startsBefore ackno = false := by simp [startsBefore, tiled.tracking_of_idle nothing]
      dsimp only at nothing ⊢
      simp only [idle, Bool.false_eq_true, if_false]
      split_ifs with closed
      · exact le_rfl
      · omega

theorem Saturated.frame (saturated : Saturated accepted s) (out : List TCPSegment) (hasError : Bool)
    (timer timeout count : Nat) :
    Saturated accepted { s with
      segmentsOut := out
      stream := { s.stream with hasError := hasError }
      timer := timer
      retransmissionTimeout := timeout
      consecutiveTimeOutCount := count } := by
  obtain ⟨acked, tiled⟩ := saturated.tiled
  exact ⟨⟨⟨acked, { tiled with }⟩, saturated.window⟩, saturated.full, saturated.opened⟩

-- The FIN is sent once the stream is drained and all of it acknowledged, whatever the peer's window.
theorem Saturated.finished (saturated : Saturated accepted s) (eof : s.stream.eof = true)
    (idle : s.trackedCount = 0) :
    s.nextSeqno = s.stream.bytesWritten + 2 ∧ s.nextAckno = s.nextSeqno := by
  obtain ⟨acked, tiled⟩ := saturated.tiled
  have count := tiled.count
  have last := tiled.last
  have written := tiled.written
  have window := saturated.window idle
  simp only [ByteStream.eof, ByteStream.inputEnded, ByteStream.bufferEmpty, Bool.and_eq_true, List.isEmpty_iff,
    tiled.buffer, List.drop_eq_nil_iff] at eof
  have opened := saturated.opened eof.1
  have stopped := saturated.full (by omega)
  rw [← Bool.not_eq_true, tiled.canSend_iff (by omega)] at stopped
  have unsent : s.nextSeqno ≠ accepted.length + 1 := fun pending => stopped ⟨by omega, Or.inr ⟨eof.1, pending⟩⟩
  simp only [ByteStream.bytesWritten, written]
  omega

end Ready

end Sponge.TCPSender
