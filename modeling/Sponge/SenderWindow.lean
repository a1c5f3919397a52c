import Sponge.SenderRuns
import Sponge.SenderSaturation

set_option autoImplicit false

namespace Sponge.TCPSender

open Shared

def absoluteEnds : Nat → List TCPSegment → List Nat
  | _, [] => []
  | start, seg :: rest =>
      (start + seg.lengthInSequenceSpace) :: absoluteEnds (start + seg.lengthInSequenceSpace) rest

theorem absoluteEnds_le_iff (limit start : Nat) (segs : List TCPSegment) :
    (∀ stop ∈ absoluteEnds start segs, stop ≤ limit) ↔ segs = [] ∨ start + sequenceLength segs ≤ limit := by
  induction segs generalizing start with
  | nil => simp [absoluteEnds]
  | cons seg rest ih =>
      simp only [absoluteEnds, List.forall_mem_cons, ih, sequenceLength, List.map_cons, List.sum_cons,
        reduceCtorEq, false_or]
      constructor
      · rintro ⟨first, rfl | later⟩
        · simpa using first
        · omega
      · intro all
        exact ⟨by omega, Or.inr (by omega)⟩

def Trace.WithinReach (t : Trace) : Prop :=
  ∀ stop ∈ absoluteEnds t.sender.nextSeqno t.sender.newlyEmitted, stop ≤ t.reach

instance (t : Trace) : Decidable t.WithinReach := inferInstanceAs (Decidable (∀ _ ∈ _, _))

/-- The last bytes of an ended stream fill the window exactly, and either something is in flight already or they take
several segments: the FIN is then weighed against the whole window and not against what is left of it. -/
def Overruns (s : TCPSender) (reach : Nat) : Prop :=
  s.stream.inputEnded = true ∧ 0 < s.stream.bufferSize ∧
    s.nextSeqno + s.stream.bufferSize = s.nextAckno + s.remainWindowSize ∧
    s.nextAckno + s.remainWindowSize = reach ∧
    (s.nextAckno < s.nextSeqno ∨ TCPConfig.maxPayloadSize < s.stream.bufferSize) ∧
    (s.stream.bufferSize ≤ TCPConfig.maxPayloadSize ∨ s.remainWindowSize = s.windowSize)

instance (s : TCPSender) (reach : Nat) : Decidable (s.Overruns reach) := inferInstanceAs (Decidable (_ ∧ _))

namespace Tiled

variable {accepted : Bytes} {acked : List TCPSegment} {s : TCPSender} {reach : Nat}

theorem newlyEmitted_eq_nil_iff (tiled : Tiled accepted acked s) (opened : 0 < s.nextAckno) :
    s.newlyEmitted = [] ↔ s.canSend = false := by
  obtain ⟨closed, unacked, _⟩ := tiled.currentState_opened opened
  obtain ⟨new, out, silent⟩ := s.fillWindow_out
  have work : s.hasWork = s.canSend := by
    cases state : s.currentState <;> simp_all [hasWork]
  rw [TCPSender.newlyEmitted, out, List.drop_left, silent, work]

theorem canSend_of_overruns (tiled : Tiled accepted acked s) (opened : 0 < s.nextAckno)
    (past : s.Overruns reach) : s.canSend = true := by
  obtain ⟨_, waiting, exactly, _⟩ := past
  have size := tiled.bufferSize
  have := tiled.outstanding.le
  exact (tiled.canSend_iff opened).mpr ⟨by omega, Or.inl (by omega)⟩

theorem readSize_stop (tiled : Tiled accepted acked s) (opened : 0 < s.nextAckno) (running : s.canSend = true) :
    s.nextSeqno + s.readSize ≤ s.nextAckno + s.remainWindowSize ∧
      (s.readSize = s.stream.bufferSize ∨ s.nextSeqno + s.readSize = s.nextAckno + s.remainWindowSize ∨
        s.readSize = TCPConfig.maxPayloadSize) := by
  obtain ⟨room, _⟩ := (tiled.canSend_iff opened).mp running
  obtain ⟨_, within, _⟩ := s.readSize_le
  constructor
  · omega
  · unfold readSize nextSeqnoAbsolute TCPConfig.maxPayloadSize
    split <;> omega

theorem sendNext_reach_open (tiled : Tiled accepted acked s) (opened : 0 < s.nextAckno)
    (running : s.canSend = true) (bound : s.nextAckno + s.remainWindowSize ≤ reach)
    (unended : s.stream.isEnded = false) :
    s.sendNext.nextSeqno ≤ reach ∧ ¬ s.Overruns reach ∧ ¬ s.sendNext.Overruns reach := by
  have more : s.nextSegment.header.fin = false := by
    rw [Bool.eq_false_iff, ne_eq, nextSegment_fin, unended]
    simp
  have length := s.nextSegment_length
  have nextSeqno : s.sendNext.nextSeqno = s.nextSeqno + s.nextSegment.lengthInSequenceSpace := rfl
  have fits := (tiled.readSize_stop opened running).1
  rw [more, if_neg (by simp)] at length
  refine ⟨by omega, ?_, ?_⟩
  · simp [Overruns, ByteStream.inputEnded, unended]
  · simp [Overruns, ByteStream.inputEnded, s.sendNext_emits.ended, unended]

-- The FIN goes out with the last bytes: one number past the window when they fill it.
theorem sendNext_reach_fin (tiled : Tiled accepted acked s) (opened : 0 < s.nextAckno)
    (running : s.canSend = true) (bound : s.nextAckno + s.remainWindowSize ≤ reach)
    (closing : s.nextSegment.header.fin = true) :
    s.sendNext.canSend = false ∧ (s.sendNext.nextSeqno ≤ reach ↔ ¬ s.Overruns reach) := by
  obtain ⟨narrow, ended, drained⟩ := s.nextSegment_fin.mp closing
  obtain ⟨room, unsent⟩ := (tiled.canSend_iff opened).mp running
  obtain ⟨fits, _⟩ := tiled.readSize_stop opened running
  have forward := tiled.outstanding.le
  have size := tiled.bufferSize
  have short := s.readSize_le.2.2
  have nextSeqno : s.sendNext.nextSeqno = s.nextSeqno + s.nextSegment.lengthInSequenceSpace := rfl
  have length := s.nextSegment_length
  rw [closing, if_pos rfl] at length
  constructor
  · rw [Bool.eq_false_iff, ne_eq, (tiled.sendNext opened running).canSend_iff opened]
    omega
  · simp only [Overruns, ByteStream.inputEnded, ended, true_and]
    omega

theorem sendNext_reach_more (tiled : Tiled accepted acked s) (opened : 0 < s.nextAckno)
    (running : s.canSend = true) (bound : s.nextAckno + s.remainWindowSize ≤ reach)
    (ended : s.stream.isEnded = true) (closing : s.nextSegment.header.fin = false) :
    if s.sendNext.canSend then (s.Overruns reach ↔ s.sendNext.Overruns reach)
    else (s.sendNext.nextSeqno ≤ reach ↔ ¬ s.Overruns reach) := by
  obtain ⟨room, unsent⟩ := (tiled.canSend_iff opened).mp running
  obtain ⟨fits, read⟩ := tiled.readSize_stop opened running
  obtain ⟨all, _, short⟩ := s.readSize_le
  have after := tiled.sendNext opened running
  have again := after.canSend_iff opened
  have forward := tiled.outstanding.le
  have ended' : s.sendNext.stream.isEnded = true := s.sendNext_emits.ended.trans ended
  have length := s.nextSegment_length
  rw [closing, if_neg (by simp)] at length
  have nextSeqno : s.sendNext.nextSeqno = s.nextSeqno + s.readSize := congrArg (s.nextSeqno + ·) length
  have held : s.remainWindowSize ≤ s.readSize ∨ s.readSize ≠ s.stream.bufferSize := by
    by_contra both
    rw [s.nextSegment_fin.mpr ⟨by omega, ended, by omega⟩] at closing
    cases closing
  have size := tiled.bufferSize
  have rest := s.sendNext_bufferSize
  rw [ended', show s.sendNext.nextAckno = s.nextAckno from rfl, nextSeqno] at again
  simp only [Overruns, ByteStream.inputEnded, ended, ended', show s.sendNext.nextAckno = s.nextAckno from rfl,
    nextSeqno, show s.sendNext.windowSize = s.windowSize from rfl, rest, true_and]
  unfold TCPConfig.maxPayloadSize at short read ⊢
  by_cases narrow : s.remainWindowSize = s.windowSize
  · have remain : s.sendNext.remainWindowSize = s.remainWindowSize := by simp [TCPSender.sendNext, narrow]
    rw [remain] at again ⊢
    split
    next more =>
      -- there is room left and something to send: this round took a full payload, and bytes remain
      obtain ⟨open_, waiting⟩ := again.mp more
      have full : s.readSize = 1000 := by omega
      have remaining : 1000 < s.stream.bufferSize := by omega
      rw [full]
      clear again held read waiting unsent fits size rest length nextSeqno
      constructor
      · rintro ⟨_, exactly, edge, _, _⟩
        exact ⟨by omega, by omega, edge, Or.inl (by omega), Or.inr narrow⟩
      · rintro ⟨_, exactly, edge, _, _⟩
        exact ⟨by omega, by omega, edge, Or.inr remaining, Or.inr narrow⟩
    next stopped =>
      rw [again] at stopped
      clear again
      omega
  · have remain : s.sendNext.remainWindowSize = 0 := by simp [TCPSender.sendNext, narrow]
    rw [remain] at again
    rw [if_neg (by rw [again]; omega)]
    clear again
    omega

-- One round: what it sends stays within reach, unless it is the last round of an overrun.
theorem sendNext_reach (tiled : Tiled accepted acked s) (opened : 0 < s.nextAckno)
    (running : s.canSend = true) (bound : s.nextAckno + s.remainWindowSize ≤ reach) :
    if s.sendNext.canSend then (s.Overruns reach ↔ s.sendNext.Overruns reach)
    else (s.sendNext.nextSeqno ≤ reach ↔ ¬ s.Overruns reach) := by
  cases ended : s.stream.isEnded with
  | false =>
      obtain ⟨within, before, after⟩ := tiled.sendNext_reach_open opened running bound ended
      split
      · exact iff_of_false before after
      · exact iff_of_true within before
  | true =>
      cases closing : s.nextSegment.header.fin with
      | true =>
          obtain ⟨stopped, within⟩ := tiled.sendNext_reach_fin opened running bound closing
          rwa [stopped, if_neg (by simp)]
      | false => exact tiled.sendNext_reach_more opened running bound ended closing

theorem loop_reach (rounds : Nat) (tiled : Tiled accepted acked s) (opened : 0 < s.nextAckno)
    (bound : s.nextAckno + s.remainWindowSize ≤ reach) (enough : s.rounds ≤ rounds) :
    (s.canSend = false ∨ (loop canSend TCPSender.sendNext rounds s).nextSeqno ≤ reach) ↔ ¬ s.Overruns reach := by
  induction rounds generalizing s with
  | zero =>
      have stopped : s.canSend = false := by
        by_contra running
        have := tiled.rounds_sendNext opened (by simpa using running)
        omega
      refine iff_of_true (Or.inl stopped) fun past => ?_
      rw [tiled.canSend_of_overruns opened past] at stopped
      cases stopped
  | succ rounds ih =>
      cases running : s.canSend with
      | false =>
          refine iff_of_true (Or.inl rfl) fun past => ?_
          rw [tiled.canSend_of_overruns opened past] at running
          cases running
      | true =>
          have fewer := tiled.rounds_sendNext opened running
          have step := tiled.sendNext_reach opened running bound
          have after := ih (tiled.sendNext opened running) opened
            (le_trans (Nat.add_le_add_left s.sendNext_emits.remain _) bound) (by omega)
          simp only [Bool.true_eq_false, false_or, loop, running, if_true]
          cases again : s.sendNext.canSend with
          | true =>
              rw [again, if_pos rfl] at step
              simpa [again, step] using after
          | false =>
              rw [again, if_neg (by simp)] at step
              rw [loop_of_stopped TCPSender.sendNext rounds again, step]

end Tiled

structure Trace.Allowed (t : Trace) : Prop where
  first : 1 ≤ t.reach
  remain : t.sender.nextAckno + t.sender.remainWindowSize ≤ t.reach
  window : t.sender.nextAckno + max t.sender.windowSize 1 ≤ t.reach

namespace Trace

variable {t : Trace} {acked : List TCPSegment}

theorem Allowed.ack (allowed : t.Allowed) (tiled : t.Tiled acked) (ackno : WrappingInt32)
    (windowSize : UInt16) : (t.step (.ack ackno windowSize)).Allowed := by
  have first := allowed.first
  have remain := allowed.remain
  have window := allowed.window
  have forward := tiled.1.outstanding.le
  cases found : t.sender.matched ackno with
  | true =>
      obtain ⟨newer, older, position, _, _, new, later, mark, after⟩ :=
        tiled.1.ackReceived_matched found windowSize
      have near := tiled.1.near
      have stop := new.le
      have absolute : unwrap ackno t.sender.isn t.sender.nextAckno = position := by
        rw [mark]
        exact unwrap_wrap_near _ _ _ (by omega) (by omega)
      have reach : (t.step (.ack ackno windowSize)).reach = max t.reach (position + max windowSize.toNat 1) := by
        simp only [step, absolute]
        rw [if_pos (by omega)]
      have sender : (t.step (.ack ackno windowSize)).sender = t.sender.ackReceived ackno windowSize :=
        t.step_sender _
      constructor
      · omega
      · rw [sender, reach, after]
        dsimp only
        split_ifs <;> omega
      · rw [sender, reach, after]
        dsimp only
        omega
  | false =>
      have after := tiled.1.ackReceived_unmatched found windowSize
      have sender : (t.step (.ack ackno windowSize)).sender = t.sender.ackReceived ackno windowSize :=
        t.step_sender _
      have noted : t.sender.nextAckno + max (t.sender.noteWindow ackno windowSize).windowSize 1 ≤
            (t.step (.ack ackno windowSize)).reach ∧ t.reach ≤ (t.step (.ack ackno windowSize)).reach := by
        simp only [step, noteWindow]
        split_ifs with inside
        · exact ⟨by dsimp only; omega, by dsimp only; omega⟩
        · exact ⟨by omega, le_rfl⟩
      have nextAckno : (t.sender.noteWindow ackno windowSize).nextAckno = t.sender.nextAckno := by
        rw [noteWindow_frame]
      constructor
      · omega
      · rw [sender, after, nextAckno]
        dsimp only
        split_ifs <;> omega
      · rw [sender, after, nextAckno]
        exact noted.1

theorem Allowed.step (allowed : t.Allowed) (tiled : t.Tiled acked) (op : Op) : (t.step op).Allowed := by
  cases op with
  | write data => exact ⟨allowed.first, allowed.remain, allowed.window⟩
  | endInput => exact ⟨allowed.first, allowed.remain, allowed.window⟩
  | fillWindow =>
      obtain ⟨new, emits, _⟩ := tiled.1.fillWindow
      refine ⟨allowed.first, ?_, ?_⟩
      · have := allowed.remain
        have := emits.remain
        simp only [Trace.step, TCPSender.step, emits.nextAckno]
        omega
      · simpa only [Trace.step, TCPSender.step, emits.nextAckno, emits.windowSize] using allowed.window
  | ack ackno windowSize => exact allowed.ack tiled ackno windowSize
  | tick ms =>
      refine ⟨allowed.first, ?_, ?_⟩
      · simp only [Trace.step, TCPSender.step]
        rw [tick_frame]
        exact allowed.remain
      · simp only [Trace.step, TCPSender.step]
        rw [tick_frame]
        exact allowed.window

theorem reaches_allowed {capacity : Nat} {retxTimeout : UInt16} {fixedIsn : Option WrappingInt32}
    {randomIsn : WrappingInt32}
    (run : Reaches Trace.step Trace.Legal (Trace.new capacity retxTimeout fixedIsn randomIsn) t) :
    ∃ acked, t.Tiled acked ∧ t.Allowed := by
  apply run.invariant (fun t => ∃ acked, t.Tiled acked ∧ t.Allowed)
  · exact ⟨[], ⟨tiled_new capacity retxTimeout fixedIsn randomIsn, rfl⟩,
      by constructor <;> simp [Trace.new, TCPSender.new]⟩
  · rintro t op ⟨acked, tiled, allowed⟩ legal
    obtain ⟨acked', tiled'⟩ := tiled.step legal
    exact ⟨acked', tiled', allowed.step tiled op⟩

theorem Tiled.withinReach_iff (tiled : t.Tiled acked) :
    t.WithinReach ↔ t.sender.newlyEmitted = [] ∨ t.sender.fillWindow.nextSeqno ≤ t.reach := by
  obtain ⟨new, emits, after⟩ := tiled.1.fillWindow
  have total := after.outstanding.total
  have before := tiled.1.outstanding.total
  rw [WithinReach, absoluteEnds_le_iff, emits.newlyEmitted]
  rw [emits.tracking, emits.nextAckno, List.reverse_append, List.reverse_reverse, List.map_append,
    List.sum_append, ← Nat.add_assoc, before] at total
  rw [sequenceLength, total]

end Trace

theorem within_reach_iff (capacity : Nat) (retxTimeout : UInt16) (fixedIsn : Option WrappingInt32)
    (randomIsn : WrappingInt32) (t : Trace)
    (run : Reaches Trace.step Trace.Legal (Trace.new capacity retxTimeout fixedIsn randomIsn) t) :
    t.WithinReach ↔ ¬ (0 < t.sender.nextAckno ∧ t.sender.Overruns t.reach) := by
  obtain ⟨acked, tiled, allowed⟩ := Trace.reaches_allowed run
  have filled := tiled.1.fillWindow_eq
  rw [tiled.withinReach_iff]
  split_ifs at filled with fresh unacked
  · have : t.sender.sendSyn.nextSeqno = t.sender.nextSeqno + 1 := rfl
    have := tiled.1.outstanding.le
    have := allowed.first
    rw [filled]
    refine iff_of_true (Or.inr (by omega)) fun past => ?_
    omega
  · refine iff_of_true (Or.inl ?_) fun past => absurd past.1 (by omega)
    rw [newlyEmitted, filled, List.drop_length]
  · have opened : 0 < t.sender.nextAckno := by omega
    rw [filled, and_iff_right opened, ← tiled.1.loop_reach _ opened allowed.remain le_rfl,
      tiled.1.newlyEmitted_eq_nil_iff opened]

theorem within_reach_iff_sample :
    ((sampleOps.take 8).foldl Trace.step (Trace.new 8 1000 (some sampleIsn) ⟨0⟩)).sender.newlyEmitted.length = 1 ∧
      ((sampleOps.take 8).foldl Trace.step (Trace.new 8 1000 (some sampleIsn) ⟨0⟩)).WithinReach :=
  ⟨by decide +kernel,
    (within_reach_iff 8 1000 (some sampleIsn) ⟨0⟩ _ (Reaches.start.foldl (by decide +kernel))).mpr
      (by decide +kernel)⟩

def overrunOps : List Op :=
  [.fillWindow, .ack (wrap 1 sampleIsn) 4, .write [1, 2, 3], .fillWindow, .write [4], .endInput]

theorem fin_past_window :
    Reaches Trace.step Trace.Legal (Trace.new 8 1000 (some sampleIsn) ⟨0⟩)
        (overrunOps.foldl Trace.step (Trace.new 8 1000 (some sampleIsn) ⟨0⟩)) ∧
      (overrunOps.foldl Trace.step (Trace.new 8 1000 (some sampleIsn) ⟨0⟩)).reach = 5 ∧
      absoluteEnds (overrunOps.foldl Trace.step (Trace.new 8 1000 (some sampleIsn) ⟨0⟩)).sender.nextSeqno
        (overrunOps.foldl Trace.step (Trace.new 8 1000 (some sampleIsn) ⟨0⟩)).sender.newlyEmitted = [6] ∧
      ¬ (overrunOps.foldl Trace.step (Trace.new 8 1000 (some sampleIsn) ⟨0⟩)).WithinReach :=
  ⟨Reaches.start.foldl (by decide +kernel), by decide +kernel, by decide +kernel, by decide +kernel⟩

end Sponge.TCPSender
