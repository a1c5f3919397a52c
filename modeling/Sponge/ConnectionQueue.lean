import Sponge.ConnectionRuns
import Sponge.SenderSaturation

set_option autoImplicit false

namespace Sponge

open Shared

namespace TCPSender

theorem hasWork_of_finSent {s : TCPSender} (sent : s.finSent = true) : s.hasWork = false := by
  simp only [finSent, ByteStream.eof, Bool.and_eq_true, beq_iff_eq, nextSeqnoAbsolute] at sent
  obtain ⟨⟨ended, drained⟩, reached⟩ := sent
  have state : s.currentState ≠ .closed ∧ s.currentState ≠ .synAckedEof := by
    simp only [currentState, nextSeqnoAbsolute, ByteStream.eof, ended, drained]
    grind
  simp only [hasWork]
  split
  · exact absurd ‹_› state.1
  · rfl
  · simp [canSend, drained, state.2]

theorem ackReceived_finSent (s : TCPSender) (ackno : WrappingInt32) (windowSize : UInt16) (sent : s.finSent = true) :
    (s.ackReceived ackno windowSize).finSent = true := by
  obtain ⟨_, stream, _, nextSeqno⟩ := s.ackReceived_frame ackno windowSize
  simpa only [finSent, nextSeqnoAbsolute, stream, nextSeqno] using sent

-- As the sender makes its segments: `ack` only where it marks a FIN, and no reset.
def Own (seg : TCPSegment) : Prop := seg.header.ack = seg.header.fin ∧ seg.header.rst = false

structure Unmarked (s : TCPSender) : Prop where
  queue : ∀ seg ∈ s.segmentsOut, Own seg
  tracked : ∀ seg ∈ s.trackingSegments, Own seg

theorem Unmarked.emit {s : TCPSender} (unmarked : s.Unmarked) {seg : TCPSegment} (own : Own seg) :
    (s.emit seg).Unmarked where
  queue := by simpa [TCPSender.emit, or_imp, forall_and, own] using unmarked.queue
  tracked := by simpa [TCPSender.emit, own] using unmarked.tracked

theorem Unmarked.fillWindow {s : TCPSender} (unmarked : s.Unmarked) : s.fillWindow.Unmarked := by
  apply s.fillWindow_invariant Unmarked unmarked
  · have emitted := unmarked.emit (show Own s.synSegment from ⟨rfl, rfl⟩)
    exact ⟨emitted.queue, emitted.tracked⟩
  · intro t before
    have own : Own t.nextSegment := ⟨rfl, rfl⟩
    have emitted := Unmarked.emit (s := { t with stream := t.readPayload.2 }) ⟨before.queue, before.tracked⟩ own
    exact ⟨emitted.queue, emitted.tracked⟩

theorem Unmarked.ackReceived {s : TCPSender} (unmarked : s.Unmarked) (ackno : WrappingInt32)
    (windowSize : UInt16) : (s.ackReceived ackno windowSize).Unmarked where
  queue := by
    rw [(ackReceived_frame ..).2.2.1]
    exact unmarked.queue
  tracked := by
    rw [ackReceived_trackingSegments]
    exact fun seg member => unmarked.tracked seg ((List.takeWhile_prefix _).subset member)

theorem Unmarked.tick {s : TCPSender} (unmarked : s.Unmarked) (ms : Nat) : (s.tick ms).Unmarked where
  queue := by
    rcases s.tick_segmentsOut ms with same | ⟨_, sent⟩
    · rw [same]
      exact unmarked.queue
    · rw [sent]
      intro seg member
      rcases List.mem_append.mp member with old | oldest
      · exact unmarked.queue seg old
      · exact unmarked.tracked seg (List.mem_of_getLast? (Option.mem_toList.mp oldest))
  tracked := by
    rw [tick_frame]
    exact unmarked.tracked

end TCPSender

namespace TCPConnection

theorem unmarked_kept : Keeps (fun _ => True) TCPSender.Unmarked where
  fillWindow before := before.fillWindow
  write before _ _ := TCPSender.Unmarked.fillWindow ⟨before.queue, before.tracked⟩
  endInput before := TCPSender.Unmarked.fillWindow ⟨before.queue, before.tracked⟩
  ack before _ ackno windowSize := (before.ackReceived ackno windowSize).fillWindow
  tick before ms := before.tick ms
  empty before :=
    ⟨by simpa [TCPSender.sendEmptySegment, or_imp, forall_and, TCPSender.Own] using before.queue, before.tracked⟩
  drain before := ⟨by simp, before.tracked⟩
  setError before := ⟨before.queue, before.tracked⟩

theorem run_unmarked (cfg : TCPConfig) (randomIsn : WrappingInt32) (events : List Event) :
    (run cfg randomIsn events).sender.Unmarked :=
  unmarked_kept.foldl (allPermitted _ events) ⟨by simp [new, TCPSender.new], by simp [new, TCPSender.new]⟩

theorem counted_kept : Keeps (fun _ => True) TCPSender.Counted where
  fillWindow before := before.fillWindow
  write before _ _ := TCPSender.Counted.fillWindow ⟨before.flight, before.within⟩
  endInput before := TCPSender.Counted.fillWindow ⟨before.flight, before.within⟩
  ack before _ ackno windowSize := (before.ackReceived ackno windowSize).fillWindow
  tick before ms := before.tick ms
  empty before := ⟨before.flight, before.within⟩
  drain before := ⟨before.flight, before.within⟩
  setError before := ⟨before.flight, before.within⟩

-- An acknowledgment that the connection puts something on its queue for: new segments, or some that were left over.
def LetsOut (c : TCPConnection) (seg : TCPSegment) : Prop :=
  c.sender.nextSeqno ≠ 0 ∧ seg.header.ack = true ∧
    (c.sender.segmentsOut ≠ [] ∨ c.sender.Prompts seg.header.ackno seg.header.win)

def Answers (c : TCPConnection) (seg : TCPSegment) : Prop :=
  c.LetsOut seg ∨
    0 < seg.lengthInSequenceSpace ∧ (c.sender.nextSeqno = 0 ∨ c.segmentsOut = [] ∨ c.sender.segmentsOut ≠ [])

instance (c : TCPConnection) (seg : TCPSegment) : Decidable (c.LetsOut seg) := inferInstanceAs (Decidable (_ ∧ _))

instance (c : TCPConnection) (seg : TCPSegment) : Decidable (c.Answers seg) := inferInstanceAs (Decidable (_ ∨ _))

section Queue

variable (c : TCPConnection) (seg : TCPSegment)

theorem accept_eq : (c.accept seg).segmentsOut = c.segmentsOut ∧
    (c.accept seg).sender = if seg.header.rst then c.sender.setError else c.sender := by
  simp only [accept]
  split <;> exact ⟨rfl, rfl⟩

theorem closeIfDone_out : c.closeIfDone.segmentsOut = c.segmentsOut := by
  simp only [closeIfDone]
  split_ifs <;> rfl

theorem answer_out : ∃ new, c.answer.segmentsOut = c.segmentsOut ++ new ∧
    (new = [] ↔ c.segmentsOut ≠ [] ∧ c.sender.segmentsOut = []) := by
  simp only [answer]
  split
  next nothing => exact ⟨_, rfl, by simp [TCPSender.sendEmptySegment, List.isEmpty_iff.mp nothing]⟩
  next waiting => exact ⟨_, rfl, by simp_all⟩

theorem connect_out (fresh : c.sender.nextSeqno = 0) :
    ∃ new, c.connect.segmentsOut = c.segmentsOut ++ new ∧ new ≠ [] := by
  obtain ⟨new, out, idle⟩ := c.sender.fillWindow_out
  have work : c.sender.hasWork = true := by
    simp [TCPSender.hasWork, TCPSender.currentState, TCPSender.nextSeqnoAbsolute, fresh]
  refine ⟨_, rfl, ?_⟩
  simp [out, idle, work]

theorem acknowledge_fresh_iff : (c.acknowledge seg).sender.nextSeqno = 0 ↔ c.sender.nextSeqno = 0 := by
  simp only [acknowledge]
  split
  next acked => exact iff_of_false (syn_kept.ack acked.1 acked.1 _ _) acked.1
  next => exact Iff.rfl

theorem acknowledge_out (counted : c.sender.Counted) :
    ∃ new, (c.acknowledge seg).segmentsOut = c.segmentsOut ++ new ∧ (new = [] ↔ ¬ c.LetsOut seg) ∧
      ((c.acknowledge seg).sender.segmentsOut = [] ↔
        c.sender.segmentsOut = [] ∨ c.sender.nextSeqno ≠ 0 ∧ seg.header.ack = true) := by
  obtain ⟨new, out, idle⟩ := (c.sender.ackReceived seg.header.ackno seg.header.win).fillWindow_out
  rw [(TCPSender.ackReceived_frame ..).2.2.1] at out
  by_cases acked : c.sender.nextSeqno ≠ 0 ∧ seg.header.ack = true
  · rw [← Bool.not_eq_true, counted.ackReceived_hasWork _ _ acked.1] at idle
    rw [acknowledge, if_pos (by exact acked)]
    exact ⟨_, rfl, by simp [out, idle, acked, LetsOut], by simp [moveToSegmentsOut, acked]⟩
  · have silent : ¬ c.LetsOut seg := fun all => acked ⟨all.1, all.2.1⟩
    rw [acknowledge, if_neg (by exact acked)]
    exact ⟨[], by simp, by simp [silent], by simp [acked]⟩

theorem accept_nextSeqno : (c.accept seg).sender.nextSeqno = c.sender.nextSeqno := by
  rw [(c.accept_eq seg).2]
  split <;> rfl

theorem acknowledged_fresh_iff :
    ((c.accept seg).acknowledge seg).sender.nextSeqnoAbsolute = 0 ↔ c.sender.nextSeqno = 0 := by
  have fresh := (c.accept seg).acknowledge_fresh_iff seg
  rwa [accept_nextSeqno] at fresh

theorem segmentReceived_out (counted : c.sender.Counted) :
    ∃ new, (c.segmentReceived seg).segmentsOut = c.segmentsOut ++ new ∧ (new = [] ↔ ¬ c.Answers seg) := by
  obtain ⟨queue, sender⟩ := c.accept_eq seg
  have accepted : (c.accept seg).sender.Counted := by
    rw [sender]
    split
    · exact counted_kept.setError counted
    · exact counted
  have absolute := c.acknowledged_fresh_iff seg
  obtain ⟨new, out, silent, drained⟩ := (c.accept seg).acknowledge_out seg accepted
  have same : (c.accept seg).LetsOut seg ↔ c.LetsOut seg := by
    simp only [LetsOut, sender]
    split <;> exact Iff.rfl
  have waiting : (c.accept seg).sender.segmentsOut = c.sender.segmentsOut := by
    rw [sender]
    split <;> rfl
  rw [queue] at out
  rw [waiting, accept_nextSeqno] at drained
  rw [same] at silent
  simp only [segmentReceived]
  generalize (c.accept seg).acknowledge seg = d at out absolute drained
  split_ifs with occupies first
  · obtain ⟨more, connected, nonempty⟩ := d.connect_out first
    exact ⟨new ++ more, by simp [connected, out], by simp [Answers, nonempty, occupies, absolute.mp first]⟩
  · obtain ⟨more, answered, idle⟩ := d.answer_out
    refine ⟨new ++ more, by simp [closeIfDone_out, answered, out], ?_⟩
    have unopened : c.sender.nextSeqno ≠ 0 := fun none => first (absolute.mpr none)
    by_cases loud : c.LetsOut seg
    · simp [silent, Answers, loud]
    · have nothing := silent.mpr loud
      have left : d.sender.segmentsOut = [] ↔ c.sender.segmentsOut = [] := by
        rw [drained]
        refine or_iff_left_of_imp fun acked => ?_
        by_contra some
        exact loud ⟨acked.1, acked.2, Or.inl some⟩
      simp [Answers, loud, occupies, unopened, idle, nothing, out, left]
  · exact ⟨new, by simp [closeIfDone_out, out], by simp [silent, Answers, occupies]⟩

end Queue

def Grows (ok : TCPSegment → Prop) (c c' : TCPConnection) : Prop :=
  ∃ new, c'.segmentsOut = c.segmentsOut ++ new ∧ ∀ seg ∈ new, ok seg

section Grows

variable {ok : TCPSegment → Prop} {c c' c'' : TCPConnection}

theorem Grows.of_eq (same : c'.segmentsOut = c.segmentsOut) : Grows ok c c' := ⟨[], by simp [same], by simp⟩

theorem Grows.trans (first : Grows ok c c') (second : Grows ok c' c'') : Grows ok c c'' := by
  obtain ⟨new, out, each⟩ := first
  obtain ⟨more, out', each'⟩ := second
  refine ⟨new ++ more, by rw [out', out, List.append_assoc], fun seg member => ?_⟩
  rcases List.mem_append.mp member with early | late
  · exact each seg early
  · exact each' seg late

theorem Grows.appended {event : Event} (grows : Grows ok c (c.step event)) : ∀ seg ∈ c.appended event, ok seg := by
  obtain ⟨new, out, each⟩ := grows
  simpa [TCPConnection.appended, out] using each

def Stamped (r : TCPReceiver) (seg : TCPSegment) : Prop := ∃ original, TCPSender.Own original ∧ seg = stamp r original

theorem Stamped.plain {r : TCPReceiver} {seg : TCPSegment} (stamped : Stamped r seg) : seg.header.rst = false := by
  obtain ⟨original, own, rfl⟩ := stamped
  simp only [stamp]
  split <;> exact own.2

theorem grows_move (unmarked : c.sender.Unmarked) : Grows (Stamped c.receiver) c c.moveToSegmentsOut := by
  refine ⟨_, rfl, fun seg member => ?_⟩
  obtain ⟨original, queued, rfl⟩ := List.mem_map.mp member
  exact ⟨original, unmarked.queue original queued, rfl⟩

theorem grows_acknowledge (unmarked : c.sender.Unmarked) (seg : TCPSegment) :
    Grows (Stamped c.receiver) c (c.acknowledge seg) := by
  simp only [acknowledge]
  split
  next => exact grows_move (c := { c with sender := _ }) (unmarked.ackReceived _ _).fillWindow
  next => exact .of_eq rfl

theorem acknowledge_receiver (c : TCPConnection) (seg : TCPSegment) : (c.acknowledge seg).receiver = c.receiver := by
  simp only [acknowledge]
  split <;> rfl

theorem answer_receiver (c : TCPConnection) : c.answer.receiver = c.receiver := by
  simp only [answer]
  split <;> rfl

theorem closeIfDone_receiver (c : TCPConnection) : c.closeIfDone.receiver = c.receiver := by
  simp only [closeIfDone]
  split_ifs <;> rfl

theorem segmentReceived_receiver (c : TCPConnection) (seg : TCPSegment) :
    (c.segmentReceived seg).receiver = (c.accept seg).receiver := by
  simp only [segmentReceived]
  split_ifs
  · exact acknowledge_receiver _ seg
  · rw [closeIfDone_receiver, answer_receiver, acknowledge_receiver]
  · rw [closeIfDone_receiver, acknowledge_receiver]

theorem grows_segmentReceived (unmarked : c.sender.Unmarked) (seg : TCPSegment) :
    Grows (Stamped (c.segmentReceived seg).receiver) c (c.segmentReceived seg) := by
  obtain ⟨queue, sender⟩ := c.accept_eq seg
  have accepted : (c.accept seg).sender.Unmarked := by
    rw [sender]
    split
    · exact ⟨unmarked.queue, unmarked.tracked⟩
    · exact unmarked
  have noted := unmarked_kept.acknowledge accepted seg
  rw [segmentReceived_receiver]
  have first : Grows (Stamped (c.accept seg).receiver) c ((c.accept seg).acknowledge seg) :=
    (Grows.of_eq queue).trans (grows_acknowledge accepted seg)
  have same := acknowledge_receiver (c.accept seg) seg
  simp only [segmentReceived]
  generalize (c.accept seg).acknowledge seg = d at *
  rw [← same] at first ⊢
  split_ifs
  · exact first.trans (grows_move (c := { d with sender := d.sender.fillWindow }) noted.fillWindow)
  · refine first.trans (Grows.trans ?_ (.of_eq d.answer.closeIfDone_out))
    simp only [answer]
    split
    next => exact grows_move (c := { d with sender := d.sender.sendEmptySegment }) (unmarked_kept.empty noted)
    next => exact grows_move noted
  · exact first.trans (.of_eq d.closeIfDone_out)

theorem Grows.mono {ok' : TCPSegment → Prop} (grows : Grows ok c c') (weaker : ∀ seg, ok seg → ok' seg) :
    Grows ok' c c' := by
  obtain ⟨new, out, each⟩ := grows
  exact ⟨new, out, fun seg member => weaker seg (each seg member)⟩

def Queued (r : TCPReceiver) (seg : TCPSegment) : Prop := seg = rstSegment ∨ Stamped r seg

theorem grows_tick (unmarked : c.sender.Unmarked) (ms : Nat) :
    Grows (Queued (c.tick ms).receiver) c (c.tick ms) := by
  have queue : (c.passTime ms).segmentsOut = c.segmentsOut := by rw [passTime_frame]
  have ticked : (c.passTime ms).sender.Unmarked := by
    rw [passTime_sender]
    exact unmarked.tick ms
  refine (Grows.of_eq queue).trans ?_
  simp only [tick]
  split
  next => exact ⟨[rstSegment], rfl, by simp [Queued]⟩
  next => exact (grows_move ticked).mono fun _ => Or.inr

theorem step_grows (unmarked : c.sender.Unmarked) {event : Event} (kept : event ≠ .transmit) :
    Grows (Queued (c.step event).receiver) c (c.step event) := by
  have moved {s : TCPSender} (unmarked : s.Unmarked) :
      Grows (Queued c.receiver) c { c with sender := s }.moveToSegmentsOut :=
    Grows.mono (grows_move (c := { c with sender := s }) unmarked) fun _ => Or.inr
  cases event with
  | connect => exact moved unmarked.fillWindow
  | write data => exact moved (unmarked_kept.write unmarked trivial data)
  | endInputStream => exact moved (unmarked_kept.endInput unmarked)
  | read len | popOutput len => exact .of_eq rfl
  | tick ms => exact grows_tick unmarked ms
  | transmit => exact absurd rfl kept
  | deliver seg => exact (grows_segmentReceived unmarked seg).mono fun _ => Or.inr

theorem appended_queued (unmarked : c.sender.Unmarked) {event : Event} {seg : TCPSegment}
    (member : seg ∈ c.appended event) : Queued (c.step event).receiver seg := by
  by_cases taken : event = .transmit
  · simp [taken, appended, step, List.drop_eq_nil_of_le] at member
  · exact (step_grows unmarked taken).appended seg member

end Grows

end TCPConnection

end Sponge
