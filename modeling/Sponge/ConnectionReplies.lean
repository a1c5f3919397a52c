import Sponge.ConnectionCalls

set_option autoImplicit false

namespace Sponge

open Shared

namespace TCPConnection

theorem enqueued_of_throw {c : TCPConnection} {seg : TCPSegment} (noted : Noted c (c.call (.deliver seg)).1) :
    c.enqueued (.deliver seg) = [] := by
  rw [enqueued, noted.frame]
  exact List.drop_length

theorem enqueued_of_return {c : TCPConnection} {event : Event} (called : c.call event = (c.step event, .ok ())) :
    c.enqueued event = c.appended event := by
  rw [enqueued, called]
  rfl

theorem enqueued_deliver_eq_nil_iff {c : TCPConnection} (counted : c.sender.Counted) (seg : TCPSegment) :
    c.enqueued (.deliver seg) = [] ↔ c.Throws seg ∨ ¬c.Answers seg := by
  rcases c.deliver_cases seg with ⟨throws, noted⟩ | ⟨returns, called⟩
  · exact iff_of_true (enqueued_of_throw noted) (.inl throws)
  · obtain ⟨new, out, silent⟩ := c.segmentReceived_out seg counted
    simp [enqueued, called, out, silent, returns]

theorem aborted_iff_of_reset {c : TCPConnection} {seg : TCPSegment} (reset : seg.header.rst = true) :
    (c.call (.deliver seg)).1.Aborted ↔ ¬c.Throws seg ∨ c.Aborted := by
  rcases c.deliver_cases seg with ⟨throws, noted⟩ | ⟨returns, called⟩
  · have same : (c.call (.deliver seg)).1.Aborted ↔ c.Aborted := by
      have stream := noted.stream
      rw [noted.frame] at stream ⊢
      constructor
      · rintro ⟨inactive, outbound, inbound⟩
        exact ⟨inactive, outbound, stream ▸ inbound⟩
      · rintro ⟨inactive, outbound, inbound⟩
        exact ⟨inactive, outbound, stream ▸ inbound⟩
    simp [same, throws]
  · rw [called]
    exact iff_of_true (aborted_of_reset reset) (.inl returns)

-- A reset ends the connection for good, but it is answered like any other segment.
theorem reset_unanswered_iff (cfg : TCPConfig) (randomIsn : WrappingInt32) (before : List Event) (seg : TCPSegment)
    (reset : seg.header.rst = true) :
    let c := calls cfg randomIsn before
    (c.enqueued (.deliver seg) = [] ↔ c.Throws seg ∨ ¬c.Answers seg) ∧
      ((∀ later, (calls cfg randomIsn (before ++ .deliver seg :: later)).Aborted) ↔ ¬c.Throws seg ∨ c.Aborted) ∧
      (0 < cfg.recvCapacity → c.inboundStream.bytesWritten + cfg.recvCapacity < 2 ^ 64 → ¬c.Throws seg) := by
  refine ⟨enqueued_deliver_eq_nil_iff (calls_counted cfg randomIsn before) seg, ?_,
    fun positive room => calls_return cfg randomIsn before positive room seg⟩
  rw [← aborted_iff_of_reset reset]
  constructor
  · intro always
    have now := always []
    rw [calls_append] at now
    exact now
  · intro aborted later
    rw [calls_append]
    exact aborted.calls later

def establishedWithData : List Event :=
  [.deliver sampleSyn, .transmit, .deliver { header := { seqno := ⟨8⟩, ack := true, ackno := ⟨6⟩, win := 10 } },
    .write [1, 2, 3]]

def sampleReset : TCPSegment :=
  { header := { rst := true, ack := true, seqno := ⟨8⟩, ackno := ⟨6⟩, win := 10 }, payload := [9] }

theorem reset_unanswered_iff_sample :
    (calls {} ⟨5⟩ establishedWithData).segmentsOut.map (·.payload) = [[1, 2, 3]] ∧
      (calls {} ⟨5⟩ establishedWithData).enqueued (.deliver sampleReset) = [] ∧
      ∀ later, (calls {} ⟨5⟩ (establishedWithData ++ .deliver sampleReset :: later)).Aborted := by
  have all := reset_unanswered_iff {} ⟨5⟩ establishedWithData sampleReset rfl
  have returns := all.2.2 (by decide) (by decide)
  exact ⟨by decide, all.1.mpr (.inr (by decide)), all.2.1.mpr (.inl returns)⟩

theorem reset_with_payload_answered :
    (calls { fixedIsn := some ⟨5⟩ } ⟨0⟩ [.deliver sampleSyn, .transmit,
      .deliver { header := { seqno := ⟨8⟩, ack := true, ackno := ⟨6⟩, win := 10 } }]).enqueued
        (.deliver { header := { rst := true, seqno := ⟨8⟩ }, payload := [1] }) ≠ [] := by
  decide

-- Once the peer's SYN is there, all that goes on the queue acknowledges: the one question is whether anything does.
theorem segment_acknowledged_iff (cfg : TCPConfig) (randomIsn : WrappingInt32) (before : List Event)
    (seg : TCPSegment) (sent : (calls cfg randomIsn before).sender.nextSeqnoAbsolute ≠ 0)
    (opened : (calls cfg randomIsn before).receiver.haveSYN = true) (occupies : 0 < seg.lengthInSequenceSpace) :
    let c := calls cfg randomIsn before
    ((∃ reply ∈ c.enqueued (.deliver seg), reply.header.ack = true ∧
        (c.call (.deliver seg)).1.receiver.ackno = some reply.header.ackno) ↔
      ¬c.Throws seg ∧ (c.segmentsOut = [] ∨ c.sender.segmentsOut ≠ [] ∨
        seg.header.ack = true ∧ c.sender.Prompts seg.header.ackno seg.header.win)) ∧
      (0 < cfg.recvCapacity → c.inboundStream.bytesWritten + cfg.recvCapacity < 2 ^ 64 → ¬c.Throws seg) := by
  intro c
  refine ⟨?_, fun positive room => calls_return cfg randomIsn before positive room seg⟩
  have unmarked : c.sender.Unmarked := calls_unmarked cfg randomIsn before
  have answers : c.Answers seg ↔ c.segmentsOut = [] ∨ c.sender.segmentsOut ≠ [] ∨
      seg.header.ack = true ∧ c.sender.Prompts seg.header.ackno seg.header.win := by
    have unopened : c.sender.nextSeqno ≠ 0 := sent
    by_cases left : c.sender.segmentsOut = []
    · simp [Answers, LetsOut, unopened, occupies, left, or_comm]
    · simp [Answers, occupies, left]
  have stamped : ∀ reply ∈ c.enqueued (.deliver seg), reply.header.ack = true ∧
      (c.call (.deliver seg)).1.receiver.ackno = some reply.header.ackno := by
    intro reply member
    rcases c.deliver_cases seg with ⟨-, noted⟩ | ⟨-, called⟩
    · rw [enqueued_of_throw noted] at member
      exact absurd member List.not_mem_nil
    · rw [enqueued_of_return called] at member
      rw [called]
      obtain ⟨original, _, rfl⟩ := (grows_segmentReceived unmarked seg).appended reply member
      obtain ⟨ackno, known⟩ := TCPReceiver.ackno_of_haveSYN ((later_step c (.deliver seg)).haveSYN opened)
      simp [stamp, show (c.segmentReceived seg).receiver.ackno = some ackno from known]
  have silent := enqueued_deliver_eq_nil_iff (calls_counted cfg randomIsn before) seg
  rw [← answers]
  constructor
  · rintro ⟨reply, member, -⟩
    have loud := List.ne_nil_of_mem member
    rwa [Ne, silent, not_or, not_not] at loud
  · rintro ⟨returns, loud⟩
    obtain ⟨reply, member⟩ := List.exists_mem_of_ne_nil _ (mt silent.mp (not_or.mpr ⟨returns, not_not.mpr loud⟩))
    exact ⟨reply, member, stamped reply member⟩

def sampleData (seqno : UInt32) : TCPSegment := { header := { seqno := ⟨seqno⟩ }, payload := [1] }

theorem segment_acknowledged_iff_sample :
    ∃ reply ∈ (calls {} ⟨5⟩ [.deliver sampleSyn, .transmit]).enqueued (.deliver (sampleData 8)),
      reply.header.ack = true ∧
        ((calls {} ⟨5⟩ [.deliver sampleSyn, .transmit]).call (.deliver (sampleData 8))).1.receiver.ackno =
          some reply.header.ackno := by
  have both := segment_acknowledged_iff {} ⟨5⟩ [.deliver sampleSyn, .transmit] (sampleData 8) (by decide) (by decide)
    (by decide)
  exact both.1.mpr ⟨both.2 (by decide) (by decide), .inl (by decide)⟩

theorem second_segment_unanswered :
    (calls {} ⟨5⟩ [.deliver sampleSyn, .transmit, .deliver (sampleData 8)]).enqueued (.deliver (sampleData 9)) = [] ∧
      (calls {} ⟨5⟩ [.deliver sampleSyn, .transmit, .deliver (sampleData 8)]).segmentsOut.map (·.header.ackno) =
        [⟨9⟩] ∧
      (calls {} ⟨5⟩ [.deliver sampleSyn, .transmit, .deliver (sampleData 8),
        .deliver (sampleData 9)]).receiver.ackno = some ⟨10⟩ := by
  decide

def Truthful (r : TCPReceiver) (seg : TCPSegment) : Prop :=
  (seg.header.ack = true ↔ r.ackno.isSome = true) ∧ (seg.header.ack = true → r.ackno = some seg.header.ackno)

instance (r : TCPReceiver) (seg : TCPSegment) : Decidable (Truthful r seg) := inferInstanceAs (Decidable (_ ∧ _))

def TellsTruth (c : TCPConnection) (event : Event) : Prop :=
  ∀ seg ∈ c.enqueued event, seg.header.rst = false → Truthful (c.call event).1.receiver seg

-- Until the peer's SYN is there, the owner does not end the stream with the own SYN acknowledged, and nothing
-- acknowledges that SYN once the stream has been ended.
def FinInTurn (c : TCPConnection) : Event → Prop
  | .endInputStream => c.sender.nextSeqnoAbsolute ≠ c.sender.bytesInFlight → c.receiver.haveSYN = true
  | .deliver seg =>
      c.sender.stream.inputEnded = true → seg.header.ack = true → c.sender.matched seg.header.ackno = true →
        c.receiver.haveSYN = true ∨ seg.header.syn = true
  | _ => True

instance (c : TCPConnection) : (event : Event) → Decidable (c.FinInTurn event)
  | .endInputStream | .deliver _ => inferInstanceAs (Decidable (_ → _))
  | .connect | .write _ | .read _ | .popOutput _ | .tick _ | .transmit => inferInstanceAs (Decidable True)

theorem truthful_stamp_iff (r : TCPReceiver) {original : TCPSegment} (own : TCPSender.Own original) :
    Truthful r (stamp r original) ↔ ((stamp r original).header.fin = true → r.haveSYN = true) := by
  rw [Truthful, TCPReceiver.ackno_isSome, stamp]
  cases opened : r.haveSYN with
  | true =>
      obtain ⟨ackno, known⟩ := TCPReceiver.ackno_of_haveSYN opened
      simp [known]
  | false =>
      have unknown : r.ackno = none := by simp [TCPReceiver.ackno, opened]
      simp [unknown, own.1]

end TCPConnection

namespace TCPSender

structure Unfinished (s : TCPSender) : Prop where
  queue : ∀ seg ∈ s.segmentsOut, seg.header.fin = false
  tracked : ∀ seg ∈ s.trackingSegments, seg.header.fin = false
  waits : s.stream.isEnded = true → s.nextSeqno = s.trackedCount

section Unfinished

variable {s : TCPSender}

theorem Unfinished.emit (unfinished : s.Unfinished) {seg : TCPSegment} (plain : seg.header.fin = false) :
    (s.emit seg).Unfinished where
  queue := by simpa [TCPSender.emit, or_imp, forall_and, plain] using unfinished.queue
  tracked := by simpa [TCPSender.emit, plain] using unfinished.tracked
  waits ended := congrArg (· + seg.lengthInSequenceSpace) (unfinished.waits ended)

theorem Unfinished.fillWindow (unfinished : s.Unfinished) : s.fillWindow.Unfinished := by
  have syn : s.sendSyn.Unfinished := by
    have emitted := unfinished.emit (show s.synSegment.header.fin = false from rfl)
    exact ⟨emitted.queue, emitted.tracked, emitted.waits⟩
  cases ended : s.stream.isEnded with
  | true =>
      have flight : s.nextSeqnoAbsolute = s.bytesInFlight := unfinished.waits ended
      by_cases fresh : s.nextSeqnoAbsolute = 0
      · simpa [TCPSender.fillWindow, currentState, fresh] using syn
      · have state : s.currentState = .synSent := by
          rw [currentState, if_neg fresh, if_pos ⟨Nat.pos_of_ne_zero fresh, flight⟩]
        simpa [TCPSender.fillWindow, state] using unfinished
  | false =>
      refine (s.fillWindow_invariant (fun t => t.Unfinished ∧ t.stream.isEnded = false) ⟨unfinished, ended⟩
        ⟨syn, ended⟩ ?_).1
      rintro t ⟨before, open_⟩
      have plain : t.nextSegment.header.fin = false := by
        by_contra fin
        have := (t.nextSegment_fin.mp (by simpa using fin)).2.1
        simp [open_] at this
      have still := t.sendNext_emits.ended.trans open_
      have emits := t.sendNext_emits
      refine ⟨⟨?_, ?_, fun ended => absurd ended (by simp [still])⟩, still⟩
      · rw [emits.out]
        simpa [or_imp, forall_and, plain] using before.queue
      · rw [emits.tracking]
        simpa [plain] using before.tracked

theorem Unfinished.ackReceived (unfinished : s.Unfinished) (counted : s.Counted) {ackno : WrappingInt32}
    (windowSize : UInt16) (stays : s.stream.isEnded = true → s.matched ackno = false) :
    (s.ackReceived ackno windowSize).Unfinished where
  queue := by
    rw [(ackReceived_frame ..).2.2.1]
    exact unfinished.queue
  tracked := by
    rw [ackReceived_trackingSegments]
    exact fun seg member => unfinished.tracked seg ((List.takeWhile_prefix _).subset member)
  waits := by
    rw [(ackReceived_frame ..).2.1, (ackReceived_frame ..).2.2.2, ackReceived_trackedCount]
    intro ended
    rw [remaining_of_unmatched (stays ended), ← counted.flight]
    exact unfinished.waits ended

theorem Unfinished.tick (unfinished : s.Unfinished) (ms : Nat) : (s.tick ms).Unfinished where
  queue := by
    rcases s.tick_segmentsOut ms with same | ⟨_, sent⟩
    · rw [same]
      exact unfinished.queue
    · rw [sent]
      intro seg member
      rcases List.mem_append.mp member with old | oldest
      · exact unfinished.queue seg old
      · exact unfinished.tracked seg (List.mem_of_getLast? (Option.mem_toList.mp oldest))
  tracked := by
    rw [tick_frame]
    exact unfinished.tracked
  waits := by
    rw [tick_frame]
    exact unfinished.waits

end Unfinished

end TCPSender

namespace TCPConnection

section Unfinished

variable {c : TCPConnection}

def Withholds (c c' : TCPConnection) : Prop :=
  c'.sender.Unfinished ∧ Grows (fun seg => seg.header.fin = false) c c'

theorem withholds_move {s : TCPSender} (unfinished : s.Unfinished) : Withholds c { c with sender := s }.moveToSegmentsOut := by
  refine ⟨⟨by simp [moveToSegmentsOut], unfinished.tracked, unfinished.waits⟩, _, rfl, fun seg member => ?_⟩
  obtain ⟨original, queued, rfl⟩ := List.mem_map.mp member
  have plain := unfinished.queue original queued
  simp only [stamp]
  split <;> exact plain

theorem Withholds.trans {c' c'' : TCPConnection} (first : Withholds c c') (second : Withholds c' c'') :
    Withholds c c'' :=
  ⟨second.1, first.2.trans second.2⟩

theorem withholds_tick (unfinished : c.sender.Unfinished) (ms : Nat) : Withholds c (c.tick ms) := by
  have passed : Withholds c (c.passTime ms) := by
    refine ⟨?_, .of_eq (by rw [passTime_frame])⟩
    rw [passTime_sender]
    exact unfinished.tick ms
  refine passed.trans ?_
  simp only [tick]
  split
  · exact ⟨⟨passed.1.queue, passed.1.tracked, passed.1.waits⟩, [rstSegment], rfl, by simp [rstSegment]⟩
  · exact withholds_move passed.1

theorem withholds_deliver (unfinished : c.sender.Unfinished) (counted : c.sender.Counted) {seg : TCPSegment}
    (stays : c.sender.stream.isEnded = true → seg.header.ack = true → c.sender.matched seg.header.ackno = false) :
    Withholds c (c.segmentReceived seg) := by
  obtain ⟨queue, sender⟩ := c.accept_eq seg
  have accepted : Withholds c (c.accept seg) ∧ (c.accept seg).sender.Counted ∧
      ((c.accept seg).sender.stream.isEnded = true → seg.header.ack = true →
        (c.accept seg).sender.matched seg.header.ackno = false) := by
    rw [Withholds, sender]
    split
    · exact ⟨⟨⟨unfinished.queue, unfinished.tracked, unfinished.waits⟩, .of_eq queue⟩,
        counted_kept.setError counted, stays⟩
    · exact ⟨⟨unfinished, .of_eq queue⟩, counted, stays⟩
  have noted : Withholds c ((c.accept seg).acknowledge seg) := by
    refine accepted.1.trans ?_
    simp only [acknowledge]
    split
    next acked =>
      exact withholds_move (accepted.1.1.ackReceived accepted.2.1 _ fun ended => accepted.2.2 ended acked.2).fillWindow
    next => exact ⟨accepted.1.1, .of_eq rfl⟩
  have closes {d : TCPConnection} (before : Withholds c d) : Withholds c d.closeIfDone := by
    refine before.trans ⟨?_, .of_eq d.closeIfDone_out⟩
    have same : d.closeIfDone.sender = d.sender := by
      simp only [closeIfDone]
      split_ifs <;> rfl
    rw [same]
    exact before.1
  simp only [segmentReceived]
  split_ifs
  · exact noted.trans (withholds_move noted.1.fillWindow)
  · refine closes (noted.trans ?_)
    simp only [answer]
    split
    · refine withholds_move ⟨?_, noted.1.tracked, noted.1.waits⟩
      simpa [TCPSender.sendEmptySegment, or_imp, forall_and] using noted.1.queue
    · exact withholds_move noted.1
  · exact closes noted

theorem haveSYN_of_syn {seg : TCPSegment} (syn : seg.header.syn = true) (unopened : c.receiver.haveSYN = false) :
    (c.segmentReceived seg).receiver.haveSYN = true := by
  have opens : (c.receiver.segmentReceived seg).haveSYN = true := by
    rw [TCPReceiver.segmentReceived_accepted (by simp [syn, unopened])]
    simp [TCPReceiver.opened, unopened]
  rw [segmentReceived_receiver]
  rcases c.accept_receiver seg with same | failed
  · rwa [same]
  · rw [failed]
    exact opens

theorem unfinished_call (counted : c.sender.Counted) (before : c.receiver.haveSYN = true ∨ c.sender.Unfinished)
    {event : Event} (turn : c.FinInTurn event) (silent : (c.call event).1.receiver.haveSYN = false) :
    (c.call event).1.sender.Unfinished ∧ ∀ seg ∈ c.enqueued event, seg.header.fin = false := by
  have unopened : c.receiver.haveSYN = false := by
    by_contra opened
    exact absurd ((later_call c event).haveSYN (by simpa using opened)) (by simp [silent])
  have unfinished : c.sender.Unfinished := before.resolve_left (by simp [unopened])
  have called : c.call event = (c.step event, .ok ()) := by
    refine (c.call_cases event).resolve_left fun noted => ?_
    rw [noted.haveSYN] at silent
    cases silent
  rw [enqueued_of_return called]
  rw [called] at silent ⊢
  have kept (withholds : Withholds c (c.step event)) :
      (c.step event).sender.Unfinished ∧ ∀ seg ∈ c.appended event, seg.header.fin = false :=
    ⟨withholds.1, withholds.2.appended⟩
  cases event with
  | connect => exact kept (withholds_move unfinished.fillWindow)
  | write data =>
      exact kept (withholds_move (TCPSender.Unfinished.fillWindow
        ⟨unfinished.queue, unfinished.tracked, unfinished.waits⟩))
  | endInputStream =>
      have waits : c.sender.nextSeqno = c.sender.trackedCount := by
        by_contra acked
        exact absurd (turn acked) (by simp [unopened])
      exact kept (withholds_move (TCPSender.Unfinished.fillWindow
        ⟨unfinished.queue, unfinished.tracked, fun _ => waits⟩))
  | read len | popOutput len => exact kept ⟨unfinished, .of_eq rfl⟩
  | tick ms => exact kept (withholds_tick unfinished ms)
  | transmit => exact ⟨unfinished, by simp [appended, step, List.drop_eq_nil_of_le]⟩
  | deliver seg =>
      refine kept (withholds_deliver unfinished counted fun ended acks => ?_)
      by_contra matched
      rcases turn ended acks (by simpa using matched) with opened | syn
      · simp [unopened] at opened
      · exact absurd (silent.symm.trans (haveSYN_of_syn syn unopened)) (by decide)

theorem tellsTruth_call (unmarked : c.sender.Unmarked) {event : Event}
    (plain : (c.call event).1.receiver.haveSYN = false → ∀ seg ∈ c.enqueued event, seg.header.fin = false) :
    c.TellsTruth event := by
  intro seg member ordinary
  rcases c.call_cases event with noted | called
  · rw [enqueued, noted.frame] at member
    exact absurd member (by simp)
  · have finless := fun silent => plain silent seg member
    rw [enqueued_of_return called] at member
    rw [called] at finless ⊢
    rcases appended_queued unmarked member with rfl | ⟨original, own, rfl⟩
    · cases ordinary
    · refine (truthful_stamp_iff _ own).mpr fun fin => ?_
      by_contra silent
      exact absurd (finless (by simpa using silent)) (by simp [fin])

-- The one segment with an `ack` of its own is the FIN, which the sender marks for itself.
theorem acks_truthful (cfg : TCPConfig) (randomIsn : WrappingInt32) (events : List Event)
    (turns : AllAllowed next FinInTurn (new cfg randomIsn) events) :
    AllAllowed next TellsTruth (new cfg randomIsn) events := by
  refine allAllowed_imp (fun c => c.sender.Unmarked ∧ c.sender.Counted ∧
    (c.receiver.haveSYN = true ∨ c.sender.Unfinished)) ?_ ?_ turns
  · rintro c event ⟨unmarked, counted, before⟩ turn
    have silent := unfinished_call counted before turn
    refine ⟨tellsTruth_call unmarked fun unopened => (silent unopened).2, unmarked_kept.call unmarked event,
      counted_kept.call counted event, ?_⟩
    cases opened : (c.call event).1.receiver.haveSYN with
    | true => exact .inl opened
    | false => exact .inr (silent opened).1
  · exact ⟨calls_unmarked cfg randomIsn [], calls_counted cfg randomIsn [], .inr
      ⟨by simp [new, TCPSender.new], by simp [new, TCPSender.new], fun _ => rfl⟩⟩

def endedEarly : List Event :=
  [.connect, .endInputStream, .deliver { header := { seqno := ⟨7⟩, syn := true, ack := true, ackno := ⟨6⟩, win := 10 } }]

theorem acks_truthful_sample :
    ((calls {} ⟨5⟩ endedEarly).segmentsOut.map fun seg => (seg.header.fin, seg.header.ackno)) =
        [(false, ⟨6⟩), (true, ⟨8⟩)] ∧
      AllAllowed next TellsTruth (new {} ⟨5⟩) endedEarly :=
  ⟨by decide, acks_truthful {} ⟨5⟩ endedEarly (by decide)⟩

-- The peer's acknowledgment overtakes its SYN, and the FIN goes out with the sender's own mark for an ackno.
theorem fin_before_syn_untruthful :
    (calls {} ⟨5⟩ [.connect, .deliver { header := { ack := true, ackno := ⟨6⟩, win := 10 } }]).enqueued
        .endInputStream = [{ header := { seqno := ⟨6⟩, fin := true, ack := true, ackno := ⟨7⟩ } }] ∧
      (calls {} ⟨5⟩ [.connect, .deliver { header := { ack := true, ackno := ⟨6⟩, win := 10 } },
        .endInputStream]).receiver.ackno = none := by
  decide

end Unfinished

structure Honest (r : TCPReceiver) (seg : TCPSegment) : Prop where
  win : seg.header.win.toNat = min 65535 r.windowSize
  modest : seg.header.win.toNat ≤ r.windowSize
  open_ : seg.header.win.toNat = 0 → r.windowSize = 0

-- A window beyond 16 bits is cut to its low ones, not to the largest that there is.
theorem window_honest_iff (cfg : TCPConfig) (randomIsn : WrappingInt32) (before : List Event) (event : Event)
    (seg : TCPSegment) (member : seg ∈ (run cfg randomIsn before).appended event) (plain : seg.header.rst = false)
    (opened : (run cfg randomIsn (before ++ [event])).receiver.haveSYN = true) :
    Honest (run cfg randomIsn (before ++ [event])).receiver seg ↔
      (run cfg randomIsn (before ++ [event])).receiver.windowSize ≤ 65535 ∨
        (run cfg randomIsn (before ++ [event])).receiver.windowSize % 65536 = 65535 := by
  have unmarked := run_unmarked cfg randomIsn before
  rw [run_append] at opened ⊢
  generalize run cfg randomIsn before = c at member unmarked opened
  rcases appended_queued unmarked member with rfl | ⟨original, _, rfl⟩
  · simp [rstSegment] at plain
  · simp only [List.foldl_cons, List.foldl_nil] at opened ⊢
    generalize (c.step event).receiver = r at opened
    have win : (stamp r original).header.win.toNat = r.windowSize % 65536 := by
      obtain ⟨ackno, known⟩ := TCPReceiver.ackno_of_haveSYN opened
      simp [stamp, known]
    constructor
    · intro honest
      have same := honest.win
      omega
    · intro narrow
      exact ⟨by omega, by omega, by omega⟩

def sampleReply (win : UInt16) : TCPSegment :=
  { header := { seqno := ⟨5⟩, syn := true, ack := true, ackno := ⟨8⟩, win := win } }

theorem window_honest_iff_sample :
    Honest (run { recvCapacity := 4000 } ⟨5⟩ ([] ++ [.deliver sampleSyn])).receiver (sampleReply 4000) :=
  (window_honest_iff { recvCapacity := 4000 } ⟨5⟩ [] (.deliver sampleSyn) (sampleReply 4000) (by decide) (by decide)
    (by decide)).mpr (Or.inl (by decide))

theorem wide_window_advertised_closed :
    (run { recvCapacity := 65536 } ⟨5⟩ []).appended (.deliver sampleSyn) = [sampleReply 0] ∧
      (run { recvCapacity := 65536 } ⟨5⟩ [.deliver sampleSyn]).receiver.windowSize = 65536 := by
  decide

end TCPConnection

end Sponge
