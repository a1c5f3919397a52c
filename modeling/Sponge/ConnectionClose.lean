import Sponge.ConnectionQueue
import Sponge.ConnectionSteps
import Sponge.SenderSaturation

set_option autoImplicit false

namespace Sponge.TCPConnection

open Shared TCPSender

section Closing

variable (c : TCPConnection) (seg : TCPSegment)

def lingers : Bool := c.lingerAfterStreamsFinish && !(c.receiver.streamOut.eof && !c.sender.finSent)

theorem closeIfDone_eq : c.closeIfDone =
    { c with
      lingerAfterStreamsFinish := c.lingers
      isActive := c.isActive && (c.lingers || !c.isSatisfiedPrereq) } := by
  have same (linger : Bool) :
      { c with lingerAfterStreamsFinish := linger }.isSatisfiedPrereq = c.isSatisfiedPrereq := rfl
  simp only [closeIfDone, lingers]
  cases done : c.receiver.streamOut.eof && !c.sender.finSent with
  | true => cases ready : c.isSatisfiedPrereq <;> simp [same, ready]
  | false =>
      cases linger : c.lingerAfterStreamsFinish <;> cases ready : c.isSatisfiedPrereq <;> simp [linger, ready]
      all_goals simp [← linger]

-- A first segment is answered with the connection's own SYN and with nothing else.
def Opens : Prop := 0 < seg.lengthInSequenceSpace ∧ c.sender.nextSeqno = 0

instance : Decidable (c.Opens seg) := inferInstanceAs (Decidable (_ ∧ _))

-- All that a delivery does before it looks at the streams leaves the two flags alone, a reset apart.
theorem segmentReceived_closes : ∃ d : TCPConnection,
    d.isActive = (!seg.header.rst && c.isActive) ∧ d.lingerAfterStreamsFinish = c.lingerAfterStreamsFinish ∧
      d.timeSinceLastSegmentReceived = 0 ∧ c.segmentReceived seg = if c.Opens seg then d else d.closeIfDone := by
  have fresh := c.acknowledged_fresh_iff seg
  have active : (c.accept seg).isActive = (!seg.header.rst && c.isActive) := by
    simp only [accept]
    split
    next reset => simp [reset, setErrors]
    next plain => simp [plain]
  have linger : (c.accept seg).lingerAfterStreamsFinish = c.lingerAfterStreamsFinish ∧
      (c.accept seg).timeSinceLastSegmentReceived = 0 := by
    simp only [accept]
    split <;> exact ⟨rfl, rfl⟩
  have acknowledged : ((c.accept seg).acknowledge seg).isActive = (c.accept seg).isActive ∧
      ((c.accept seg).acknowledge seg).lingerAfterStreamsFinish = (c.accept seg).lingerAfterStreamsFinish ∧
      ((c.accept seg).acknowledge seg).timeSinceLastSegmentReceived = (c.accept seg).timeSinceLastSegmentReceived := by
    simp only [acknowledge]
    split <;> exact ⟨rfl, rfl, rfl⟩
  rw [active, linger.1, linger.2] at acknowledged
  simp only [segmentReceived]
  generalize (c.accept seg).acknowledge seg = d at fresh acknowledged
  by_cases occupies : 0 < seg.lengthInSequenceSpace
  · simp only [Opens, occupies, fresh, true_and, if_true]
    split_ifs with first
    · exact ⟨d.connect, acknowledged.1, acknowledged.2.1, acknowledged.2.2, rfl⟩
    · have answered : d.answer.isActive = d.isActive ∧
          d.answer.lingerAfterStreamsFinish = d.lingerAfterStreamsFinish ∧
          d.answer.timeSinceLastSegmentReceived = d.timeSinceLastSegmentReceived := by
        simp only [answer]
        split <;> exact ⟨rfl, rfl, rfl⟩
      rw [acknowledged.1, acknowledged.2.1, acknowledged.2.2] at answered
      exact ⟨d.answer, answered.1, answered.2.1, answered.2.2, rfl⟩
  · simp only [Opens, occupies, false_and, if_false]
    exact ⟨d, acknowledged.1, acknowledged.2.1, acknowledged.2.2, rfl⟩

theorem segmentReceived_linger : (c.segmentReceived seg).lingerAfterStreamsFinish =
    (c.lingerAfterStreamsFinish &&
      (c.Opens seg ||
        !((c.segmentReceived seg).receiver.streamOut.eof && !(c.segmentReceived seg).sender.finSent))) := by
  obtain ⟨d, _, linger, _, closes⟩ := c.segmentReceived_closes seg
  rw [closes]
  by_cases opens : c.Opens seg
  · rw [if_pos opens, linger]
    simp [opens]
  · rw [if_neg opens, closeIfDone_eq, lingers, linger]
    simp [opens]

theorem segmentReceived_isActive : (c.segmentReceived seg).isActive =
    (!seg.header.rst && c.isActive && (c.Opens seg ||
      (c.segmentReceived seg).lingerAfterStreamsFinish || !(c.segmentReceived seg).isSatisfiedPrereq)) := by
  obtain ⟨d, active, _, _, closes⟩ := c.segmentReceived_closes seg
  rw [closes]
  by_cases opens : c.Opens seg
  · rw [if_pos opens, active]
    simp [opens]
  · rw [if_neg opens, closeIfDone_eq, active]
    simp [opens, isSatisfiedPrereq]

theorem segmentReceived_timeSinceLastSegmentReceived :
    (c.segmentReceived seg).timeSinceLastSegmentReceived = 0 := by
  obtain ⟨d, _, _, time, closes⟩ := c.segmentReceived_closes seg
  rw [closes, closeIfDone_eq]
  split <;> exact time

theorem tick_timeSinceLastSegmentReceived (ms : Nat) :
    (c.tick ms).timeSinceLastSegmentReceived = add64 c.timeSinceLastSegmentReceived ms := by
  simp only [tick, passTime]
  split_ifs <;> rfl

variable {c}

theorem tick_moves {ms : Nat}
    (few : ¬ TCPConfig.maxRetxAttempts < (c.sender.tick ms).consecutiveRetransmissions) :
    c.tick ms = (c.passTime ms).moveToSegmentsOut := by
  simp only [tick, passTime_sender, few, if_false]

inductive Stops (c : TCPConnection) : Event → Prop
  | reset {seg : TCPSegment} (rst : seg.header.rst = true) : Stops c (.deliver seg)
  | gaveUp {ms : Nat} (attempts : TCPConfig.maxRetxAttempts < (c.sender.tick ms).consecutiveRetransmissions) :
      Stops c (.tick ms)
  | passive {seg : TCPSegment} (brief : (c.segmentReceived seg).lingerAfterStreamsFinish = false)
      (done : (c.segmentReceived seg).isSatisfiedPrereq = true) : Stops c (.deliver seg)
  | lingered {ms : Nat} (waited : 10 * c.cfg.rtTimeout.toNat ≤ add64 c.timeSinceLastSegmentReceived ms)
      (done : (c.tick ms).isSatisfiedPrereq = true) : Stops c (.tick ms)

theorem stops {event : Event} (before : c.isActive = true) (after : (c.step event).isActive = false) :
    Stops c event := by
  cases event with
  | connect | write data | endInputStream | read len | popOutput len | transmit =>
      exact Bool.noConfusion (before.symm.trans after)
  | tick ms =>
      by_cases attempts : TCPConfig.maxRetxAttempts < (c.sender.tick ms).consecutiveRetransmissions
      · exact .gaveUp attempts
      · have stopped : (c.passTime ms).isActive = false := by rwa [step, tick_moves attempts] at after
        simp only [passTime] at stopped
        split at stopped
        next expired =>
          refine .lingered expired.1 ?_
          rw [tick_moves attempts, passTime, if_pos expired]
          exact expired.2
        next => exact Bool.noConfusion (before.symm.trans stopped)
  | deliver seg =>
      simp only [step, segmentReceived_isActive, before, Bool.and_true, Bool.and_eq_false_iff, Bool.or_eq_false_iff,
        Bool.not_eq_eq_eq_not, Bool.not_false] at after
      rcases after with rst | ⟨⟨_, brief⟩, done⟩
      · exact .reset rst
      · exact .passive brief done

theorem aborted_of_gaveUp {ms : Nat}
    (attempts : TCPConfig.maxRetxAttempts < (c.sender.tick ms).consecutiveRetransmissions) :
    (c.tick ms).Aborted := by
  simp only [tick, passTime_sender, attempts, if_true]
  exact ⟨rfl, rfl, rfl⟩

end Closing

theorem saturated_kept : Keeps (fun s => s.stream.inputEnded = false) fun s => ∃ accepted, Saturated accepted s where
  fillWindow := by
    rintro s ⟨accepted, saturated⟩
    exact ⟨accepted, saturated.toReady.fillWindow⟩
  write := by
    rintro s ⟨accepted, saturated⟩ open_ data
    exact ⟨_, (saturated.toReady.write open_ data).fillWindow⟩
  endInput := by
    rintro s ⟨accepted, saturated⟩
    exact ⟨accepted, saturated.toReady.endInput.fillWindow⟩
  ack := by
    rintro s ⟨accepted, saturated⟩ _ ackno windowSize
    exact ⟨accepted, (saturated.toReady.ackReceived ackno windowSize).fillWindow⟩
  tick := by
    rintro s ⟨accepted, saturated⟩ ms
    rw [tick_frame]
    exact ⟨accepted, saturated.frame _ _ _ _ _⟩
  empty := by
    rintro s ⟨accepted, saturated⟩
    exact ⟨accepted, saturated.frame _ _ _ _ _⟩
  drain := by
    rintro s ⟨accepted, saturated⟩
    exact ⟨accepted, saturated.frame _ _ _ _ _⟩
  setError := by
    rintro s ⟨accepted, saturated⟩
    exact ⟨accepted, saturated.frame _ _ _ _ _⟩

theorem clean_close_complete (cfg : TCPConfig) (randomIsn : WrappingInt32) (events : List Event) (event : Event)
    (legal : AllAllowed step Legal (new cfg randomIsn) (events ++ [event]))
    (before : (run cfg randomIsn events).isActive = true)
    (after : (run cfg randomIsn (events ++ [event])).isActive = false)
    (outbound : (run cfg randomIsn (events ++ [event])).sender.stream.hasError = false)
    (inbound : (run cfg randomIsn (events ++ [event])).inboundStream.hasError = false) :
    let c := run cfg randomIsn (events ++ [event])
    c.sender.stream.eof = true ∧ c.sender.nextSeqnoAbsolute = c.sender.stream.bytesWritten + 2 ∧
      c.sender.bytesInFlight = 0 ∧ c.sender.nextAckno = c.sender.nextSeqno ∧
      c.inboundStream.eof = true ∧ c.receiver.unassembledBytes = 0 := by
  obtain ⟨accepted, saturated⟩ : ∃ accepted, Saturated accepted (run cfg randomIsn (events ++ [event])).sender :=
    saturated_kept.foldl legal ⟨[], saturated_new ..⟩
  rw [run_append] at after outbound inbound saturated ⊢
  simp only [List.foldl_cons, List.foldl_nil] at after outbound inbound saturated ⊢
  have done : ((run cfg randomIsn events).step event).isSatisfiedPrereq = true := by
    cases stops before after with
    | reset rst => exact Bool.noConfusion ((aborted_of_reset rst).outbound.symm.trans outbound)
    | gaveUp attempts => exact Bool.noConfusion ((aborted_of_gaveUp attempts).outbound.symm.trans outbound)
    | passive _ done => exact done
    | lingered _ done => exact done
  simp only [isSatisfiedPrereq, Bool.and_eq_true, beq_iff_eq] at done
  obtain ⟨⟨⟨assembled, inboundEof⟩, outboundEof⟩, idle⟩ := done
  obtain ⟨finished, acked⟩ := saturated.finished outboundEof idle
  exact ⟨outboundEof, finished, idle, acked, inboundEof, assembled⟩

def sampleFin (ackno : UInt32) : TCPSegment :=
  { header := { seqno := ⟨8⟩, fin := true, ack := true, ackno := ⟨ackno⟩, win := 100 } }

def sampleFinAck : TCPSegment := { header := { seqno := ⟨9⟩, ack := true, ackno := ⟨7⟩, win := 100 } }

theorem clean_close_complete_sample :
    let c := run {} ⟨5⟩ ([.deliver sampleSyn, .deliver (sampleFin 6), .endInputStream] ++ [.deliver sampleFinAck])
    c.isActive = false ∧ c.sender.nextSeqnoAbsolute = 2 ∧ c.sender.nextAckno = 2 := by
  have complete := clean_close_complete {} ⟨5⟩ [.deliver sampleSyn, .deliver (sampleFin 6), .endInputStream]
    (.deliver sampleFinAck) (by decide) (by decide) (by decide) (by decide) (by decide)
  exact ⟨by decide, complete.2.1.trans (by decide), complete.2.2.2.1.trans (by decide)⟩

theorem sending_kept : Keeps (fun s => s.stream.inputEnded = false) fun s => ∃ accepted, s.Sending accepted where
  fillWindow := by
    rintro s ⟨accepted, sending⟩
    exact ⟨accepted, sending.fillWindow.1⟩
  write := by
    rintro s ⟨accepted, sending⟩ open_ data
    exact ⟨_, (sending.write open_ data).1.fillWindow.1⟩
  endInput := by
    rintro s ⟨accepted, sending⟩
    exact ⟨accepted, sending.endInput.1.fillWindow.1⟩
  ack := by
    rintro s ⟨accepted, sending⟩ _ ackno windowSize
    exact ⟨accepted, (sending.ackReceived ackno windowSize).1.fillWindow.1⟩
  tick := by
    rintro s ⟨accepted, sending⟩ ms
    exact ⟨accepted, (sending.tick ms).1⟩
  empty := by
    rintro s ⟨accepted, sending⟩
    exact ⟨accepted, sending.sendEmptySegment.1⟩
  drain := by
    rintro s ⟨accepted, sending⟩
    exact ⟨accepted, sending.drain.1⟩
  setError := by
    rintro s ⟨accepted, sending⟩
    exact ⟨accepted, sending.setError.1⟩

theorem finSent_kept : Keeps (fun s => s.stream.inputEnded = false) fun s => s.finSent = true where
  fillWindow sent := by rwa [fillWindow_idle (hasWork_of_finSent sent)]
  write sent open_ _ := by
    simp only [TCPSender.finSent, ByteStream.eof, open_, Bool.false_and] at sent
    exact Bool.noConfusion sent
  endInput := by
    intro s sent
    have closed : { s with stream := s.stream.endInput }.finSent = true := by
      simp only [TCPSender.finSent, ByteStream.eof, Bool.and_eq_true] at sent ⊢
      exact ⟨⟨rfl, sent.1.2⟩, sent.2⟩
    rwa [fillWindow_idle (hasWork_of_finSent closed)]
  ack := by
    intro s sent _ ackno windowSize
    have noted := s.ackReceived_finSent ackno windowSize sent
    rwa [fillWindow_idle (hasWork_of_finSent noted)]
  tick sent _ := by rw [tick_frame]; exact sent
  empty sent := sent
  drain sent := sent
  setError sent := sent

section Lingering

variable {c : TCPConnection} {event : Event}

theorem appended_output {accepted : Bytes} (sending : c.sender.Sending accepted) (legal : c.Legal event) :
    ∃ accepted', (c.step event).sender.Sending accepted' ∧
      ∀ seg ∈ c.appended event, Output accepted' (c.step event) seg := by
  have evolved (acks : Nat → Prop) {accepted' : Bytes} {d : TCPConnection} (queue : d.segmentsOut = c.segmentsOut)
      (evolves : Evolves acks accepted accepted' d (c.step event)) :
      ∃ accepted', (c.step event).sender.Sending accepted' ∧
        ∀ seg ∈ c.appended event, Output accepted' (c.step event) seg := by
    obtain ⟨new, out, each⟩ := evolves.out
    refine ⟨accepted', evolves.sending, ?_⟩
    simpa [appended, out, queue] using each
  have silent (queue : c.appended event = []) (same : (c.step event).sender = c.sender) :
      ∃ accepted', (c.step event).sender.Sending accepted' ∧
        ∀ seg ∈ c.appended event, Output accepted' (c.step event) seg :=
    ⟨accepted, by rwa [same], by simp [queue]⟩
  cases event with
  | connect => exact evolved (fun _ => False) rfl (connect_evolves sending)
  | write data => exact evolved (fun _ => False) rfl (write_evolves sending legal data)
  | endInputStream => exact evolved (fun _ => False) rfl (endInputStream_evolves sending)
  | read len | popOutput len => exact silent (by simp [appended, step, readInbound, popInbound]) rfl
  | transmit => exact silent (by simp [appended, step, List.drop_eq_nil_of_le]) rfl
  | tick ms => exact evolved (fun _ => False) rfl (tick_evolves sending ms)
  | deliver seg =>
      obtain ⟨accepts, _, _, queue⟩ := accept_sender sending seg
      exact evolved _ queue (segmentReceived_evolves accepts)

theorem tick_linger {ms : Nat} (active : (c.tick ms).isActive = true) :
    (c.tick ms).lingerAfterStreamsFinish = c.lingerAfterStreamsFinish := by
  by_cases attempts : TCPConfig.maxRetxAttempts < (c.sender.tick ms).consecutiveRetransmissions
  · exact Bool.noConfusion ((aborted_of_gaveUp attempts).inactive.symm.trans active)
  · rw [tick_moves attempts, passTime_frame]
    rfl

theorem segmentReceived_linger_of_finSent (sent : c.sender.finSent = true) (seg : TCPSegment) :
    (c.segmentReceived seg).lingerAfterStreamsFinish = c.lingerAfterStreamsFinish := by
  have still : (c.segmentReceived seg).sender.finSent = true := finSent_kept.segmentReceived sent seg
  simp [segmentReceived_linger, still]

theorem step_linger (sent : c.sender.finSent = true) (active : (c.step event).isActive = true) :
    (c.step event).lingerAfterStreamsFinish = c.lingerAfterStreamsFinish := by
  cases event with
  | connect | write data | endInputStream | read len | popOutput len | transmit => rfl
  | tick ms => exact tick_linger active
  | deliver seg => exact segmentReceived_linger_of_finSent sent seg

theorem foldl_linger {events : List Event} (sent : c.sender.finSent = true) (legal : AllAllowed step Legal c events)
    (active : (events.foldl step c).isActive = true) :
    (events.foldl step c).lingerAfterStreamsFinish = c.lingerAfterStreamsFinish := by
  induction events generalizing c with
  | nil => rfl
  | cons event events ih =>
      have first : (c.step event).isActive = true := (later_foldl (c.step event) events).active active
      exact (ih (finSent_kept.step legal.1 sent) legal.2 active).trans (step_linger sent first)

theorem segmentReceived_brief {seg : TCPSegment} (before : c.lingerAfterStreamsFinish = true)
    (brief : (c.segmentReceived seg).lingerAfterStreamsFinish = false) :
    ¬ c.Opens seg ∧ (c.segmentReceived seg).inboundStream.eof = true := by
  simp only [segmentReceived_linger, before, Bool.true_and, Bool.or_eq_false_iff, decide_eq_false_iff_not,
    Bool.not_eq_eq_eq_not, Bool.not_false, Bool.and_eq_true] at brief
  exact ⟨brief.1, brief.2.1⟩

def Patient (c : TCPConnection) : Prop :=
  c.isActive = true → c.lingerAfterStreamsFinish = false → c.inboundStream.inputEnded = true

theorem Patient.step (patient : c.Patient) (event : Event) : (c.step event).Patient := by
  intro active brief
  have later := later_step c event
  by_cases already : c.lingerAfterStreamsFinish = false
  · exact later.inputEnded (patient (later.active active) already)
  · cases event with
    | connect | write data | endInputStream | read len | popOutput len | transmit => exact absurd brief already
    | tick ms => exact absurd ((tick_linger active).symm.trans brief) already
    | deliver seg =>
        have eof := (segmentReceived_brief (by simpa using already) brief).2
        simp only [ByteStream.eof, Bool.and_eq_true] at eof
        exact eof.1

theorem patient_foldl (patient : c.Patient) (events : List Event) : (events.foldl TCPConnection.step c).Patient := by
  induction events generalizing c with
  | nil => exact patient
  | cons event events ih => exact ih (patient.step event)

end Lingering

def msSinceSegment (events : List Event) : Nat :=
  events.foldl (fun ms event => match event with
    | .tick more => ms + more
    | .deliver _ => 0
    | .connect | .write _ | .endInputStream | .read _ | .popOutput _ | .transmit => ms) 0

theorem timeSinceLastSegmentReceived_le (cfg : TCPConfig) (randomIsn : WrappingInt32) (events : List Event) :
    (run cfg randomIsn events).timeSinceLastSegmentReceived ≤ msSinceSegment events := by
  induction events using List.reverseRecOn with
  | nil => exact le_rfl
  | append_singleton events event ih =>
      rw [run_append, msSinceSegment, List.foldl_append]
      simp only [List.foldl_cons, List.foldl_nil]
      cases event with
      | connect | write data | endInputStream | read len | popOutput len | transmit => exact ih
      | tick ms =>
          rw [step, tick_timeSinceLastSegmentReceived]
          exact (add64_le _ ms).trans (Nat.add_le_add_right ih ms)
      | deliver seg => rw [step, segmentReceived_timeSinceLastSegmentReceived]

-- The side whose FIN comes first waits until the peer has been silent for ten timeouts.
theorem active_closer_lingers (cfg : TCPConfig) (randomIsn : WrappingInt32) (early later : List Event)
    (sends stopping : Event)
    (legal : AllAllowed step Legal (new cfg randomIsn) (early ++ sends :: later ++ [stopping]))
    (fin : ∃ seg ∈ (run cfg randomIsn early).appended sends, seg.header.fin = true)
    (unended : (run cfg randomIsn (early ++ [sends])).inboundStream.inputEnded = false)
    (before : (run cfg randomIsn (early ++ sends :: later)).isActive = true)
    (after : (run cfg randomIsn (early ++ sends :: later ++ [stopping])).isActive = false) :
    (∃ seg, stopping = .deliver seg ∧ seg.header.rst = true) ∨
      ∃ ms, stopping = .tick ms ∧
        (TCPConfig.maxRetxAttempts <
            ((run cfg randomIsn (early ++ sends :: later)).sender.tick ms).consecutiveRetransmissions ∨
          10 * cfg.rtTimeout.toNat ≤ msSinceSegment (early ++ sends :: later ++ [stopping])) := by
  rw [allAllowed_append, allAllowed_append] at legal
  obtain ⟨⟨legal, sends_legal, rest⟩, _⟩ := legal
  obtain ⟨accepted, sending⟩ : ∃ accepted, (run cfg randomIsn early).sender.Sending accepted :=
    sending_kept.foldl legal ⟨[], .new ..⟩
  obtain ⟨accepted', sending', each⟩ := appended_output sending sends_legal
  obtain ⟨seg, member, fin⟩ := fin
  have sent := sending'.finSent (each seg member).emittable fin
  have patient : (run cfg randomIsn (early ++ [sends])).Patient := patient_foldl (by simp [Patient, new]) _
  have waited := timeSinceLastSegmentReceived_le cfg randomIsn (early ++ sends :: later ++ [stopping])
  have config : (run cfg randomIsn (early ++ sends :: later)).cfg = cfg := (later_foldl (new cfg randomIsn) _).cfg
  rw [run_append] at after unended patient waited
  have lingering : ((run cfg randomIsn early).step sends).lingerAfterStreamsFinish = true := by
    by_contra brief
    have active : ((run cfg randomIsn early).step sends).isActive = true := by
      rw [run_append] at before
      exact (later_foldl ((run cfg randomIsn early).step sends) later).active before
    exact Bool.noConfusion (unended.symm.trans (patient active (by simpa using brief)))
  have still : (later.foldl step ((run cfg randomIsn early).step sends)).sender.finSent = true :=
    finSent_kept.foldl rest sent
  have kept : (run cfg randomIsn (early ++ sends :: later)).lingerAfterStreamsFinish = true := by
    rw [run_append] at before ⊢
    exact (foldl_linger sent rest before).trans lingering
  cases stops before after with
  | reset rst => exact Or.inl ⟨_, rfl, rst⟩
  | gaveUp attempts => exact Or.inr ⟨_, rfl, Or.inl attempts⟩
  | @passive seg brief _ =>
      rw [run_append] at brief kept
      exact Bool.noConfusion (kept.symm.trans ((segmentReceived_linger_of_finSent still seg).symm.trans brief))
  | @lingered ms timeout _ =>
      refine Or.inr ⟨ms, rfl, Or.inr ?_⟩
      rw [config, ← tick_timeSinceLastSegmentReceived] at timeout
      exact timeout.trans waited

theorem active_closer_lingers_sample :
    10 * 10 ≤ msSinceSegment ([.connect, .deliver { sampleSyn with header.ack := true, header.ackno := ⟨6⟩ }] ++
      .endInputStream :: [.deliver (sampleFin 7)] ++ [.tick 100]) := by
  have reasons := active_closer_lingers { rtTimeout := 10 } ⟨5⟩
    [.connect, .deliver { sampleSyn with header.ack := true, header.ackno := ⟨6⟩ }] [.deliver (sampleFin 7)]
    .endInputStream (.tick 100) (by decide) (by decide) (by decide) (by decide) (by decide)
  rcases reasons with ⟨_, same, _⟩ | ⟨ms, same, attempts | waited⟩
  · cases same
  · cases same
    exact absurd attempts (by decide)
  · exact waited

end Sponge.TCPConnection
