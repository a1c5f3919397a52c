import Sponge.ConnectionClose
import Sponge.TCPState

set_option autoImplicit false

namespace Sponge.TCPConnection

open Shared TCPSender

section Untouched

variable {c : TCPConnection} {seg : TCPSegment}

def Untouched (c : TCPConnection) : Prop :=
  c.sender.nextSeqno = 0 → c.receiver.haveSYN = false ∧ c.inboundStream.inputEnded = false

theorem segmentReceived_opens (opens : c.Opens seg) : (c.segmentReceived seg).sender.nextSeqno ≠ 0 := by
  have fresh : (c.accept seg).sender.nextSeqnoAbsolute = 0 := (c.accept_nextSeqno seg).trans opens.2
  have waits : (c.accept seg).acknowledge seg = c.accept seg := by simp [acknowledge, fresh]
  simp only [segmentReceived, waits, opens.1, fresh, if_true]
  exact ((c.accept seg).sender.fillWindow_opens).ne'

theorem segmentReceived_empty (bare : seg.lengthInSequenceSpace = 0) (unopened : c.receiver.haveSYN = false) :
    (c.segmentReceived seg).receiver = c.receiver ∨ (c.segmentReceived seg).receiver = c.receiver.setError := by
  have plain : seg.header.syn = c.receiver.haveSYN := by
    rw [unopened, ← Bool.not_eq_true]
    intro syn
    simp [TCPSegment.lengthInSequenceSpace, syn] at bare
  rw [segmentReceived_receiver, ← TCPReceiver.segmentReceived_ignored plain]
  rcases accept_receiver c seg with same | failed
  · rw [TCPReceiver.segmentReceived_ignored plain] at same ⊢
    exact Or.inl same
  · rw [TCPReceiver.segmentReceived_ignored plain] at failed ⊢
    exact Or.inr failed

theorem Untouched.step (untouched : c.Untouched) (event : Event) : (c.step event).Untouched := by
  intro fresh
  have before : c.sender.nextSeqno = 0 := by
    by_contra sent
    exact syn_kept.step (permitted c event) sent fresh
  obtain ⟨unopened, unended⟩ := untouched before
  have receiver (same : (c.step event).receiver = c.receiver ∨ (c.step event).receiver = c.receiver.setError) :
      (c.step event).receiver.haveSYN = false ∧ (c.step event).inboundStream.inputEnded = false := by
    rcases same with same | same
    all_goals
      simp only [inboundStream, same]
      exact ⟨unopened, unended⟩
  cases event with
  | connect => exact absurd fresh (c.sender.fillWindow_opens).ne'
  | write data => exact absurd fresh (fillWindow_opens _).ne'
  | endInputStream => exact absurd fresh (fillWindow_opens _).ne'
  | read len =>
      rw [step_read]
      exact ⟨unopened, (c.receiver.reassembler.output.popOutput_isEnded len).trans unended⟩
  | popOutput len => exact ⟨unopened, (c.receiver.reassembler.output.popOutput_isEnded len).trans unended⟩
  | transmit => exact ⟨unopened, unended⟩
  | tick ms =>
      apply receiver
      simp only [TCPConnection.step, tick, passTime]
      split_ifs
      · exact Or.inr rfl
      · exact Or.inl rfl
      · exact Or.inr rfl
      · exact Or.inl rfl
  | deliver seg =>
      apply receiver
      by_cases occupies : 0 < seg.lengthInSequenceSpace
      · exact absurd fresh (segmentReceived_opens ⟨occupies, before⟩)
      · exact segmentReceived_empty (by omega) unopened

theorem run_untouched (cfg : TCPConfig) (randomIsn : WrappingInt32) (events : List Event) :
    (run cfg randomIsn events).Untouched := by
  induction events using List.reverseRecOn with
  | nil => exact fun _ => ⟨rfl, rfl⟩
  | append_singleton events event ih =>
      rw [run_append]
      exact ih.step event

end Untouched

-- The inbound stream has ended and nothing of it is left to read, with what `seg` brings.
def Drained (c : TCPConnection) (seg : TCPSegment) : Prop := (c.receiver.segmentReceived seg).streamOut.eof = true

instance (c : TCPConnection) (seg : TCPSegment) : Decidable (c.Drained seg) := inferInstanceAs (Decidable (_ = _))

theorem drained_iff (c : TCPConnection) (seg : TCPSegment) :
    c.Drained seg ↔ (c.segmentReceived seg).inboundStream.eof = true := by
  rw [Drained, inboundStream, segmentReceived_receiver]
  rcases c.accept_receiver seg with same | failed
  · rw [same]
  · rw [failed]
    rfl

def Noticed (cfg : TCPConfig) (randomIsn : WrappingInt32) (events : List Event) : Prop :=
  ∃ front seg back, events = front ++ .deliver seg :: back ∧ (run cfg randomIsn front).sender.nextSeqnoAbsolute ≠ 0 ∧
    (run cfg randomIsn front).Drained seg

section Noticed

variable {cfg : TCPConfig} {randomIsn : WrappingInt32} {events : List Event}

theorem noticed_of_brief (active : (run cfg randomIsn events).isActive = true)
    (brief : (run cfg randomIsn events).lingerAfterStreamsFinish = false) : Noticed cfg randomIsn events := by
  induction events using List.reverseRecOn with
  | nil => exact Bool.noConfusion brief
  | append_singleton events event ih =>
      have untouched := run_untouched cfg randomIsn events
      have whole := run_append cfg randomIsn events [event]
      rw [whole] at active brief
      have before := (later_step (run cfg randomIsn events) event).active active
      by_cases already : (run cfg randomIsn events).lingerAfterStreamsFinish = false
      · obtain ⟨front, seg, back, split, sent, eof⟩ := ih before already
        exact ⟨front, seg, back ++ [event], by simp [split], sent, eof⟩
      · cases event with
        | connect | write data | endInputStream | read len | popOutput len | transmit =>
            exact absurd brief already
        | tick ms => exact absurd ((tick_linger active).symm.trans brief) already
        | deliver seg =>
            obtain ⟨answered, eof⟩ := segmentReceived_brief (by simpa using already) brief
            refine ⟨events, seg, [], rfl, fun fresh => ?_, (drained_iff _ seg).mpr eof⟩
            obtain ⟨unopened, unended⟩ := untouched fresh
            have bare : seg.lengthInSequenceSpace = 0 := by
              by_contra occupies
              exact answered ⟨Nat.pos_of_ne_zero occupies, fresh⟩
            have ended : ((run cfg randomIsn events).segmentReceived seg).inboundStream.inputEnded = false := by
              rcases segmentReceived_empty bare unopened with same | same
              all_goals
                simp only [inboundStream, same]
                exact unended
            simp [ByteStream.eof, ended] at eof

theorem brief_of_noticed (legal : AllAllowed step Legal (new cfg randomIsn) events)
    (unsent : (run cfg randomIsn events).sender.finSent = false) (noticed : Noticed cfg randomIsn events) :
    (run cfg randomIsn events).lingerAfterStreamsFinish = false := by
  obtain ⟨front, seg, back, rfl, sent, drained⟩ := noticed
  obtain ⟨_, _, rest⟩ := allAllowed_append.mp legal
  rw [run_append] at unsent ⊢
  have answered : ¬ (run cfg randomIsn front).Opens seg := fun opens => sent opens.2
  have unfinished : ((run cfg randomIsn front).segmentReceived seg).sender.finSent = false := by
    by_contra finished
    rw [Bool.not_eq_false] at finished
    have still : (back.foldl step ((run cfg randomIsn front).segmentReceived seg)).sender.finSent = true :=
      finSent_kept.foldl rest finished
    exact Bool.noConfusion (unsent.symm.trans still)
  have ended : ((run cfg randomIsn front).segmentReceived seg).receiver.streamOut.eof = true :=
    (drained_iff _ seg).mp drained
  have brief : ((run cfg randomIsn front).segmentReceived seg).lingerAfterStreamsFinish = false := by
    simp [segmentReceived_linger, answered, ended, unfinished]
  exact (later_foldl ((run cfg randomIsn front).segmentReceived seg) back).linger brief

end Noticed

section FinAcked

variable {c : TCPConnection} {seg : TCPSegment}

def FinAck (c : TCPConnection) (seg : TCPSegment) : Prop :=
  seg.header.rst = false ∧ seg.header.ack = true ∧
    seg.header.ackno = wrap (c.sender.stream.bytesWritten + 2) c.sender.isn

instance (c : TCPConnection) (seg : TCPSegment) : Decidable (c.FinAck seg) := inferInstanceAs (Decidable (_ ∧ _))

def ReadOut (c : TCPConnection) (seg : TCPSegment) : Prop :=
  c.Drained seg ∧ (c.receiver.segmentReceived seg).unassembledBytes = 0

instance (c : TCPConnection) (seg : TCPSegment) : Decidable (c.ReadOut seg) := inferInstanceAs (Decidable (_ ∧ _))

theorem segmentReceived_sender (opened : c.sender.nextSeqno ≠ 0) (seg : TCPSegment) : ∃ out,
    (c.segmentReceived seg).sender = { ((c.accept seg).acknowledge seg).sender with segmentsOut := out } := by
  have later : ((c.accept seg).acknowledge seg).sender.nextSeqnoAbsolute ≠ 0 :=
    mt (c.acknowledged_fresh_iff seg).mp opened
  simp only [segmentReceived, later, if_false]
  split
  · rw [closeIfDone_eq]
    simp only [answer]
    split <;> exact ⟨_, rfl⟩
  · rw [closeIfDone_eq]
    exact ⟨_, rfl⟩

theorem fin_acked {accepted : Bytes} (sending : c.sender.Sending accepted) (sent : c.sender.finSent = true)
    (acks : c.FinAck seg) :
    (c.segmentReceived seg).sender.stream.eof = true ∧ (c.segmentReceived seg).sender.bytesInFlight = 0 := by
  have still : (c.segmentReceived seg).sender.finSent = true := finSent_kept.segmentReceived sent seg
  obtain ⟨accepts, preserves, _, _⟩ := accept_sender sending seg
  obtain ⟨acked, tiled⟩ := accepts.tiled
  have finished : (c.accept seg).sender.finSent = true := by
    rw [(c.accept_eq seg).2]
    split <;> exact sent
  simp only [TCPSender.finSent, Bool.and_eq_true, beq_iff_eq, nextSeqnoAbsolute] at sent still
  have opened : c.sender.nextSeqno ≠ 0 := by omega
  obtain ⟨out, sender⟩ := segmentReceived_sender opened seg
  refine ⟨still.1, ?_⟩
  rw [sender, acknowledge, if_pos ⟨by rwa [nextSeqnoAbsolute, accept_nextSeqno], acks.2.1⟩]
  have noted := (c.accept seg).sender.ackReceived_finSent seg.header.ackno seg.header.win finished
  have nothing : (c.accept seg).sender.remaining seg.header.ackno = [] := by
    rw [acks.2.2, ← sent.2, ← preserves.isn, ← accept_nextSeqno c seg]
    exact tiled.remaining_nextSeqno
  simp only [moveToSegmentsOut, bytesInFlight, fillWindow_idle (hasWork_of_finSent noted), ackReceived_trackedCount,
    nothing]
  rfl

theorem closes_iff {accepted : Bytes} (sending : c.sender.Sending accepted) (sent : c.sender.finSent = true)
    (active : c.isActive = true) (brief : c.lingerAfterStreamsFinish = false) (acks : c.FinAck seg) :
    (c.segmentReceived seg).isActive = false ↔ c.ReadOut seg := by
  obtain ⟨eof, idle⟩ := fin_acked sending sent acks
  have receiver : (c.segmentReceived seg).receiver = c.receiver.segmentReceived seg := by
    simp [segmentReceived_receiver, accept, acks.1]
  have sealed := segmentReceived_linger_of_finSent sent seg
  have answered : ¬ c.Opens seg := by
    intro opens
    simp [TCPSender.finSent, nextSeqnoAbsolute, opens.2] at sent
  simp [segmentReceived_isActive, active, acks.1, answered, sealed, brief, isSatisfiedPrereq, receiver, eof, idle,
    ReadOut, Drained, and_comm]

end FinAcked

structure CloseWait (c : TCPConnection) : Prop where
  active : c.isActive = true
  outbound : c.sender.stream.hasError = false
  inbound : c.inboundStream.hasError = false
  ended : c.inboundStream.inputEnded = true
  synSent : c.sender.nextSeqnoAbsolute ≠ 0
  finUnsent : c.sender.finSent = false

instance (c : TCPConnection) : Decidable c.CloseWait :=
  decidable_of_iff (c.isActive = true ∧ c.sender.stream.hasError = false ∧ c.inboundStream.hasError = false ∧
      c.inboundStream.inputEnded = true ∧ c.sender.nextSeqnoAbsolute ≠ 0 ∧ c.sender.finSent = false)
    ⟨fun ⟨active, outbound, inbound, ended, synSent, finUnsent⟩ =>
        ⟨active, outbound, inbound, ended, synSent, finUnsent⟩,
      fun wait => ⟨wait.active, wait.outbound, wait.inbound, wait.ended, wait.synSent, wait.finUnsent⟩⟩

-- The flag waits for a segment that finds the inbound stream read to its end, and so does the close itself.
theorem passive_closer_iff (cfg : TCPConfig) (randomIsn : WrappingInt32) (events : List Event)
    (legal : AllAllowed step Legal (new cfg randomIsn) events) (wait : (run cfg randomIsn events).CloseWait) :
    ((run cfg randomIsn events).state.lingerAfterStreamsFinish = false ↔ Noticed cfg randomIsn events) ∧
      (Noticed cfg randomIsn events →
        ∀ later, AllAllowed step Legal (run cfg randomIsn events) later →
          let c := run cfg randomIsn (events ++ later)
          c.state.lingerAfterStreamsFinish = false ∧
            (c.isActive = true → c.sender.finSent = true →
              ∀ seg, c.FinAck seg → ((c.step (.deliver seg)).isActive = false ↔ c.ReadOut seg))) := by
  have reported : (run cfg randomIsn events).state.lingerAfterStreamsFinish =
      (run cfg randomIsn events).lingerAfterStreamsFinish := by simp [state, TCPState.new, wait.active]
  rw [reported]
  refine ⟨⟨noticed_of_brief wait.active, brief_of_noticed legal wait.finUnsent⟩, ?_⟩
  intro noticed later permitted
  have brief : (run cfg randomIsn (events ++ later)).lingerAfterStreamsFinish = false := by
    rw [run_append]
    exact (later_foldl _ later).linger (brief_of_noticed legal wait.finUnsent noticed)
  refine ⟨by simp [state, TCPState.new, brief], fun active sent seg acks => ?_⟩
  obtain ⟨accepted, sending⟩ : ∃ accepted, (run cfg randomIsn (events ++ later)).sender.Sending accepted :=
    sending_kept.foldl (allAllowed_append.mpr ⟨legal, permitted⟩) ⟨[], .new ..⟩
  exact closes_iff sending sent active brief acks

theorem passive_closer_iff_sample :
    (run {} ⟨5⟩ [.deliver sampleSyn, .deliver (sampleFin 6)]).state.lingerAfterStreamsFinish = false ∧
      ((run {} ⟨5⟩ ([.deliver sampleSyn, .deliver (sampleFin 6)] ++ [.endInputStream])).step
        (.deliver sampleFinAck)).isActive = false := by
  have noticed : Noticed {} ⟨5⟩ [.deliver sampleSyn, .deliver (sampleFin 6)] :=
    ⟨[.deliver sampleSyn], sampleFin 6, [], rfl, by decide, by decide⟩
  obtain ⟨flag, closing⟩ :=
    passive_closer_iff {} ⟨5⟩ [.deliver sampleSyn, .deliver (sampleFin 6)] (by decide) (by decide)
  have closed := (closing noticed [.endInputStream] (by decide)).2 (by decide) (by decide)
  exact ⟨flag.mpr noticed, (closed sampleFinAck (by decide)).mpr (by decide)⟩

theorem unread_fin_lingers :
    (run {} ⟨5⟩ [.deliver sampleSyn, .deliver { sampleFin 6 with payload := [1] }]).CloseWait ∧
      (run {} ⟨5⟩ [.deliver sampleSyn,
        .deliver { sampleFin 6 with payload := [1] }]).state.lingerAfterStreamsFinish = true := by
  decide

end Sponge.TCPConnection
