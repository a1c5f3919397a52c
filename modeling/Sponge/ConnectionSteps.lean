import Sponge.SenderEmissions

set_option autoImplicit false

namespace Sponge.TCPConnection

open Shared TCPSender

-- A segment as the connection puts it on its queue: acknowledging what the receiver does or, while there is
-- nothing to acknowledge, only if it is a FIN.
structure Output (accepted : Bytes) (c : TCPConnection) (seg : TCPSegment) : Prop where
  emittable : Emittable c.sender.isn accepted c.sender.stream.isEnded c.sender.nextSeqno seg
  acked : ∀ ackno, c.receiver.ackno = some ackno → seg.header.ack = true → seg.header.ackno = ackno
  unacked : c.receiver.ackno = none → seg.header.ack = true → seg.header.fin = true

/-- What the parts of a connection's methods do once the receiver has taken the segment: the queue only grows, and
`acks` says which numbers the sender may come to hold acknowledged. -/
structure Evolves (acks : Nat → Prop) (accepted accepted' : Bytes) (c c' : TCPConnection) : Prop where
  sending : c'.sender.Sending accepted'
  preserves : Preserves accepted c.sender accepted' c'.sender
  receiver : c'.receiver = c.receiver ∨ c'.receiver = c.receiver.setError
  out : ∃ new, c'.segmentsOut = c.segmentsOut ++ new ∧ ∀ seg ∈ new, Output accepted' c' seg
  nextAckno : c'.sender.nextAckno = c.sender.nextAckno ∨ acks c'.sender.nextAckno

section Evolves

variable {acks : Nat → Prop} {accepted accepted' accepted'' : Bytes} {c c' c'' : TCPConnection}

theorem setError_ackno (r : TCPReceiver) : r.setError.ackno = r.ackno := rfl

theorem Evolves.ackno (evolves : Evolves acks accepted accepted' c c') : c'.receiver.ackno = c.receiver.ackno := by
  rcases evolves.receiver with same | same <;> rw [same]
  exact setError_ackno _

theorem Output.later {seg : TCPSegment} (output : Output accepted c seg)
    (evolves : Evolves acks accepted accepted' c c') : Output accepted' c' seg where
  emittable := evolves.preserves.emittable seg output.emittable
  acked := by rw [evolves.ackno]; exact output.acked
  unacked := by rw [evolves.ackno]; exact output.unacked

theorem Evolves.trans (first : Evolves acks accepted accepted' c c')
    (second : Evolves acks accepted' accepted'' c' c'') : Evolves acks accepted accepted'' c c'' where
  sending := second.sending
  preserves := first.preserves.trans second.preserves
  receiver := by
    rcases first.receiver with same | same <;> rcases second.receiver with same' | same' <;> rw [same', same]
    · exact Or.inl rfl
    · exact Or.inr rfl
    · exact Or.inr rfl
    · exact Or.inr rfl
  out := by
    obtain ⟨new, out, each⟩ := first.out
    obtain ⟨more, out', each'⟩ := second.out
    refine ⟨new ++ more, by rw [out', out, List.append_assoc], fun seg member => ?_⟩
    rcases List.mem_append.mp member with early | late
    · exact (each seg early).later second
    · exact each' seg late
  nextAckno := by
    rcases second.nextAckno with same | moved
    · rw [same]
      exact first.nextAckno
    · exact Or.inr moved

theorem Evolves.ofSender {s : TCPSender} (sending : s.Sending accepted')
    (preserves : Preserves accepted c.sender accepted' s)
    (nextAckno : s.nextAckno = c.sender.nextAckno ∨ acks s.nextAckno) :
    Evolves acks accepted accepted' c { c with sender := s } where
  sending := sending
  preserves := preserves
  receiver := Or.inl rfl
  out := ⟨[], by simp, by simp⟩
  nextAckno := nextAckno

theorem Evolves.refl (sending : c.sender.Sending accepted) : Evolves acks accepted accepted c c :=
  .ofSender sending (.refl accepted c.sender) (Or.inl rfl)

theorem stamp_emittable {isn : WrappingInt32} {ended : Bool} {stop : Nat} {seg : TCPSegment}
    (emittable : Emittable isn accepted ended stop seg) (r : TCPReceiver) :
    Emittable isn accepted ended stop (stamp r seg) := by
  unfold stamp
  split
  · exact emittable
  · cases emittable with
    | made sent before seqno syn fin payload => exact .made sent before seqno syn fin payload
    | empty plain bare more => exact .empty plain bare more

theorem moveToSegmentsOut_evolves (sending : c.sender.Sending accepted) :
    Evolves acks accepted accepted c c.moveToSegmentsOut where
  sending := sending.drain.1
  preserves := sending.drain.2
  receiver := Or.inl rfl
  out := by
    refine ⟨_, rfl, fun seg member => ?_⟩
    obtain ⟨original, queued, rfl⟩ := List.mem_map.mp member
    refine ⟨stamp_emittable (sending.queue original queued) c.receiver, ?_, ?_⟩
    · intro ackno known _
      have known : c.receiver.ackno = some ackno := known
      simp [stamp, known]
    · intro unknown
      have unknown : c.receiver.ackno = none := unknown
      simpa [stamp, unknown] using sending.silent original queued
  nextAckno := Or.inl rfl

theorem connect_evolves (sending : c.sender.Sending accepted) : Evolves acks accepted accepted c c.connect := by
  obtain ⟨filled, preserves, nextAckno⟩ := sending.fillWindow
  exact (Evolves.ofSender filled preserves (Or.inl nextAckno)).trans (moveToSegmentsOut_evolves filled)

theorem acknowledge_evolves (sending : c.sender.Sending accepted) (seg : TCPSegment) :
    Evolves (fun n => seg.header.ack = true ∧ seg.header.ackno = wrap n c.sender.isn) accepted accepted c
      (c.acknowledge seg) := by
  unfold acknowledge
  split
  next acked =>
    obtain ⟨noted, preserves, moved⟩ := sending.ackReceived seg.header.ackno seg.header.win
    obtain ⟨filled, preserves', nextAckno⟩ := noted.fillWindow
    refine (Evolves.ofSender filled (preserves.trans preserves') ?_).trans (moveToSegmentsOut_evolves filled)
    rw [nextAckno]
    exact moved.imp id fun mark => ⟨acked.2, mark⟩
  next => exact .refl sending

theorem answer_evolves (sending : c.sender.Sending accepted) : Evolves acks accepted accepted c c.answer := by
  unfold answer
  split
  · obtain ⟨queued, preserves⟩ := sending.sendEmptySegment
    exact (Evolves.ofSender queued preserves (Or.inl rfl)).trans (moveToSegmentsOut_evolves queued)
  · exact moveToSegmentsOut_evolves sending

theorem closeIfDone_evolves (sending : c.sender.Sending accepted) :
    Evolves acks accepted accepted c c.closeIfDone := by
  unfold closeIfDone
  dsimp only
  split_ifs
  all_goals exact ⟨sending, .refl accepted c.sender, Or.inl rfl, ⟨[], by simp, by simp⟩, Or.inl rfl⟩

theorem write_evolves (sending : c.sender.Sending accepted) (open_ : c.sender.stream.isEnded = false) (data : Bytes) :
    Evolves acks accepted (accepted ++ data.take (c.sender.stream.appendLength data)) c (c.write data).2 := by
  obtain ⟨written, preserves⟩ := sending.write open_ data
  obtain ⟨filled, preserves', nextAckno⟩ := written.fillWindow
  exact (Evolves.ofSender filled (preserves.trans preserves') (Or.inl nextAckno)).trans
    (moveToSegmentsOut_evolves filled)

theorem endInputStream_evolves (sending : c.sender.Sending accepted) :
    Evolves acks accepted accepted c c.endInputStream := by
  obtain ⟨ended, preserves⟩ := sending.endInput
  obtain ⟨filled, preserves', nextAckno⟩ := ended.fillWindow
  exact (Evolves.ofSender filled (preserves.trans preserves') (Or.inl nextAckno)).trans
    (moveToSegmentsOut_evolves filled)

theorem giveUp_evolves (sending : c.sender.Sending accepted) : Evolves acks accepted accepted c c.giveUp where
  sending := sending.setError.1
  preserves := sending.setError.2
  receiver := Or.inr rfl
  out := by
    refine ⟨[rstSegment], rfl, fun seg member => ?_⟩
    rw [List.mem_singleton] at member
    subst member
    exact ⟨.empty rfl rfl rfl, by simp [rstSegment], by simp [rstSegment]⟩
  nextAckno := Or.inl rfl

theorem passTime_evolves (sending : c.sender.Sending accepted) (ms : Nat) :
    Evolves acks accepted accepted c (c.passTime ms) := by
  obtain ⟨ticked, preserves, nextAckno⟩ := sending.tick ms
  unfold passTime
  dsimp only
  split
  all_goals exact ⟨ticked, preserves, Or.inl rfl, ⟨[], by simp, by simp⟩, Or.inl nextAckno⟩

theorem tick_evolves (sending : c.sender.Sending accepted) (ms : Nat) :
    Evolves acks accepted accepted c (c.tick ms) := by
  have passed : Evolves acks accepted accepted c (c.passTime ms) := passTime_evolves sending ms
  unfold TCPConnection.tick
  dsimp only
  split
  · exact passed.trans (giveUp_evolves passed.sending)
  · exact passed.trans (moveToSegmentsOut_evolves passed.sending)

theorem segmentReceived_evolves {seg : TCPSegment} (sending : (c.accept seg).sender.Sending accepted) :
    Evolves (fun n => seg.header.ack = true ∧ seg.header.ackno = wrap n (c.accept seg).sender.isn) accepted accepted
      (c.accept seg) (c.segmentReceived seg) := by
  have noted := acknowledge_evolves sending seg
  unfold segmentReceived
  dsimp only
  split_ifs
  · exact noted.trans (connect_evolves noted.sending)
  · have answered := noted.trans (answer_evolves noted.sending)
    exact answered.trans (closeIfDone_evolves answered.sending)
  · exact noted.trans (closeIfDone_evolves noted.sending)

end Evolves

-- Taking the segment in changes the receiver and, on a reset, the error flags; nothing is sent yet.
theorem accept_sender {accepted : Bytes} {c : TCPConnection} (sending : c.sender.Sending accepted)
    (seg : TCPSegment) :
    (c.accept seg).sender.Sending accepted ∧ Preserves accepted c.sender accepted (c.accept seg).sender ∧
      (c.accept seg).sender.nextAckno = c.sender.nextAckno ∧ (c.accept seg).segmentsOut = c.segmentsOut := by
  unfold accept
  dsimp only
  split
  · exact ⟨sending.setError.1, sending.setError.2, rfl, rfl⟩
  · exact ⟨sending, .refl accepted c.sender, rfl, rfl⟩

theorem accept_receiver (c : TCPConnection) (seg : TCPSegment) :
    (c.accept seg).receiver = c.receiver.segmentReceived seg ∨
      (c.accept seg).receiver = (c.receiver.segmentReceived seg).setError := by
  unfold accept
  dsimp only
  split
  · exact Or.inr rfl
  · exact Or.inl rfl

end Sponge.TCPConnection
