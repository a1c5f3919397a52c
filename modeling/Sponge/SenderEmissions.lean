import Sponge.ReceiverStream
import Sponge.SenderTiling
import Sponge.TCPConnection

set_option autoImplicit false

namespace Sponge.TCPSender

open Shared

/-- A segment that may leave the sender: a copy of one it made before the number `stop`, whatever its acknowledgment
fields, or one that takes up no number. -/
inductive Emittable (isn : WrappingInt32) (accepted : Bytes) (ended : Bool) (stop : Nat) (seg : TCPSegment) : Prop
  | made {start : Nat} {original : TCPSegment} (sent : SentAt isn accepted ended start original)
      (before : start + original.lengthInSequenceSpace ≤ stop)
      (seqno : seg.header.seqno = original.header.seqno) (syn : seg.header.syn = original.header.syn)
      (fin : seg.header.fin = original.header.fin) (payload : seg.payload = original.payload)
  | empty (plain : seg.header.syn = false) (bare : seg.payload = []) (more : seg.header.fin = false)

section Emittable

variable {isn : WrappingInt32} {accepted : Bytes} {ended : Bool} {stop : Nat} {seg : TCPSegment}

theorem Emittable.carried (emittable : Emittable isn accepted ended stop seg) : Carried isn accepted seg := by
  cases emittable with
  | @made start original sent before seqno syn fin payload =>
      by_cases first : start = 0
      · obtain ⟨opening, bare, more⟩ := sent.opening first
        exact .syn (syn.trans opening) (by rw [seqno, sent.seqno, first, wrap_zero]) (payload.trans bare)
          (fin.trans more)
      · refine .data (start - 1) (syn.trans (sent.plain first)) ?_ sent.inside ?_ ?_
        · rw [seqno, sent.seqno, Nat.add_sub_cancel' (by omega)]
        · rw [payload]
          exact sent.excerpt
        · intro last
          rw [payload]
          exact (sent.closing (fin.symm.trans last)).1
  | empty plain bare more => exact .empty plain bare more

theorem Emittable.mono {ended' : Bool} {stop' : Nat} (emittable : Emittable isn accepted ended stop seg)
    (closed : ended = true → ended' = true) (later : stop ≤ stop') :
    Emittable isn accepted ended' stop' seg := by
  cases emittable with
  | made sent before seqno syn fin payload =>
      exact .made { sent with closing := fun last => ⟨(sent.closing last).1, closed (sent.closing last).2⟩ }
        (le_trans before later) seqno syn fin payload
  | empty plain bare more => exact .empty plain bare more

theorem Emittable.grow (emittable : Emittable isn accepted false stop seg) (more : Bytes) :
    Emittable isn (accepted ++ more) ended stop seg := by
  cases emittable with
  | made sent before seqno syn fin payload => exact .made (sent.grow more) before seqno syn fin payload
  | empty plain bare more => exact .empty plain bare more

theorem Emittable.of_fin (emittable : Emittable isn accepted ended stop seg) (fin : seg.header.fin = true) :
    ended = true ∧ accepted.length + 2 ≤ stop := by
  cases emittable with
  | @made start original sent before seqno syn same payload =>
      have closing : original.header.fin = true := same.symm.trans fin
      have positive : start ≠ 0 := fun first => by simp [(sent.opening first).2.2] at closing
      have inside := (sent.closing closing).1
      refine ⟨(sent.closing closing).2, ?_⟩
      simp only [TCPSegment.lengthInSequenceSpace, closing, if_true] at before
      omega
  | empty plain bare more => simp [more] at fin

end Emittable

-- The sender of a connection: nothing it has queued claims an acknowledgment, apart from the FIN, whose
-- `ack` flag `nextSegment` sets.
structure Sending (accepted : Bytes) (s : TCPSender) : Prop where
  tiled : ∃ acked, Tiled accepted acked s
  queue : ∀ seg ∈ s.segmentsOut, Emittable s.isn accepted s.stream.isEnded s.nextSeqno seg
  silent : ∀ seg ∈ s.segmentsOut, seg.header.ack = true → seg.header.fin = true

structure Preserves (accepted : Bytes) (s : TCPSender) (accepted' : Bytes) (s' : TCPSender) : Prop where
  isn : s'.isn = s.isn
  closed : s.stream.isEnded = true → s'.stream.isEnded = true
  emittable : ∀ seg, Emittable s.isn accepted s.stream.isEnded s.nextSeqno seg →
    Emittable s'.isn accepted' s'.stream.isEnded s'.nextSeqno seg

theorem Preserves.refl (accepted : Bytes) (s : TCPSender) : Preserves accepted s accepted s := ⟨rfl, id, fun _ => id⟩

theorem Preserves.trans {accepted accepted' accepted'' : Bytes} {s s' s'' : TCPSender}
    (first : Preserves accepted s accepted' s') (second : Preserves accepted' s' accepted'' s'') :
    Preserves accepted s accepted'' s'' :=
  ⟨second.isn.trans first.isn, second.closed ∘ first.closed,
    fun seg before => second.emittable seg (first.emittable seg before)⟩

theorem Preserves.of_later {accepted : Bytes} {s s' : TCPSender} (isn : s'.isn = s.isn)
    (closed : s.stream.isEnded = true → s'.stream.isEnded = true) (later : s.nextSeqno ≤ s'.nextSeqno) :
    Preserves accepted s accepted s' :=
  ⟨isn, closed, fun seg emittable => by rw [isn]; exact emittable.mono closed later⟩

namespace Sending

variable {accepted : Bytes} {s : TCPSender}

theorem new (capacity : Nat) (retxTimeout : UInt16) (fixedIsn : Option WrappingInt32)
    (randomIsn : WrappingInt32) : Sending [] (TCPSender.new capacity retxTimeout fixedIsn randomIsn) where
  tiled := ⟨[], tiled_new capacity retxTimeout fixedIsn randomIsn⟩
  queue := by simp [TCPSender.new]
  silent := by simp [TCPSender.new]

theorem write (sending : Sending accepted s) (open_ : s.stream.isEnded = false) (data : Bytes) :
    Sending (accepted ++ data.take (s.stream.appendLength data)) { s with stream := s.stream.append data } ∧
      Preserves accepted s (accepted ++ data.take (s.stream.appendLength data))
        { s with stream := s.stream.append data } := by
  obtain ⟨acked, tiled⟩ := sending.tiled
  have grow : ∀ seg, Emittable s.isn accepted s.stream.isEnded s.nextSeqno seg →
      Emittable s.isn (accepted ++ data.take (s.stream.appendLength data)) s.stream.isEnded s.nextSeqno seg := by
    intro seg emittable
    rw [open_] at emittable
    exact emittable.grow _
  exact ⟨⟨⟨acked, tiled.write open_ data⟩, fun seg member => grow seg (sending.queue seg member), sending.silent⟩,
    ⟨rfl, id, grow⟩⟩

theorem endInput (sending : Sending accepted s) :
    Sending accepted { s with stream := s.stream.endInput } ∧
      Preserves accepted s accepted { s with stream := s.stream.endInput } := by
  obtain ⟨acked, tiled⟩ := sending.tiled
  have preserves : Preserves accepted s accepted { s with stream := s.stream.endInput } :=
    .of_later rfl (fun _ => rfl) le_rfl
  exact ⟨⟨⟨acked, tiled.endInput⟩, fun seg member => preserves.emittable seg (sending.queue seg member),
    sending.silent⟩, preserves⟩

theorem setError (sending : Sending accepted s) :
    Sending accepted s.setError ∧ Preserves accepted s accepted s.setError := by
  obtain ⟨acked, tiled⟩ := sending.tiled
  exact ⟨⟨⟨acked, { tiled with }⟩, sending.queue, sending.silent⟩, ⟨rfl, id, fun _ => id⟩⟩

theorem drain (sending : Sending accepted s) :
    Sending accepted { s with segmentsOut := [] } ∧ Preserves accepted s accepted { s with segmentsOut := [] } := by
  obtain ⟨acked, tiled⟩ := sending.tiled
  exact ⟨⟨⟨acked, { tiled with }⟩, by simp, by simp⟩, ⟨rfl, id, fun _ => id⟩⟩

theorem each (sending : Sending accepted s) {seg : TCPSegment} (member : seg ∈ s.segmentsOut) :
    Emittable s.isn accepted s.stream.isEnded s.nextSeqno seg ∧ (seg.header.ack = true → seg.header.fin = true) :=
  ⟨sending.queue seg member, sending.silent seg member⟩

theorem ofEach {acked : List TCPSegment} (tiled : Tiled accepted acked s)
    (each : ∀ seg ∈ s.segmentsOut, Emittable s.isn accepted s.stream.isEnded s.nextSeqno seg ∧
      (seg.header.ack = true → seg.header.fin = true)) : Sending accepted s :=
  ⟨⟨acked, tiled⟩, fun seg member => (each seg member).1, fun seg member => (each seg member).2⟩

theorem outstanding {acked : List TCPSegment} (tiled : Tiled accepted acked s) {seg : TCPSegment}
    (member : seg ∈ s.trackingSegments) :
    Emittable s.isn accepted s.stream.isEnded s.nextSeqno seg ∧ (seg.header.ack = true → seg.header.fin = true) := by
  obtain ⟨start, _, stop, sent⟩ := tiled.outstanding.position (List.mem_reverse.mpr member)
  exact ⟨.made sent stop rfl rfl rfl rfl, fun ack => by rw [← sent.flags.1]; exact ack⟩

theorem fillWindow (sending : Sending accepted s) :
    Sending accepted s.fillWindow ∧ Preserves accepted s accepted s.fillWindow ∧
      s.fillWindow.nextAckno = s.nextAckno := by
  obtain ⟨acked, tiled⟩ := sending.tiled
  obtain ⟨new, emits, after⟩ := tiled.fillWindow
  have total := tiled.outstanding.total
  have total' := after.outstanding.total
  rw [emits.tracking, emits.nextAckno, List.reverse_append, List.map_append, List.sum_append] at total'
  have preserves : Preserves accepted s accepted s.fillWindow :=
    .of_later emits.isn (fun ended => by rw [emits.ended]; exact ended) (by omega)
  have tracked : ∀ seg ∈ new, seg ∈ s.fillWindow.trackingSegments := by
    intro seg member
    rw [emits.tracking]
    simp [member]
  refine ⟨.ofEach after fun seg member => ?_, preserves, emits.nextAckno⟩
  rw [emits.out, List.mem_append] at member
  rcases member with old | fresh
  · exact (sending.each old).imp_left (preserves.emittable seg)
  · exact outstanding after (tracked seg fresh)

theorem tick (sending : Sending accepted s) (ms : Nat) :
    Sending accepted (s.tick ms) ∧ Preserves accepted s accepted (s.tick ms) ∧
      (s.tick ms).nextAckno = s.nextAckno := by
  obtain ⟨acked, tiled⟩ := sending.tiled
  have frame := s.tick_frame ms
  have preserves : Preserves accepted s accepted (s.tick ms) := by
    rw [frame]
    exact ⟨rfl, id, fun _ => id⟩
  have members : ∀ seg ∈ (s.tick ms).segmentsOut, seg ∈ s.segmentsOut ∨ seg ∈ s.trackingSegments := by
    intro seg member
    rcases tiled.tick_out ms with same | ⟨oldest, last, sent⟩
    · rw [same] at member
      exact Or.inl member
    · rw [sent, List.mem_append, List.mem_singleton] at member
      rcases member with old | rfl
      · exact Or.inl old
      · exact Or.inr (List.mem_of_getLast? last)
  refine ⟨.ofEach (tiled.tick ms) fun seg member => ?_, preserves, by rw [frame]⟩
  rcases members seg member with old | tracked
  · exact (sending.each old).imp_left (preserves.emittable seg)
  · exact (outstanding tiled tracked).imp_left (preserves.emittable seg)

theorem sendEmptySegment (sending : Sending accepted s) :
    Sending accepted s.sendEmptySegment ∧ Preserves accepted s accepted s.sendEmptySegment := by
  obtain ⟨acked, tiled⟩ := sending.tiled
  refine ⟨.ofEach (s := s.sendEmptySegment) { tiled with } fun seg member => ?_, ⟨rfl, id, fun _ => id⟩⟩
  rw [TCPSender.sendEmptySegment, List.mem_append, List.mem_singleton] at member
  rcases member with old | rfl
  · exact sending.each old
  · exact ⟨.empty rfl rfl rfl, by simp⟩

end Sending

theorem Sending.ackReceived {accepted : Bytes} {s : TCPSender} (sending : Sending accepted s)
    (ackno : WrappingInt32) (windowSize : UInt16) :
    Sending accepted (s.ackReceived ackno windowSize) ∧
      Preserves accepted s accepted (s.ackReceived ackno windowSize) ∧
      ((s.ackReceived ackno windowSize).nextAckno = s.nextAckno ∨
        ackno = wrap (s.ackReceived ackno windowSize).nextAckno s.isn) := by
  obtain ⟨acked, tiled⟩ := sending.tiled
  obtain ⟨older, after, _⟩ := tiled.ackReceived ackno windowSize
  obtain ⟨isn, stream, out, nextSeqno⟩ := s.ackReceived_frame ackno windowSize
  have preserves : Preserves accepted s accepted (s.ackReceived ackno windowSize) :=
    .of_later isn (fun ended => by rw [stream]; exact ended) (le_of_eq nextSeqno.symm)
  refine ⟨⟨⟨_, after⟩, ?_, by rw [out]; exact sending.silent⟩, preserves, ?_⟩
  · rw [out]
    exact fun seg member => preserves.emittable seg (sending.queue seg member)
  · cases found : s.matched ackno with
    | false =>
        left
        rw [tiled.ackReceived_unmatched found, noteWindow_frame]
    | true =>
        right
        obtain ⟨_, _, position, _, _, _, _, mark, equation⟩ := tiled.ackReceived_matched found windowSize
        rw [equation]
        exact mark

theorem Sending.finSent {accepted : Bytes} {s : TCPSender} (sending : s.Sending accepted)
    {seg : TCPSegment} (emittable : Emittable s.isn accepted s.stream.isEnded s.nextSeqno seg)
    (fin : seg.header.fin = true) : s.finSent = true := by
  obtain ⟨acked, tiled⟩ := sending.tiled
  obtain ⟨ended, reached⟩ := emittable.of_fin fin
  have last := tiled.last
  have drained : s.stream.buffer = [] := by
    rw [tiled.buffer]
    exact List.drop_eq_nil_of_le (by omega)
  have written := tiled.written
  simp only [TCPSender.finSent, ByteStream.eof, ByteStream.inputEnded, ended, ByteStream.bufferEmpty, drained,
    nextSeqnoAbsolute, ByteStream.bytesWritten, written, beq_iff_eq, List.isEmpty_nil, Bool.and_self,
    Bool.true_and]
  omega

end Sponge.TCPSender
