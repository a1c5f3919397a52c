import Sponge.Endpoint
import Sponge.ReceiverEnd

set_option autoImplicit false

namespace Sponge

open Shared TCPSender TCPReceiver

namespace TCPReceiver

def ackLimit (r : TCPReceiver) : Nat :=
  if r.haveSYN then r.streamOut.bytesWritten + (if r.haveFIN && r.streamOut.inputEnded then 2 else 1) else 0

theorem ackno_eq (r : TCPReceiver) : r.ackno = if r.haveSYN then some (wrap r.ackLimit r.icn) else none := by
  unfold ackno ackLimit
  split_ifs <;> rfl

section AckLimit

variable {isn : WrappingInt32} {stream : Bytes} {r : TCPReceiver} {a : ByteReassembler}

theorem Follows.ackLimit_eq (follows : Follows isn stream r a) (ends : Ends stream r a) :
    r.ackLimit = if r.haveSYN then
      a.out.length + (if r.haveFIN = true ∧ a.out.length = stream.length then 2 else 1) else 0 := by
  have ended : r.streamOut.inputEnded = a.ended := follows.rel.ended
  have known := ends.ended
  rw [ackLimit, follows.written, ended]
  refine if_congr Iff.rfl (congrArg (a.out.length + ·) (if_congr ?_ rfl rfl)) rfl
  rw [Bool.and_eq_true, known]
  exact ⟨fun both => ⟨both.1, both.2.2⟩, fun both => ⟨both.1, both⟩⟩

theorem Follows.ackLimit_le (follows : Follows isn stream r a) (ends : Ends stream r a) :
    r.ackLimit ≤ stream.length + 2 ∧ r.ackLimit ≤ a.out.length + 2 ∧
      (r.ackLimit = a.out.length + 2 → a.out.length = stream.length) := by
  have := follows.copies.out.length_le
  rw [follows.ackLimit_eq ends]
  split_ifs with opened complete
  · exact ⟨by omega, by omega, fun _ => complete.2⟩
  · exact ⟨by omega, by omega, fun all => by omega⟩
  · exact ⟨by omega, by omega, False.elim⟩

theorem Follows.segment_ackLimit (follows : Follows isn stream r a) (short : stream.length < 2 ^ 31 - 2)
    (ends : Ends stream r a) {seg : TCPSegment} (carried : Carried isn stream seg)
    (safe : FinSafe stream r (.segment seg)) :
    ∃ a', Follows isn stream (r.segmentReceived seg) a' ∧ Ends stream (r.segmentReceived seg) a' ∧
      a'.bytesRead = a.bytesRead ∧ a.out <+: a'.out ∧ r.ackLimit ≤ (r.segmentReceived seg).ackLimit := by
  by_cases same : seg.header.syn = r.haveSYN
  · rw [segmentReceived_ignored same]
    exact ⟨a, follows, ends, rfl, List.prefix_refl _, le_rfl⟩
  · obtain ⟨follows', ends'⟩ := follows.segment_safe short ends carried same (safe same)
    have grown : a.out <+: (r.received a seg).out := ByteReassembler.out_prefix_push ..
    refine ⟨_, follows', ends', ByteReassembler.push_bytesRead .., grown, ?_⟩
    obtain ⟨syn, fin⟩ := r.segmentReceived_flags seg
    have length := grown.length_le
    have whole := follows'.copies.out.length_le
    rw [follows.ackLimit_eq ends, follows'.ackLimit_eq ends', syn, fin]
    cases opened : r.haveSYN with
    | false => simp
    | true =>
        simp only [Bool.true_or, if_true]
        split_ifs with before after after
        · omega
        · exact absurd ⟨by simp [before.1], by omega⟩ after
        · omega
        · omega

end AckLimit

theorem segmentReceived_icn {isn : WrappingInt32} {stream : Bytes} {r : TCPReceiver} {seg : TCPSegment}
    (carried : Carried isn stream seg) (icn : r.haveSYN = true → r.icn = isn) :
    (r.segmentReceived seg).haveSYN = true → (r.segmentReceived seg).icn = isn := by
  by_cases same : seg.header.syn = r.haveSYN
  · rwa [segmentReceived_ignored same]
  · rw [segmentReceived_accepted same]
    exact fun _ => (opened_icn carried same icn).2

-- A receiver without any capacity loses the stream and acknowledges its FIN all the same.
def Swallowed (stream : Bytes) (r : TCPReceiver) (seg : TCPSegment) : Prop :=
  r.streamOut.capacity = 0 ∧ seg.header.syn ≠ r.haveSYN ∧ seg.header.fin = true ∧ stream ≠ []

instance (stream : Bytes) (r : TCPReceiver) (seg : TCPSegment) : Decidable (Swallowed stream r seg) :=
  inferInstanceAs (Decidable (_ ∧ _))

def Kept (stream : Bytes) (r : TCPReceiver) (seg : TCPSegment) : Prop :=
  FinSafe stream r (.segment seg) ∧ ¬ Swallowed stream r seg

instance (stream : Bytes) (r : TCPReceiver) (seg : TCPSegment) : Decidable (Kept stream r seg) :=
  inferInstanceAs (Decidable (_ ∧ _))

end TCPReceiver

namespace Endpoint

def FinAfterSyn (e : Endpoint) : Prop := e.conn.sender.finSent = true → e.conn.receiver.haveSYN = true

instance (e : Endpoint) : Decidable e.FinAfterSyn := inferInstanceAs (Decidable (_ → _))

def Truthful (isn : WrappingInt32) (e : Endpoint) : Prop :=
  ∀ seg ∈ e.emitted, seg.header.ack = true →
    ∃ k, k ≤ e.conn.receiver.ackLimit ∧ seg.header.ackno = wrap k isn

structure Receiving (isn : WrappingInt32) (stream : Bytes) (closed : Bool) (e : Endpoint)
    (a : ByteReassembler) : Prop where
  follows : Follows isn stream e.conn.receiver a
  ends : Ends stream e.conn.receiver a
  delivered : e.delivered = a.out.take a.bytesRead
  closing : e.conn.receiver.haveFIN = true → closed = true

section Receiving

variable {isn : WrappingInt32} {stream : Bytes} {closed : Bool} {e : Endpoint} {a : ByteReassembler}

theorem receiving_new (isn : WrappingInt32) (stream : Bytes) (closed : Bool) {cfg : TCPConfig}
    (positive : 1 ≤ cfg.recvCapacity) (randomIsn : WrappingInt32) :
    (new cfg randomIsn).Receiving isn stream closed ByteReassembler.new where
  follows := follows_new isn stream positive
  ends :=
    { eofAt := rfl
      ended := by simp [new, TCPConnection.new, TCPReceiver.new, ByteReassembler.new] }
  delivered := rfl
  closing := by simp [new, TCPConnection.new, TCPReceiver.new]

theorem Receiving.inbound (receiving : e.Receiving isn stream closed a) : e.inbound = a.out := by
  have buffer : e.conn.inboundStream.buffer = a.out.drop a.bytesRead := receiving.follows.rel.buffer
  rw [Endpoint.inbound, receiving.delivered, buffer, List.take_append_drop]

theorem Receiving.transfer (receiving : e.Receiving isn stream closed a) (e' : Endpoint)
    (delivered : e'.delivered = e.delivered)
    (receiver : e'.conn.receiver = e.conn.receiver ∨ e'.conn.receiver = e.conn.receiver.setError) :
    e'.Receiving isn stream closed a := by
  rcases receiver with same | same
  · refine ⟨?_, ?_, delivered.trans receiving.delivered, ?_⟩ <;> rw [same]
    · exact receiving.follows
    · exact receiving.ends
    · exact receiving.closing
  · refine ⟨?_, ?_, delivered.trans receiving.delivered, ?_⟩ <;> rw [same]
    · exact receiving.follows.setError
    · exact ⟨receiving.ends.eofAt, receiving.ends.ended⟩
    · exact receiving.closing

theorem Receiving.popOutput (receiving : e.Receiving isn stream closed a) (len : Nat) :
    (e.step (.popOutput len)).Receiving isn stream closed (a.pop len) where
  follows := receiving.follows.pop len
  ends := receiving.ends.pop len
  delivered := by
    rw [← receiving.follows.peek len, ← receiving.delivered]
    rfl
  closing := receiving.closing

theorem receive_haveFIN {seg : TCPSegment} (fin : (e.receive seg).conn.receiver.haveFIN = true) :
    e.conn.receiver.haveFIN = true ∨ seg.header.syn ≠ e.conn.receiver.haveSYN ∧ seg.header.fin = true := by
  have flags := (e.conn.receiver.segmentReceived_flags seg).2
  have fin : (e.conn.receiver.segmentReceived seg).haveFIN = true := fin
  rwa [flags, Bool.or_eq_true, Bool.and_eq_true, bne_iff_ne] at fin

theorem Receiving.receive (receiving : e.Receiving isn stream closed a) (short : stream.length < 2 ^ 31 - 2)
    {seg : TCPSegment} (carried : Carried isn stream seg) (last : seg.header.fin = true → closed = true)
    (safe : FinSafe stream e.conn.receiver (.segment seg)) :
    ∃ a', (e.receive seg).Receiving isn stream closed a' ∧
      e.conn.receiver.ackLimit ≤ (e.receive seg).conn.receiver.ackLimit := by
  obtain ⟨a', follows, ends, read, ⟨more, grown⟩, later⟩ :=
    receiving.follows.segment_ackLimit short receiving.ends carried safe
  refine ⟨a', ⟨follows, ends, receiving.delivered.trans ?_, fun fin => ?_⟩, later⟩
  · rw [read, ← grown, List.take_append_of_le_length receiving.follows.rel.read]
  · rcases receive_haveFIN fin with before | ⟨_, now⟩
    · exact receiving.closing before
    · exact last now

theorem Receiving.extend {longer : Bytes} {closed' : Bool} (receiving : e.Receiving isn stream closed a)
    (grown : stream <+: longer) (open_ : stream = longer ∨ closed = false)
    (later : closed = true → closed' = true) : e.Receiving isn longer closed' a := by
  refine ⟨receiving.follows.extend grown, ?_, receiving.delivered, fun fin => later (receiving.closing fin)⟩
  rcases open_ with rfl | open_
  · exact receiving.ends
  · have unfinished : e.conn.receiver.haveFIN = false := by
      by_contra fin
      have := receiving.closing (by simpa using fin)
      simp [open_] at this
    constructor
    · rw [receiving.ends.eofAt, unfinished]
      rfl
    · rw [receiving.ends.ended, unfinished]
      simp

end Receiving

inductive Hears (isn : WrappingInt32) (stream : Bytes) (closed : Bool) (e : Endpoint) : Prop
  | assembles (a : ByteReassembler) (receiving : e.Receiving isn stream closed a)
  | drops (deaf : e.Deaf) (icn : e.conn.receiver.haveSYN = true → e.conn.receiver.icn = isn)
      (closing : e.conn.receiver.haveFIN = true → closed = true ∧ stream = [])

theorem hears_new (isn : WrappingInt32) (stream : Bytes) (closed : Bool) (cfg : TCPConfig)
    (randomIsn : WrappingInt32) : (new cfg randomIsn).Hears isn stream closed := by
  rcases Nat.eq_zero_or_pos cfg.recvCapacity with none | positive
  · exact .drops (deaf_new none randomIsn) (by simp [new, TCPConnection.new, TCPReceiver.new])
      (by simp [new, TCPConnection.new, TCPReceiver.new])
  · exact .assembles _ (receiving_new isn stream closed positive randomIsn)

theorem Deaf.ackLimit_eq {e : Endpoint} (deaf : e.Deaf) : e.conn.receiver.ackLimit =
    if e.conn.receiver.haveSYN then
      (if e.conn.receiver.haveFIN && e.conn.receiver.streamOut.inputEnded then 2 else 1) else 0 := by
  rw [ackLimit, deaf.written, Nat.zero_add]

theorem Deaf.receive_ackLimit {e : Endpoint} (deaf : e.Deaf) (seg : TCPSegment) :
    e.conn.receiver.ackLimit ≤ (e.receive seg).conn.receiver.ackLimit := by
  obtain ⟨syn, fin⟩ := e.conn.receiver.segmentReceived_flags seg
  have ended := (e.conn.receiver.segmentReceived_fed seg).isEnded
  have limit : (e.receive seg).conn.receiver.ackLimit = if (e.conn.receiver.segmentReceived seg).haveSYN then
      (if (e.conn.receiver.segmentReceived seg).haveFIN &&
        (e.conn.receiver.segmentReceived seg).streamOut.isEnded then 2 else 1) else 0 :=
    (deaf.receive seg).ackLimit_eq
  rw [limit, deaf.ackLimit_eq, syn, fin, ByteStream.inputEnded]
  cases opened : e.conn.receiver.haveSYN with
  | false => simp
  | true =>
      rw [Bool.true_or, if_pos rfl, if_pos rfl]
      split_ifs with before after
      · exact le_rfl
      · simp_all
      · omega
      · exact le_rfl

section Hears

variable {isn : WrappingInt32} {stream : Bytes} {closed : Bool} {e : Endpoint}

theorem Hears.icn (hears : e.Hears isn stream closed) :
    e.conn.receiver.haveSYN = true → e.conn.receiver.icn = isn := by
  cases hears with
  | assembles a receiving => exact receiving.follows.icn
  | drops deaf icn closing => exact icn

theorem Hears.ackLimit_le (hears : e.Hears isn stream closed) : e.conn.receiver.ackLimit ≤ stream.length + 2 := by
  cases hears with
  | assembles a receiving => exact (receiving.follows.ackLimit_le receiving.ends).1
  | drops deaf icn closing =>
      rw [deaf.ackLimit_eq]
      split_ifs <;> omega

theorem Hears.inbound_of_acked (hears : e.Hears isn stream closed) :
    (∀ p, p < stream.length → p + 1 < e.conn.receiver.ackLimit → e.inbound[p]? = stream[p]?) ∧
      (stream.length + 1 < e.conn.receiver.ackLimit → e.inbound = stream) := by
  cases hears with
  | assembles a receiving =>
      have out := receiving.follows.copies.out
      have shorter := out.length_le
      obtain ⟨_, most, whole⟩ := receiving.follows.ackLimit_le receiving.ends
      rw [receiving.inbound]
      constructor
      · intro p inside below
        have written : p < a.out.length := by omega
        rw [List.prefix_iff_getElem?.mp out p written, List.getElem?_eq_getElem written]
      · intro finished
        exact out.eq_of_length (by omega)
  | drops deaf icn closing =>
      rw [deaf.inbound, deaf.ackLimit_eq]
      cases fin : e.conn.receiver.haveFIN with
      | true => simp [(closing fin).2]
      | false =>
          simp only [Bool.false_and, Bool.false_eq_true, if_false]
          constructor <;> intros <;> split_ifs at * <;> omega

theorem Hears.transfer (hears : e.Hears isn stream closed) (e' : Endpoint) (delivered : e'.delivered = e.delivered)
    (receiver : e'.conn.receiver = e.conn.receiver ∨ e'.conn.receiver = e.conn.receiver.setError) :
    e'.Hears isn stream closed := by
  cases hears with
  | assembles a receiving => exact .assembles a (receiving.transfer e' delivered receiver)
  | drops deaf icn closing =>
      have after := deaf.transfer e' delivered receiver
      rcases receiver with same | same
      · exact .drops after (by rwa [same]) (by rwa [same])
      · exact .drops after (by rwa [same]) (by rwa [same])

theorem Hears.popOutput (hears : e.Hears isn stream closed) (len : Nat) :
    (e.step (.popOutput len)).Hears isn stream closed := by
  cases hears with
  | assembles a receiving => exact .assembles _ (receiving.popOutput len)
  | drops deaf icn closing => exact .drops (deaf.popOutput len) icn closing

theorem Hears.receive (hears : e.Hears isn stream closed) (short : stream.length < 2 ^ 31 - 2)
    {seg : TCPSegment} (carried : Carried isn stream seg) (last : seg.header.fin = true → closed = true)
    (kept : Kept stream e.conn.receiver seg) :
    (e.receive seg).Hears isn stream closed ∧
      e.conn.receiver.ackLimit ≤ (e.receive seg).conn.receiver.ackLimit := by
  cases hears with
  | assembles a receiving =>
      obtain ⟨a', after, limit⟩ := receiving.receive short carried last kept.1
      exact ⟨.assembles a' after, limit⟩
  | drops deaf icn closing =>
      refine ⟨.drops (deaf.receive seg) (segmentReceived_icn carried icn) fun fin => ?_, deaf.receive_ackLimit seg⟩
      rcases receive_haveFIN fin with before | ⟨differ, now⟩
      · exact closing before
      · refine ⟨last now, ?_⟩
        by_contra some
        exact kept.2 ⟨deaf.capacity, differ, now, some⟩

theorem Hears.extend {longer : Bytes} {closed' : Bool} (hears : e.Hears isn stream closed)
    (grown : stream <+: longer) (open_ : stream = longer ∨ closed = false)
    (later : closed = true → closed' = true) : e.Hears isn longer closed' := by
  cases hears with
  | assembles a receiving => exact .assembles a (receiving.extend grown open_ later)
  | drops deaf icn closing =>
      refine .drops deaf icn fun fin => ?_
      obtain ⟨shut, nothing⟩ := closing fin
      rcases open_ with rfl | open_
      · exact ⟨later shut, nothing⟩
      · rw [open_] at shut
        cases shut

end Hears

theorem popOutput_ackLimit (e : Endpoint) (len : Nat) :
    (e.step (.popOutput len)).conn.receiver.ackLimit = e.conn.receiver.ackLimit := by
  simp [Endpoint.step, TCPConnection.popInbound, TCPReceiver.popOutput, StreamReassembler.popOutput, ackLimit,
    streamOut, StreamReassembler.streamOut, ByteStream.bytesWritten, ByteStream.inputEnded]

theorem ackLimit_of_receiver {r r' : TCPReceiver} (receiver : r' = r ∨ r' = r.setError) :
    r'.ackLimit = r.ackLimit := by
  rcases receiver with rfl | rfl <;> rfl

section Step

variable {own isn : WrappingInt32} {stream : Bytes} {closed : Bool} {e : Endpoint}

theorem Truthful.evolve {acks : Nat → Prop} (truthful : e.Truthful isn) {conn : TCPConnection}
    {accepted : Bytes} (delivered : Bytes)
    (evolves : TCPConnection.Evolves acks e.accepted accepted e.conn conn)
    (icn : conn.receiver.haveSYN = true → conn.receiver.icn = isn)
    (limit : conn.receiver.ackLimit = e.conn.receiver.ackLimit)
    (ordered : conn.sender.finSent = true → conn.receiver.haveSYN = true) :
    Truthful isn { conn := conn, accepted := accepted, delivered := delivered, wire := e.wire } := by
  intro seg member acked
  obtain ⟨new, out, each⟩ := evolves.out
  rw [Endpoint.emitted, out, ← List.append_assoc, List.mem_append] at member
  rcases member with old | fresh
  · obtain ⟨k, bound, mark⟩ := truthful seg old acked
    exact ⟨k, by rw [limit]; exact bound, mark⟩
  · have output := each seg fresh
    cases opened : conn.receiver.haveSYN with
    | true =>
        refine ⟨_, le_rfl, ?_⟩
        rw [← icn opened]
        exact output.acked _ (by rw [ackno_eq, if_pos opened]) acked
    | false =>
        have fin := output.unacked (by rw [ackno_eq, opened]; rfl) acked
        have sent := ordered (evolves.sending.finSent output.emittable fin)
        rw [opened] at sent
        cases sent

structure Advances (own isn : WrappingInt32) (stream : Bytes) (closed : Bool) (got : TCPSegment → Prop)
    (e e' : Endpoint) : Prop where
  hears : e'.Hears isn stream closed
  limit : e.conn.receiver.ackLimit ≤ e'.conn.receiver.ackLimit
  truthful : e'.FinAfterSyn → e'.Truthful isn
  acked : e'.conn.sender.nextAckno = e.conn.sender.nextAckno ∨
    ∃ seg, got seg ∧ seg.header.ack = true ∧ seg.header.ackno = wrap e'.conn.sender.nextAckno own

variable {got : TCPSegment → Prop}

theorem advances_of_evolves {e' : Endpoint} (hears : e.Hears isn stream closed) (truthful : e.Truthful isn)
    (evolves : TCPConnection.Evolves (fun _ => False) e.accepted e'.accepted e.conn e'.conn)
    (delivered : e'.delivered = e.delivered) (wire : e'.wire = e.wire) :
    Advances own isn stream closed got e e' := by
  have after := hears.transfer e' delivered evolves.receiver
  have limit := ackLimit_of_receiver evolves.receiver
  refine ⟨after, le_of_eq limit.symm, fun ordered => ?_, Or.inl (evolves.nextAckno.resolve_right id)⟩
  have told := truthful.evolve e'.delivered evolves after.icn limit ordered
  rwa [← wire] at told

theorem advances_popOutput (hears : e.Hears isn stream closed) (truthful : e.Truthful isn) (len : Nat) :
    Advances own isn stream closed got e (e.step (.popOutput len)) := by
  have limit := popOutput_ackLimit e len
  refine ⟨hears.popOutput len, le_of_eq limit.symm, fun _ seg member acked => ?_, Or.inl rfl⟩
  obtain ⟨k, bound, mark⟩ := truthful seg member acked
  exact ⟨k, by rw [limit]; exact bound, mark⟩

theorem advances_deliver (sends : e.Sends own) (hears : e.Hears isn stream closed) (truthful : e.Truthful isn)
    (short : stream.length < 2 ^ 31 - 2) {seg : TCPSegment} (delivery : got seg) (carried : Carried isn stream seg)
    (last : seg.header.fin = true → closed = true) (kept : Kept stream e.conn.receiver seg) :
    Advances own isn stream closed got e (e.step (.deliver seg)) := by
  obtain ⟨received, later⟩ := hears.receive short carried last kept
  obtain ⟨sending, preserves, nextAckno, out⟩ := TCPConnection.accept_sender sends.sending seg
  have accepted := received.transfer { e with conn := e.conn.accept seg } rfl
    (TCPConnection.accept_receiver e.conn seg)
  have evolves := TCPConnection.segmentReceived_evolves sending
  have limit := ackLimit_of_receiver evolves.receiver
  have grown : e.conn.receiver.ackLimit ≤ (e.conn.accept seg).receiver.ackLimit :=
    le_of_le_of_eq later (ackLimit_of_receiver (TCPConnection.accept_receiver e.conn seg)).symm
  have before : Truthful isn { e with conn := e.conn.accept seg } := by
    intro other member acked
    rw [Endpoint.emitted, out] at member
    obtain ⟨k, bound, mark⟩ := truthful other member acked
    exact ⟨k, le_trans bound grown, mark⟩
  have after := accepted.transfer (e.step (.deliver seg)) rfl evolves.receiver
  refine ⟨after, le_of_le_of_eq grown limit.symm, before.evolve e.delivered evolves after.icn limit, ?_⟩
  rcases evolves.nextAckno with same | ⟨acked, mark⟩
  · exact Or.inl (same.trans nextAckno)
  · refine Or.inr ⟨seg, delivery, acked, ?_⟩
    rw [mark, preserves.isn, sends.origin]
    rfl

theorem Hears.step (sends : e.Sends own) (hears : e.Hears isn stream closed) (truthful : e.Truthful isn)
    (short : stream.length < 2 ^ 31 - 2) {event : Event} (mannerly : e.Mannerly event)
    (delivery : ∀ seg, event = .deliver seg → Carried isn stream seg ∧ (seg.header.fin = true → closed = true) ∧
      Kept stream e.conn.receiver seg) :
    Advances own isn stream closed (fun seg => event = .deliver seg) e (e.step event) := by
  have sending := sends.sending
  cases event with
  | connect => exact advances_of_evolves hears truthful (TCPConnection.connect_evolves sending) rfl rfl
  | write data =>
      exact advances_of_evolves hears truthful (TCPConnection.write_evolves sending mannerly.1 data) rfl rfl
  | endInputStream => exact advances_of_evolves hears truthful (TCPConnection.endInputStream_evolves sending) rfl rfl
  | read len =>
      rw [step_read]
      exact advances_popOutput hears truthful len
  | popOutput len => exact advances_popOutput hears truthful len
  | tick ms => exact advances_of_evolves hears truthful (TCPConnection.tick_evolves sending ms) rfl rfl
  | transmit =>
      refine ⟨hears.transfer e.transmit rfl (Or.inl rfl), le_rfl, fun _ => ?_, Or.inl rfl⟩
      rw [Endpoint.step, Truthful, transmit_emitted]
      exact truthful
  | deliver seg =>
      obtain ⟨carried, last, kept⟩ := delivery seg rfl
      exact advances_deliver sends hears truthful short rfl carried last kept

theorem Sends.step_stream (sends : e.Sends own) {event : Event} (mannerly : e.Mannerly event) :
    (e.accepted = (e.step event).accepted ∨ e.conn.sender.stream.isEnded = false) ∧
      (e.conn.sender.stream.isEnded = true → (e.step event).conn.sender.stream.isEnded = true) := by
  have idle {accepted : Bytes} {conn : TCPConnection}
      (evolves : TCPConnection.Evolves (fun _ => False) e.accepted accepted e.conn conn) :
      e.conn.sender.stream.isEnded = true → conn.sender.stream.isEnded = true := evolves.preserves.closed
  have sending := sends.sending
  cases event with
  | connect => exact ⟨Or.inl rfl, idle (TCPConnection.connect_evolves sending)⟩
  | write data => exact ⟨Or.inr mannerly.1, idle (TCPConnection.write_evolves sending mannerly.1 data)⟩
  | endInputStream => exact ⟨Or.inl rfl, idle (TCPConnection.endInputStream_evolves sending)⟩
  | read len => exact ⟨Or.inl rfl, id⟩
  | popOutput len => exact ⟨Or.inl rfl, id⟩
  | tick ms => exact ⟨Or.inl rfl, idle (TCPConnection.tick_evolves sending ms)⟩
  | transmit => exact ⟨Or.inl rfl, id⟩
  | deliver seg =>
      obtain ⟨accepting, preserves, _⟩ := TCPConnection.accept_sender sending seg
      have evolves := TCPConnection.segmentReceived_evolves accepting
      exact ⟨Or.inl rfl, (preserves.trans evolves.preserves).closed⟩

end Step

end Endpoint

end Sponge
