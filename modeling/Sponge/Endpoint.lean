import Sponge.ConnectionRuns
import Sponge.ConnectionSteps

set_option autoImplicit false

namespace Sponge

open Shared TCPSender TCPReceiver

-- An endpoint with its history: the bytes its writer got in, the bytes its reader took out, and the segments its
-- owner took off the queue. A channel may lose, repeat and reorder those, so it is the list of all of them.
structure Endpoint where
  conn : TCPConnection
  accepted : Bytes
  delivered : Bytes
  wire : List TCPSegment
  deriving DecidableEq

namespace Endpoint

def new (cfg : TCPConfig) (randomIsn : WrappingInt32) : Endpoint where
  conn := .new cfg randomIsn
  accepted := []
  delivered := []
  wire := []

def inbound (e : Endpoint) : Bytes := e.delivered ++ e.conn.inboundStream.buffer

def emitted (e : Endpoint) : List TCPSegment := e.wire ++ e.conn.segmentsOut

def transmit (e : Endpoint) : Endpoint :=
  { e with
    conn := { e.conn with segmentsOut := e.conn.segmentsOut.tail }
    wire := e.wire ++ e.conn.segmentsOut.head?.toList }

def step (e : Endpoint) : Event → Endpoint
  | .connect => { e with conn := e.conn.connect }
  | .write data =>
      { e with conn := (e.conn.write data).2, accepted := e.accepted ++ data.take (e.conn.write data).1 }
  | .endInputStream => { e with conn := e.conn.endInputStream }
  | .read len =>
      { e with conn := (e.conn.readInbound len).2, delivered := e.delivered ++ (e.conn.readInbound len).1 }
  | .popOutput len =>
      { e with conn := e.conn.popInbound len, delivered := e.delivered ++ e.conn.inboundStream.peekOutput len }
  | .tick ms => { e with conn := e.conn.tick ms }
  | .transmit => e.transmit
  | .deliver seg => { e with conn := e.conn.segmentReceived seg }

def receive (e : Endpoint) (seg : TCPSegment) : Endpoint :=
  { e with conn := { e.conn with receiver := e.conn.receiver.segmentReceived seg } }

theorem step_read (e : Endpoint) (len : Nat) : e.step (.read len) = e.step (.popOutput len) := by
  simp only [step, TCPConnection.readInbound, TCPConnection.popInbound, TCPConnection.inboundStream,
    ByteStream.read_snd, ByteStream.read_fst]
  rfl

theorem transmit_emitted (e : Endpoint) : e.transmit.emitted = e.emitted := by
  unfold transmit emitted
  cases e.conn.segmentsOut <;> simp

def Mannerly (e : Endpoint) : Event → Prop
  | .write data =>
      e.conn.sender.stream.inputEnded = false ∧ (e.step (.write data)).accepted.length < 2 ^ 31 - 2
  | _ => True

instance (e : Endpoint) : (event : Event) → Decidable (e.Mannerly event)
  | .write _ => inferInstanceAs (Decidable (_ ∧ _))
  | .connect | .endInputStream | .read _ | .popOutput _ | .tick _ | .transmit | .deliver _ =>
      inferInstanceAs (Decidable True)

structure Sends (isn : WrappingInt32) (e : Endpoint) : Prop where
  origin : e.conn.sender.isn = isn
  sending : e.conn.sender.Sending e.accepted
  emitted : ∀ seg ∈ e.emitted,
    Emittable e.conn.sender.isn e.accepted e.conn.sender.stream.isEnded e.conn.sender.nextSeqno seg
  short : e.accepted.length < 2 ^ 31 - 2

theorem sends_new (cfg : TCPConfig) (randomIsn : WrappingInt32) :
    (new cfg randomIsn).Sends (cfg.fixedIsn.getD randomIsn) where
  origin := rfl
  sending := .new ..
  emitted := by simp [new, Endpoint.emitted, TCPConnection.new]
  short := by simp [new]

section Sends

variable {isn : WrappingInt32} {e : Endpoint}

theorem Sends.carried (sends : e.Sends isn) {seg : TCPSegment} (member : seg ∈ e.emitted) :
    Carried isn e.accepted seg := by
  rw [← sends.origin]
  exact (sends.emitted seg member).carried

theorem Sends.evolve {acks : Nat → Prop} (sends : e.Sends isn) {conn : TCPConnection} {accepted : Bytes}
    (delivered : Bytes) (evolves : TCPConnection.Evolves acks e.accepted accepted e.conn conn)
    (short : accepted.length < 2 ^ 31 - 2) :
    Sends isn { conn := conn, accepted := accepted, delivered := delivered, wire := e.wire } where
  origin := evolves.preserves.isn.trans sends.origin
  sending := evolves.sending
  emitted := by
    intro seg member
    obtain ⟨new, out, each⟩ := evolves.out
    rw [Endpoint.emitted, out, ← List.append_assoc, List.mem_append] at member
    rcases member with old | fresh
    · exact evolves.preserves.emittable seg (sends.emitted seg old)
    · exact (each seg fresh).emittable
  short := short

theorem Sends.accept (sends : e.Sends isn) (seg : TCPSegment) : Sends isn { e with conn := e.conn.accept seg } := by
  obtain ⟨sending, preserves, _, out⟩ := TCPConnection.accept_sender sends.sending seg
  refine ⟨preserves.isn.trans sends.origin, sending, ?_, sends.short⟩
  intro other member
  rw [Endpoint.emitted, out] at member
  exact preserves.emittable other (sends.emitted other member)

theorem Sends.step (sends : e.Sends isn) {event : Event} (mannerly : e.Mannerly event) :
    (e.step event).Sends isn := by
  have idle {conn : TCPConnection}
      (evolves : TCPConnection.Evolves (fun _ => False) e.accepted e.accepted e.conn conn) :
      Sends isn { e with conn := conn } := sends.evolve e.delivered evolves sends.short
  cases event with
  | connect => exact idle (TCPConnection.connect_evolves sends.sending)
  | write data =>
      have evolves : TCPConnection.Evolves (fun _ => False) e.accepted (e.step (.write data)).accepted e.conn _ :=
        TCPConnection.write_evolves sends.sending mannerly.1 data
      exact sends.evolve e.delivered evolves mannerly.2
  | endInputStream => exact idle (TCPConnection.endInputStream_evolves sends.sending)
  | read len => exact ⟨sends.origin, sends.sending, sends.emitted, sends.short⟩
  | popOutput len => exact ⟨sends.origin, sends.sending, sends.emitted, sends.short⟩
  | tick ms => exact idle (TCPConnection.tick_evolves sends.sending ms)
  | transmit =>
      refine ⟨sends.origin, sends.sending, ?_, sends.short⟩
      rw [Endpoint.step, transmit_emitted]
      exact sends.emitted
  | deliver seg =>
      have accepted := sends.accept seg
      exact accepted.evolve e.delivered (TCPConnection.segmentReceived_evolves accepted.sending) sends.short

theorem step_accepted (e : Endpoint) (event : Event) : e.accepted <+: (e.step event).accepted := by
  cases event with
  | write data => exact List.prefix_append _ _
  | connect | endInputStream | read len | popOutput len | tick ms | transmit | deliver seg =>
      exact List.prefix_refl _

end Sends

end Endpoint

namespace TCPReceiver

section Inbound

variable {isn : WrappingInt32} {stream : Bytes} {r : TCPReceiver} {a : ByteReassembler}

theorem Follows.setError (follows : Follows isn stream r a) : Follows isn stream r.setError a where
  rel := { follows.rel with }
  positive := follows.positive
  copies := follows.copies
  icn := follows.icn
  silent := follows.silent

theorem Follows.segmentReceived (follows : Follows isn stream r a) (short : stream.length < 2 ^ 31 - 2)
    {seg : TCPSegment} (carried : Carried isn stream seg) :
    ∃ a', Follows isn stream (r.segmentReceived seg) a' ∧ a'.bytesRead = a.bytesRead ∧ a.out <+: a'.out := by
  by_cases same : seg.header.syn = r.haveSYN
  · exact ⟨a, by rwa [segmentReceived_ignored same], rfl, List.prefix_refl _⟩
  · have read : (r.received a seg).bytesRead = a.bytesRead := ByteReassembler.push_bytesRead ..
    have grown : a.out <+: (r.received a seg).out := ByteReassembler.out_prefix_push ..
    refine ⟨_, follows.segment short carried same, ?_⟩
    split
    · exact ⟨read, grown⟩
    · exact ⟨read, grown⟩

theorem Follows.peek (follows : Follows isn stream r a) (len : Nat) :
    a.out.take a.bytesRead ++ r.streamOut.peekOutput len = (a.pop len).out.take (a.pop len).bytesRead := by
  have buffer : r.streamOut.buffer = a.out.drop a.bytesRead := follows.rel.buffer
  have size : r.streamOut.bufferSize = a.out.length - a.bytesRead := by
    rw [ByteStream.bufferSize, buffer, List.length_drop]
  unfold ByteStream.peekOutput ByteReassembler.pop
  rw [size]
  split
  · exact List.append_nil _
  · rw [buffer, ← List.take_add]

end Inbound

end TCPReceiver

namespace Endpoint

structure Deaf (e : Endpoint) : Prop where
  capacity : e.conn.receiver.streamOut.capacity = 0
  written : e.conn.receiver.streamOut.bytesWritten = 0
  delivered : e.delivered = []

section Deaf

variable {e : Endpoint}

theorem deaf_new {cfg : TCPConfig} (none : cfg.recvCapacity = 0) (randomIsn : WrappingInt32) :
    (new cfg randomIsn).Deaf :=
  ⟨none, rfl, rfl⟩

theorem Deaf.inbound (deaf : e.Deaf) : e.inbound = [] := by
  have buffer : e.conn.inboundStream.buffer = [] := e.conn.inboundStream.buffer_of_capacity_zero deaf.capacity
  rw [Endpoint.inbound, deaf.delivered, buffer, List.nil_append]

theorem Deaf.transfer (deaf : e.Deaf) (e' : Endpoint) (delivered : e'.delivered = e.delivered)
    (receiver : e'.conn.receiver = e.conn.receiver ∨ e'.conn.receiver = e.conn.receiver.setError) : e'.Deaf := by
  rcases receiver with same | same
  · exact ⟨by rw [same, deaf.capacity], by rw [same, deaf.written], delivered.trans deaf.delivered⟩
  · exact ⟨by rw [same]; exact deaf.capacity, by rw [same]; exact deaf.written, delivered.trans deaf.delivered⟩

theorem Deaf.popOutput (deaf : e.Deaf) (len : Nat) : (e.step (.popOutput len)).Deaf where
  capacity := (ByteStream.popOutput_capacity ..).trans deaf.capacity
  written := (ByteStream.popOutput_writtenLength ..).trans deaf.written
  delivered := by
    have buffer : e.conn.inboundStream.buffer = [] := e.conn.inboundStream.buffer_of_capacity_zero deaf.capacity
    simp [Endpoint.step, deaf.delivered, ByteStream.peekOutput, buffer]

theorem Deaf.receive (deaf : e.Deaf) (seg : TCPSegment) : (e.receive seg).Deaf := by
  have fed := e.conn.receiver.segmentReceived_fed seg
  exact ⟨fed.capacity.trans deaf.capacity, (fed.writtenLength deaf.capacity).trans deaf.written, deaf.delivered⟩

end Deaf

inductive Receives (isn : WrappingInt32) (stream : Bytes) (e : Endpoint) : Prop
  | follows (a : ByteReassembler) (follows : Follows isn stream e.conn.receiver a)
      (delivered : e.delivered = a.out.take a.bytesRead)
  | nothing (deaf : e.Deaf)

theorem receives_new (isn : WrappingInt32) (stream : Bytes) (cfg : TCPConfig) (randomIsn : WrappingInt32) :
    (new cfg randomIsn).Receives isn stream := by
  rcases Nat.eq_zero_or_pos cfg.recvCapacity with none | positive
  · exact .nothing (deaf_new none randomIsn)
  · exact .follows _ (follows_new isn stream positive) rfl

section Receives

variable {isn : WrappingInt32} {stream : Bytes} {e : Endpoint}

theorem Receives.inbound_prefix_stream (receives : e.Receives isn stream) : e.inbound <+: stream := by
  cases receives with
  | follows a follows delivered =>
      have buffer : e.conn.inboundStream.buffer = a.out.drop a.bytesRead := follows.rel.buffer
      rw [inbound, delivered, buffer, List.take_append_drop]
      exact follows.copies.out
  | nothing deaf =>
      rw [deaf.inbound]
      exact List.nil_prefix

theorem Receives.extend {longer : Bytes} (receives : e.Receives isn stream) (grown : stream <+: longer) :
    e.Receives isn longer := by
  cases receives with
  | follows a follows delivered => exact .follows a (follows.extend grown) delivered
  | nothing deaf => exact .nothing deaf

theorem Receives.transfer {e' : Endpoint} (receives : e.Receives isn stream) (delivered : e'.delivered = e.delivered)
    (receiver : e'.conn.receiver = e.conn.receiver ∨ e'.conn.receiver = e.conn.receiver.setError) :
    e'.Receives isn stream := by
  cases receives with
  | follows a follows read =>
      refine .follows a ?_ (delivered.trans read)
      rcases receiver with same | same <;> rw [same]
      · exact follows
      · exact follows.setError
  | nothing deaf => exact .nothing (deaf.transfer e' delivered receiver)

theorem Receives.popOutput (receives : e.Receives isn stream) (len : Nat) :
    (e.step (.popOutput len)).Receives isn stream := by
  cases receives with
  | follows a follows delivered =>
      refine .follows _ (follows.pop len) ?_
      rw [← follows.peek len, ← delivered]
      rfl
  | nothing deaf => exact .nothing (deaf.popOutput len)

theorem Receives.receive (receives : e.Receives isn stream) (short : stream.length < 2 ^ 31 - 2)
    {seg : TCPSegment} (carried : Carried isn stream seg) : (e.receive seg).Receives isn stream := by
  cases receives with
  | follows a follows delivered =>
      obtain ⟨a', follows', read, ⟨more, grown⟩⟩ := follows.segmentReceived short carried
      refine .follows a' follows' (delivered.trans ?_)
      rw [read, ← grown, List.take_append_of_le_length follows.rel.read]
  | nothing deaf => exact .nothing (deaf.receive seg)

theorem Receives.step {own : WrappingInt32} (receives : e.Receives isn stream) (sends : e.Sends own)
    (short : stream.length < 2 ^ 31 - 2) {event : Event} (mannerly : e.Mannerly event)
    (carried : ∀ seg, event = .deliver seg → Carried isn stream seg) : (e.step event).Receives isn stream := by
  have idle {accepted : Bytes} {conn : TCPConnection}
      (evolves : TCPConnection.Evolves (fun _ => False) e.accepted accepted e.conn conn) :
      Receives isn stream { e with conn := conn, accepted := accepted } :=
    receives.transfer rfl evolves.receiver
  cases event with
  | connect => exact idle (TCPConnection.connect_evolves sends.sending)
  | write data => exact idle (TCPConnection.write_evolves sends.sending mannerly.1 data)
  | endInputStream => exact idle (TCPConnection.endInputStream_evolves sends.sending)
  | read len =>
      rw [step_read]
      exact receives.popOutput len
  | popOutput len => exact receives.popOutput len
  | tick ms => exact idle (TCPConnection.tick_evolves sends.sending ms)
  | transmit => exact receives.transfer rfl (Or.inl rfl)
  | deliver seg =>
      have received := receives.receive short (carried seg rfl)
      have accepted : Receives isn stream { e with conn := e.conn.accept seg } :=
        received.transfer rfl (TCPConnection.accept_receiver e.conn seg)
      have evolves := TCPConnection.segmentReceived_evolves (sends.accept seg).sending
      exact accepted.transfer rfl evolves.receiver

end Receives

end Endpoint

end Sponge
