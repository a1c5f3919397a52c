import Sponge.AdapterBinding
import Sponge.ConnectionCalls
import Sponge.DatagramPassage
import Sponge.Network

set_option autoImplicit false

namespace Sponge

open Shared

structure SegmentLaw (ok : TCPSegment → Prop) : Prop where
  syn : ∀ s : TCPSender, ok s.synSegment
  next : ∀ s : TCPSender, ok s.nextSegment
  empty : ∀ seqno ackno, ok { header := { seqno, ackno } }
  rst : ok TCPConnection.rstSegment
  stamp : ∀ r seg, ok seg → ok (TCPConnection.stamp r seg)

namespace SegmentLaw

variable {ok : TCPSegment → Prop}

structure Sender (ok : TCPSegment → Prop) (s : TCPSender) : Prop where
  queue : ∀ seg ∈ s.segmentsOut, ok seg
  tracked : ∀ seg ∈ s.trackingSegments, ok seg

theorem Sender.emit {s : TCPSender} (sender : Sender ok s) {seg : TCPSegment} (made : ok seg) :
    Sender ok (s.emit seg) where
  queue := by simpa [TCPSender.emit, or_imp, forall_and, made] using sender.queue
  tracked := by simpa [TCPSender.emit, made] using sender.tracked

theorem Sender.fillWindow {s : TCPSender} (law : SegmentLaw ok) (sender : Sender ok s) : Sender ok s.fillWindow := by
  apply s.fillWindow_invariant (Sender ok) sender
  · have emitted := sender.emit (law.syn s)
    exact ⟨emitted.queue, emitted.tracked⟩
  · intro t before
    have same : Sender ok { t with stream := t.readPayload.2 } := ⟨before.queue, before.tracked⟩
    have emitted := same.emit (law.next t)
    exact ⟨emitted.queue, emitted.tracked⟩

theorem Sender.ackReceived {s : TCPSender} (sender : Sender ok s) (ackno : WrappingInt32) (windowSize : UInt16) :
    Sender ok (s.ackReceived ackno windowSize) where
  queue := by
    rw [(TCPSender.ackReceived_frame ..).2.2.1]
    exact sender.queue
  tracked := by
    rw [TCPSender.ackReceived_trackingSegments]
    exact fun seg member => sender.tracked seg ((List.takeWhile_prefix _).subset member)

theorem Sender.tick {s : TCPSender} (sender : Sender ok s) (ms : Nat) : Sender ok (s.tick ms) where
  queue := by
    rcases s.tick_segmentsOut ms with same | ⟨_, sent⟩
    · rw [same]
      exact sender.queue
    · rw [sent]
      intro seg member
      rcases List.mem_append.mp member with old | oldest
      · exact sender.queue seg old
      · exact sender.tracked seg (List.mem_of_getLast? (Option.mem_toList.mp oldest))
  tracked := by
    rw [TCPSender.tick_frame]
    exact sender.tracked

structure Conn (ok : TCPSegment → Prop) (c : TCPConnection) : Prop where
  sender : Sender ok c.sender
  queue : ∀ seg ∈ c.segmentsOut, ok seg

section Conn

variable {c : TCPConnection}

theorem Conn.noted {c' : TCPConnection} (conn : Conn ok c) (noted : TCPConnection.Noted c c') : Conn ok c' := by
  rw [noted.frame]
  exact ⟨conn.sender, conn.queue⟩

variable (law : SegmentLaw ok)
include law

theorem Conn.move {s : TCPSender} (conn : Conn ok c) (sender : Sender ok s) :
    Conn ok { c with sender := s }.moveToSegmentsOut where
  sender := ⟨fun _ member => absurd member List.not_mem_nil, sender.tracked⟩
  queue := by
    intro seg member
    rcases List.mem_append.mp member with old | fresh
    · exact conn.queue seg old
    · obtain ⟨original, queued, rfl⟩ := List.mem_map.mp fresh
      exact law.stamp _ _ (sender.queue original queued)

theorem Conn.segmentReceived (conn : Conn ok c) (seg : TCPSegment) : Conn ok (c.segmentReceived seg) := by
  have accepted : Conn ok (c.accept seg) := by
    obtain ⟨queue, sender⟩ := c.accept_eq seg
    refine ⟨?_, by rw [queue]; exact conn.queue⟩
    rw [sender]
    split
    · exact ⟨conn.sender.queue, conn.sender.tracked⟩
    · exact conn.sender
  have noted : Conn ok ((c.accept seg).acknowledge seg) := by
    simp only [TCPConnection.acknowledge]
    split
    · exact accepted.move law ((accepted.sender.ackReceived _ _).fillWindow law)
    · exact accepted
  have closes {c : TCPConnection} (conn : Conn ok c) : Conn ok c.closeIfDone := by
    simp only [TCPConnection.closeIfDone]
    split_ifs <;> exact ⟨conn.sender, conn.queue⟩
  have answers {c : TCPConnection} (conn : Conn ok c) : Conn ok c.answer := by
    simp only [TCPConnection.answer]
    split
    · refine conn.move law ⟨fun seg member => ?_, conn.sender.tracked⟩
      rcases List.mem_append.mp member with old | fresh
      · exact conn.sender.queue seg old
      · rw [List.mem_singleton.mp fresh]
        exact law.empty _ _
    · exact conn.move law conn.sender
  simp only [TCPConnection.segmentReceived]
  split_ifs
  · exact noted.move law (noted.sender.fillWindow law)
  · exact closes (answers noted)
  · exact closes noted

theorem Conn.tick (conn : Conn ok c) (ms : Nat) : Conn ok (c.tick ms) := by
  have passed : Conn ok (c.passTime ms) := by
    refine ⟨by rw [TCPConnection.passTime_sender]; exact conn.sender.tick ms, ?_⟩
    rw [TCPConnection.passTime_frame]
    exact conn.queue
  simp only [TCPConnection.tick]
  split
  · refine ⟨⟨passed.sender.queue, passed.sender.tracked⟩, fun seg member => ?_⟩
    rcases List.mem_append.mp member with old | fresh
    · exact passed.queue seg old
    · rw [List.mem_singleton.mp fresh]
      exact law.rst
  · exact passed.move law passed.sender

theorem Conn.step (conn : Conn ok c) (event : Event) : Conn ok (c.step event) := by
  have moved {stream : ByteStream} : Conn ok { c with
      sender := { c.sender with stream }.fillWindow }.moveToSegmentsOut :=
    conn.move law (Sender.fillWindow law ⟨conn.sender.queue, conn.sender.tracked⟩)
  cases event with
  | connect => exact moved
  | write data => exact moved
  | endInputStream => exact moved
  | read len | popOutput len => exact ⟨conn.sender, conn.queue⟩
  | tick ms => exact conn.tick law ms
  | transmit => exact ⟨conn.sender, fun seg member => conn.queue seg (List.mem_of_mem_tail member)⟩
  | deliver seg => exact conn.segmentReceived law seg

theorem Conn.next (conn : Conn ok c) (event : Event) : Conn ok (c.next event) := by
  rcases c.call_cases event with noted | returned
  · exact conn.noted noted
  · rw [TCPConnection.next, returned]
    exact conn.step law event

end Conn

structure Holds (ok : TCPSegment → Prop) (e : Endpoint) : Prop where
  conn : Conn ok e.conn
  wire : ∀ seg ∈ e.wire, ok seg

theorem holds_new (ok : TCPSegment → Prop) (cfg : TCPConfig) (randomIsn : WrappingInt32) :
    Holds ok (.new cfg randomIsn) := by
  refine ⟨⟨⟨?_, ?_⟩, ?_⟩, ?_⟩
  all_goals simp [Endpoint.new, TCPConnection.new, TCPSender.new]

theorem Holds.step (law : SegmentLaw ok) {e : Endpoint} (holds : Holds ok e) (event : Event) :
    Holds ok (e.step event) := by
  have conn : (e.step event).conn = e.conn.step event := by cases event <;> rfl
  refine ⟨by rw [conn]; exact holds.conn.step law event, ?_⟩
  cases event with
  | transmit =>
      intro seg member
      rcases List.mem_append.mp member with old | fresh
      · exact holds.wire seg old
      · exact holds.conn.queue seg (List.mem_of_mem_head? (Option.mem_toList.mp fresh))
  | connect | write data | endInputStream | read len | popOutput len | tick ms | deliver seg => exact holds.wire

end SegmentLaw

structure Compact (seg : TCPSegment) : Prop where
  doff : seg.header.doff = 5
  payload : seg.payload.length ≤ TCPConfig.maxPayloadSize

theorem compact_law : SegmentLaw Compact where
  syn _ := ⟨rfl, Nat.zero_le _⟩
  next s := by
    refine ⟨rfl, ?_⟩
    rw [s.nextSegment_payload, List.length_take]
    exact (Nat.min_le_left ..).trans s.readSize_le.2.2
  empty _ _ := ⟨rfl, Nat.zero_le _⟩
  rst := ⟨rfl, Nat.zero_le _⟩
  stamp r seg compact := by
    simp only [TCPConnection.stamp]
    split <;> exact ⟨compact.doff, compact.payload⟩

theorem Compact.bounds {seg : TCPSegment} (compact : Compact seg) :
    5 ≤ seg.header.doff.toNat ∧ seg.header.doff.toNat ≤ 15 ∧
      20 + 4 * seg.header.doff.toNat + seg.payload.length ≤ 65535 := by
  have doff : seg.header.doff.toNat = 5 := by rw [compact.doff]; rfl
  have payload : seg.payload.length ≤ 1000 := compact.payload
  omega

namespace TCPOverIPv4Adapter

structure Bears (adapter : TCPOverIPv4Adapter) (seg : TCPSegment) (dgram : IPv4Datagram) : Prop where
  header : dgram.header = { adapter.ipHeader seg with ttl := dgram.header.ttl, cksum := dgram.header.cksum }
  payload : dgram.payload.concatenate = (adapter.wrapped seg).payload.concatenate

def sealedSegment (self : TCPOverIPv4Adapter) (seg : TCPSegment) : TCPSegment where
  header := { (self.setPorts seg).header with
    cksum := (self.setPorts seg).computedCksum (self.ipHeader seg).pseudoCksum }
  payload := seg.payload

-- A connection does not look at what the adapter fills in.
theorem segmentReceived_sealed (self : TCPOverIPv4Adapter) (c : TCPConnection) (seg : TCPSegment) :
    c.segmentReceived (self.sealedSegment seg) = c.segmentReceived seg := rfl

section Bears

variable {self : TCPOverIPv4Adapter} {seg : TCPSegment} {dgram : IPv4Datagram}

theorem bears_wrapped (self : TCPOverIPv4Adapter) (seg : TCPSegment) : self.Bears seg (self.wrapped seg) := ⟨rfl, rfl⟩

theorem Bears.forwarded (bears : self.Bears seg dgram) : self.Bears seg (Router.forwarded dgram) where
  header := congrArg (fun header : IPv4Header => { header with ttl := dgram.header.ttl - 1 }) bears.header
  payload := bears.payload

theorem Bears.addresses (bears : self.Bears seg dgram) :
    dgram.header.src = self.config.source.ip ∧ dgram.header.dst = self.config.destination.ip ∧
      dgram.header.proto = IPv4Header.protoTcp ∧ dgram.header.pseudoCksum = (self.ipHeader seg).pseudoCksum :=
  ⟨congrArg IPv4Header.src bears.header, congrArg IPv4Header.dst bears.header,
    congrArg IPv4Header.proto bears.header, by rw [bears.header]; rfl⟩

theorem Bears.resent (bears : self.Bears seg dgram) {payload : BufferList} (written : dgram.serialize = .ok payload)
    {before arrived : IPv4Datagram} (parsed : before.parse payload.concatenate = (.noError, arrived)) :
    self.Bears seg arrived := by
  have fits : dgram.FieldsFit := by
    constructor <;> rw [bears.header]
    · exact show (5 : UInt8).toNat ≤ 15 by decide
    · exact show (0 : UInt16).toNat < 2 ^ 13 by decide
  rw [IPv4Datagram.resent_eq fits written parsed]
  refine ⟨?_, (BufferList.concatenate_ofBuffer _).trans bears.payload⟩
  exact congrArg (fun header : IPv4Header => { header with cksum := dgram.header.computedCksum }) bears.header

theorem Bears.carried (bears : self.Bears seg dgram) (compact : Compact seg)
    (contiguous : dgram.payload.Contiguous) : TCPOverIPv4Adapter.carried dgram = some (self.sealedSegment seg) := by
  obtain ⟨long, short, size⟩ := compact.bounds
  obtain ⟨-, -, proto, pseudo⟩ := bears.addresses
  have same : (self.arrived seg).header.pseudoCksum = (self.ipHeader seg).pseudoCksum :=
    IPv4Header.pseudoCksum_with_cksum _ _
  rw [TCPOverIPv4Adapter.carried, if_pos proto, BufferList.toBuffer_of_contiguous contiguous]
  dsimp only
  rw [bears.payload, pseudo, ← same, self.parse_arrived long size short]
  rfl

end Bears

structure Content (dgram : IPv4Datagram) (seg : TCPSegment) : Prop where
  proto : dgram.header.proto = IPv4Header.protoTcp
  parsed : ({} : TCPSegment).parse dgram.payload.concatenate dgram.header.pseudoCksum = (.noError, seg)

theorem content_of_carried {dgram : IPv4Datagram} {seg : TCPSegment} (contiguous : dgram.payload.Contiguous)
    (found : carried dgram = some seg) : Content dgram seg := by
  rw [carried, BufferList.toBuffer_of_contiguous contiguous] at found
  split at found
  next proto =>
    dsimp only at found
    split at found
    next parsed => cases found; exact ⟨proto, parsed⟩
    next => cases found
  next => cases found

structure Claims (adapter : TCPOverIPv4Adapter) (dgram : IPv4Datagram) (seg : TCPSegment) : Prop where
  dport : seg.header.dport = adapter.config.source.port
  connected : adapter.listening = false → dgram.header.dst = adapter.config.source.ip ∧
    dgram.header.src = adapter.config.destination.ip ∧ seg.header.sport = adapter.config.destination.port

instance (adapter : TCPOverIPv4Adapter) (dgram : IPv4Datagram) (seg : TCPSegment) :
    Decidable (adapter.Claims dgram seg) :=
  decidable_of_iff (seg.header.dport = adapter.config.source.port ∧
      (adapter.listening = false → dgram.header.dst = adapter.config.source.ip ∧
        dgram.header.src = adapter.config.destination.ip ∧ seg.header.sport = adapter.config.destination.port))
    ⟨fun both => ⟨both.1, both.2⟩, fun claims => ⟨claims.dport, claims.connected⟩⟩

end TCPOverIPv4Adapter

end Sponge
