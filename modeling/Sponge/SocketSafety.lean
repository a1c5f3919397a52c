import Sponge.SegmentCarriage
import Sponge.SocketRelay
import Sponge.TunTapAdapter
import Sponge.UDPAdapter

set_option autoImplicit false

namespace Sponge

open Shared EventLoop FileDescriptor

structure Steady (α : Type) {π : Type} [DatagramAdapter α π] (inOrder : α → Prop) (offered : Option π → Prop) :
    Prop where
  read : ∀ adapter packet, inOrder adapter → offered packet →
    inOrder (DatagramAdapter.read adapter packet).1 ∧ (DatagramAdapter.read adapter packet).2.isOk = true ∧
      (DatagramAdapter.fd (DatagramAdapter.read adapter packet).1).readCount =
        (DatagramAdapter.fd adapter).readCount + 1
  write : ∀ adapter seg, inOrder adapter → Compact seg →
    inOrder (DatagramAdapter.write adapter seg).1 ∧ (DatagramAdapter.write adapter seg).2 = .ok ()
  tick : ∀ adapter ms, inOrder adapter →
    inOrder (DatagramAdapter.tick adapter ms).1 ∧ (DatagramAdapter.tick adapter ms).2 = .ok ()

section Steady

variable {α π : Type} [DatagramAdapter α π] {inOrder : α → Prop} {offered : Option π → Prop}

structure Host.InOrder (inOrder : α → Prop) (capacity : Nat) (h : Host α) : Prop where
  adapter : inOrder h.datagramAdapter
  compact : SegmentLaw.Holds Compact h.tcp
  ordered : h.tcp.conn.receiver.Ordered
  capacity : h.tcp.conn.receiver.reassembler.capacity = capacity

variable {capacity : Nat} (steady : Steady α inOrder offered)
include steady

theorem Steady.step {h : Host α} (before : h.InOrder inOrder capacity) {event : HostEvent π}
    (legal : h.Legal offered event) : (h.step event).InOrder inOrder capacity := by
  have ordered := h.step_receiver TCPConnection.ordered_kept before.ordered event
  have capacity := h.step_receiver (TCPConnection.capacity_kept capacity) before.capacity event
  cases event with
  | receive packet =>
      obtain ⟨adapter, came⟩ := h.receive_cases packet
      refine ⟨adapter ▸ (steady.read _ packet before.adapter legal).1, ?_, ordered, capacity⟩
      rcases came with same | ⟨seg, -, after⟩
      · exact same ▸ before.compact
      · exact after ▸ ⟨before.compact.conn.next compact_law (.deliver seg), before.compact.wire⟩
  | write data => exact ⟨before.adapter, before.compact.step compact_law (.write data), ordered, capacity⟩
  | endInputStream => exact ⟨before.adapter, before.compact.step compact_law .endInputStream, ordered, capacity⟩
  | popOutput len => exact ⟨before.adapter, before.compact.step compact_law (.popOutput len), ordered, capacity⟩
  | transmit =>
      rcases h.transmit_cases with same | ⟨front, rest, queue, adapter, came⟩
      · have still : h.step .transmit = h := same
        rw [still]
        exact before
      · have compact : Compact front := before.compact.conn.queue front (queue ▸ List.mem_cons_self)
        refine ⟨adapter ▸ (steady.write _ front before.adapter compact).1, ?_, ordered, capacity⟩
        rcases came with same | after
        · exact same ▸ before.compact
        · exact after ▸ before.compact.step compact_law .transmit
  | tick ms =>
      exact ⟨(steady.tick _ ms before.adapter).1, before.compact.step compact_law (.tick ms), ordered, capacity⟩

theorem Steady.dependable {h : Host α} (before : h.InOrder inOrder capacity) : h.Dependable offered where
  reads := by
    intro addressable packet legal
    have ok := (steady.read _ packet before.adapter legal).2.1
    obtain ⟨a, rel⟩ := before.ordered addressable
    unfold Host.receive
    split
    next read => rw [read] at ok; cases ok
    next => rfl
    next seg _ =>
      have returned := TCPReceiver.segmentReceivedExcept_returns rel seg
      simp only [TCPConnection.segmentReceivedExcept, returned]
  counts := by
    intro packet legal
    rw [(h.receive_cases packet).1, (steady.read _ packet before.adapter legal).2.2]
    exact (count_ne_succ _).1
  writes := by
    unfold Host.transmit
    split
    next => rfl
    next front rest queue =>
      have compact : Compact front := before.compact.conn.queue front (queue ▸ List.mem_cons_self)
      have ok := (steady.write _ front before.adapter compact).2
      split
      next written => rw [written] at ok; cases ok
      next => rfl
  ticks := fun ms => (steady.tick _ ms before.adapter).2

end Steady

section Adapters

def FromDevice (packet : Option Bytes) : Prop := ∃ bytes, packet = some bytes ∧ bytes.length ≤ 1024 * 1024

def FromSocket (answer : Option ReceivedDatagram) : Prop :=
  ∃ datagram, answer = some datagram ∧ datagram.payload.length ≤ 65536

theorem PacketDevice.read_whole (self : PacketDevice) {bytes : Bytes} (small : bytes.length ≤ 1024 * 1024) :
    (self.read (some bytes)).2 = .ok bytes ∧ (self.read (some bytes)).1.fd.readCount = self.fd.readCount + 1 := by
  have asked : ¬min (1024 * 1024) (2 ^ 64 - 1) < bytes.length := Nat.not_lt.mpr small
  unfold PacketDevice.read FileDescriptor.read
  dsimp only
  rw [if_neg asked]
  refine ⟨rfl, ?_⟩
  split <;> rfl

theorem wrapped_serializable (self : TCPOverIPv4Adapter) {seg : TCPSegment} (compact : Compact seg) :
    (self.wrapped seg).Serializable := by
  obtain ⟨long, -, size⟩ := compact.bounds
  have formed := self.wrapped_formed long size
  exact ⟨_, IPv4Datagram.serialize_eq formed.version formed.long formed.size⟩

theorem TCPOverIPv4Adapter.unwrap_ok (self : TCPOverIPv4Adapter) {dgram : IPv4Datagram}
    (contiguous : dgram.payload.Contiguous) : (self.unwrapTcpInIp dgram).2.isOk = true := by
  cases listens : self.listening with
  | true =>
      rw [unwrap_listening listens contiguous]
      split <;> rfl
  | false =>
      rw [unwrap_connected listens contiguous]
      rfl

theorem tun_steady : Steady TCPOverIPv4OverTunFdAdapter (fun _ => True) FromDevice where
  read := by
    rintro adapter _ - ⟨bytes, rfl, small⟩
    obtain ⟨took, count⟩ := adapter.tun.read_whole small
    change True ∧ (adapter.read (some bytes)).2.isOk = true ∧ (adapter.read (some bytes)).1.tun.fd.readCount = _
    unfold TCPOverIPv4OverTunFdAdapter.read
    generalize adapter.tun.read (some bytes) = called at took count ⊢
    obtain ⟨tun, result⟩ := called
    obtain rfl : result = .ok bytes := took
    dsimp only
    split
    next => exact ⟨trivial, rfl, count⟩
    next accepted =>
      have contiguous : (({} : IPv4Datagram).parse bytes).2.payload.Contiguous :=
        IPv4Datagram.contiguous_of_parse (Prod.ext (not_not.mp accepted) rfl)
      exact ⟨trivial, adapter.unwrap_ok contiguous, count⟩
  write := by
    intro adapter seg _ compact
    obtain ⟨long, -, size⟩ := compact.bounds
    obtain ⟨payload, written⟩ := wrapped_serializable adapter.toTCPOverIPv4Adapter compact
    refine ⟨trivial, ?_⟩
    change (adapter.write seg).2 = _
    unfold TCPOverIPv4OverTunFdAdapter.write
    rw [adapter.wrapTcpInIp_eq long]
    dsimp only
    rw [written]
    exact (adapter.tun.write_eq payload).2.1
  tick := fun _ _ _ => ⟨trivial, rfl⟩

theorem ethernet_steady :
    Steady TCPOverIPv4OverEthernetAdapter (fun adapter => adapter.interface.Sendable) FromDevice where
  read := by
    rintro adapter _ sendable ⟨bytes, rfl, small⟩
    obtain ⟨took, count⟩ := adapter.tap.read_whole small
    change (adapter.read (some bytes)).1.interface.Sendable ∧ (adapter.read (some bytes)).2.isOk = true ∧
      (adapter.read (some bytes)).1.tap.fd.readCount = _
    unfold TCPOverIPv4OverEthernetAdapter.read
    generalize adapter.tap.read (some bytes) = called at took count ⊢
    obtain ⟨tap, result⟩ := called
    obtain rfl : result = .ok bytes := took
    dsimp only
    split
    next => exact ⟨sendable, rfl, count⟩
    next =>
      have contiguous : (({} : EthernetFrame).parse bytes).2.payload.Contiguous := Nat.le_refl 1
      obtain ⟨returned, ok, parsed⟩ := NetworkInterface.recvFrame_ok sendable contiguous
      have still : (adapter.interface.recvFrame (({} : EthernetFrame).parse bytes).2).1.Sendable :=
        (NetworkInterface.recv_simulates sendable _).sendable
      generalize adapter.interface.recvFrame (({} : EthernetFrame).parse bytes).2 = outcome at ok still ⊢
      obtain ⟨interface, thrown⟩ := outcome
      obtain rfl : thrown = .ok returned := ok
      obtain ⟨fd, same, sent⟩ := TCPOverIPv4OverEthernetAdapter.sendPending_eq { adapter with tap, interface }
      dsimp only
      rw [sent]
      cases returned with
      | none => exact ⟨still, rfl, same.trans count⟩
      | some dgram =>
          have whole := IPv4Datagram.contiguous_of_parse (parsed dgram rfl).2.2
          exact ⟨still, adapter.unwrap_ok whole, same.trans count⟩
  write := by
    intro adapter seg sendable compact
    have serializable := wrapped_serializable adapter.toTCPOverIPv4Adapter compact
    have ok := adapter.interface.sendDatagram_ok serializable adapter.nextHop
    have still : (adapter.interface.sendDatagram (adapter.wrapped seg) adapter.nextHop).1.Sendable :=
      (NetworkInterface.send_simulates sendable serializable adapter.nextHop).sendable
    change (adapter.write seg).1.interface.Sendable ∧ (adapter.write seg).2 = _
    unfold TCPOverIPv4OverEthernetAdapter.write
    rw [adapter.wrapTcpInIp_eq compact.bounds.1]
    dsimp only
    generalize adapter.interface.sendDatagram (adapter.wrapped seg) adapter.nextHop = called at ok still ⊢
    obtain ⟨interface, result⟩ := called
    obtain rfl : result = .ok () := ok
    obtain ⟨fd, -, sent⟩ := TCPOverIPv4OverEthernetAdapter.sendPending_eq { adapter with interface }
    dsimp only
    rw [sent]
    exact ⟨still, rfl⟩
  tick := by
    intro adapter ms sendable
    obtain ⟨fd, -, sent⟩ := TCPOverIPv4OverEthernetAdapter.sendPending_eq
      { adapter with interface := adapter.interface.tick ms }
    change (adapter.tick ms).1.interface.Sendable ∧ (adapter.tick ms).2 = _
    rw [TCPOverIPv4OverEthernetAdapter.tick, sent]
    exact ⟨sendable, rfl⟩

theorem udp_steady : Steady TCPOverUDPSocketAdapter (fun _ => True) FromSocket where
  read := by
    rintro adapter _ - ⟨datagram, rfl, small⟩
    change True ∧ (adapter.read (some datagram)).2.isOk = true ∧
      (adapter.read (some datagram)).1.sock.fd.readCount = adapter.sock.fd.readCount + 1
    have kept (self : TCPOverUDPSocketAdapter) : (self.unwrap datagram).1.sock = self.sock := by
      unfold TCPOverUDPSocketAdapter.unwrap
      dsimp only
      split_ifs <;> rfl
    unfold TCPOverUDPSocketAdapter.read UDPSocket.recv
    dsimp only
    rw [if_neg (Nat.not_lt.mpr small)]
    dsimp only
    rw [kept]
    exact ⟨trivial, rfl, rfl⟩
  write := by
    intro adapter seg _ compact
    have written : (adapter.setPorts seg).serialize 0 = .ok _ := TCPSegment.serialize_eq compact.bounds.1
    change True ∧ (adapter.write seg).2 = _
    unfold TCPOverUDPSocketAdapter.write
    rw [written]
    exact ⟨trivial, rfl⟩
  tick := fun _ _ _ => ⟨trivial, rfl⟩

theorem LossyFdAdapter.shouldDrop_adapter {α : Type} (self : LossyFdAdapter α) (uplink : Bool) :
    (self.shouldDrop uplink).1.adapter = self.adapter := by
  unfold shouldDrop
  dsimp only
  split_ifs <;> rfl

theorem Steady.lossy {α π : Type} [DatagramAdapter α π] {inOrder : α → Prop} {offered : Option π → Prop}
    (steady : Steady α inOrder offered) : Steady (LossyFdAdapter α) (fun lossy => inOrder lossy.adapter) offered where
  read := by
    intro lossy packet before legal
    obtain ⟨after, ok, count⟩ := steady.read lossy.adapter packet before legal
    change inOrder (lossy.read packet).1.adapter ∧ (lossy.read packet).2.isOk = true ∧
      (DatagramAdapter.fd (lossy.read packet).1.adapter).readCount = (DatagramAdapter.fd lossy.adapter).readCount + 1
    unfold LossyFdAdapter.read
    generalize DatagramAdapter.read lossy.adapter packet = called at after ok count ⊢
    obtain ⟨adapter, result⟩ := called
    cases result with
    | error thrown => cases ok
    | ok ret =>
        dsimp only
        rw [LossyFdAdapter.shouldDrop_adapter]
        exact ⟨after, rfl, count⟩
  write := by
    intro lossy seg before compact
    have kept := lossy.shouldDrop_adapter true
    change inOrder (lossy.write seg).1.adapter ∧ (lossy.write seg).2 = _
    unfold LossyFdAdapter.write
    generalize lossy.shouldDrop true = drawn at kept ⊢
    obtain ⟨next, drop⟩ := drawn
    cases drop with
    | true => exact ⟨kept ▸ before, rfl⟩
    | false => exact steady.write next.adapter seg (kept ▸ before) compact
  tick := fun lossy ms before => steady.tick lossy.adapter ms before

end Adapters

namespace TCPSpongeSocket

-- Whatever the adapter is offered to read, and whatever the connection makes of it, no round of the loop throws while
-- the inbound stream has positions left.
def NeverThrows (α : Type) {π : Type} [DatagramAdapter α π] (inOrder : α → Prop) (offered : Option π → Prop) : Prop :=
  ∀ (opening : Opening) (cfg : TCPConfig) (randomIsn : WrappingInt32) (adapter : α) (kernel : SocketKernel π)
    (ops : List (Round π)), 0 < cfg.recvCapacity → inOrder adapter →
    (∀ op ∈ ops, op.poll.Intact ∧ op.kernel.Honest ∧ offered op.kernel.packet) →
    ∀ front op back, ops = front ++ op :: back →
      let before := front.foldl step (opening.socket cfg randomIsn adapter kernel)
      before.2.tcp.conn.inboundStream.bytesWritten + cfg.recvCapacity < 2 ^ 64 →
      ∃ goesOn, (tcpRound before op).2.2 = .ok goesOn

theorem neverThrows {α π : Type} [DatagramAdapter α π] {inOrder : α → Prop} {offered : Option π → Prop}
    (steady : Steady α inOrder offered) : NeverThrows α inOrder offered := by
  rintro opening cfg randomIsn adapter kernel _ positive before fair front op back rfl state room
  rw [List.forall_mem_append, List.forall_mem_cons] at fair
  obtain ⟨earlier, ⟨intact, honest, offers⟩, -⟩ := fair
  have initial : (opening.host cfg randomIsn adapter).InOrder inOrder cfg.recvCapacity := by
    have new := SegmentLaw.holds_new Compact cfg randomIsn
    have ordered := TCPReceiver.ordered_new cfg.recvCapacity
    cases opening with
    | connect => exact ⟨before, new.step compact_law .connect, ordered, rfl⟩
    | listenAndAccept => exact ⟨before, new, ordered, rfl⟩
  have inOrder (h : Host α)
      (reached : Reaches Host.step (Host.Legal offered) (opening.host cfg randomIsn adapter) h) :
      h.InOrder inOrder cfg.recvCapacity :=
    reached.invariant _ initial fun _ _ kept legal => steady.step kept legal
  have between := (between_opening opening cfg randomIsn adapter kernel offered).foldl
    fun op member => (earlier op member).2.2
  have capacity := (inOrder _ between.reached).capacity
  exact between.round_returns (fun h reached => steady.dependable (inOrder h reached)) intact honest offers
    ⟨capacity ▸ positive, capacity ▸ room⟩

section Exit

variable {α π : Type} [DatagramAdapter α π]

theorem exit_of_left {state : List SocketRule × TCPSpongeSocket α π} {op : Round π} (unaborted : op.abort = false)
    (left : (tcpRound state op).2.2 = .ok false) :
    (waitNextEvent rule state.1 op.poll { state.2 with kernel := op.kernel }).2.2 = .ok .exit ∧
      (tcpRound state op).2.1 =
        (waitNextEvent rule state.1 op.poll { state.2 with kernel := op.kernel }).2.1 := by
  unfold tcpRound at left ⊢
  generalize waitNextEvent rule state.1 op.poll { state.2 with kernel := op.kernel } = called at left ⊢
  obtain ⟨rules, s, result⟩ := called
  cases result with
  | error thrown => cases left
  | ok result =>
      dsimp only at left ⊢
      by_cases exits : result = .exit
      · rw [if_pos (.inl exits)]
        exact ⟨by rw [exits], rfl⟩
      · rw [if_neg (by simp [exits, unaborted])] at left
        split at left
        · cases ticked : (s.toHost.tick op.elapsed).2 <;> simp [ticked, Except.map] at left
        · cases left

theorem loop_left_when_done (opening : Opening) (cfg : TCPConfig) (randomIsn : WrappingInt32) (adapter : α)
    (kernel : SocketKernel π) (ops : List (Round π)) (op : Round π) (undisturbed : op.poll ≠ .interrupted)
    (unaborted : op.abort = false)
    (left : (tcpRound (ops.foldl step (opening.socket cfg randomIsn adapter kernel)) op).2.2 = .ok false) :
    let s := (tcpRound (ops.foldl step (opening.socket cfg randomIsn adapter kernel)) op).2.1
    (s.tcp.conn.isActive = false ∨ .datagramIn ∈ s.cancelled) ∧
      (s.tcp.conn.segmentsOut = [] ∨ .datagramOut ∈ s.cancelled) ∧
      (s.threadData.sent = s.tcp.inbound ∧
          (s.inboundShutdown = true ∨
            s.tcp.conn.inboundStream.eof = false ∧ s.tcp.conn.inboundStream.hasError = false) ∨
        .threadOut ∈ s.cancelled) := by
  have between := (between_opening opening cfg randomIsn adapter kernel fun _ => True).foldl
    fun op (_ : op ∈ ops) => trivial
  obtain ⟨exits, same⟩ := exit_of_left unaborted left
  rw [same]
  exact between.exits trivial undisturbed exits

end Exit

def resetPayload : Bytes :=
  match ({ header := { ackno := ⟨1⟩, ack := true, rst := true } } : TCPSegment).serialize 0 with
  | .ok payload => payload.concatenate
  | .error _ => []

def resetKernel (payload : Bytes) : SocketKernel ReceivedDatagram where
  packet := some { sourceAddress := ⟨1, 80⟩, payload }
  threadRead := fun _ => some []
  threadWrite := some
  threadShutdown := true

def resetRound (readable : Bool) (payload : Bytes) : Round ReceivedDatagram where
  poll := .answered [{ readable }, {}, { writable := true }, { writable := true }]
  kernel := resetKernel payload
  elapsed := 1

def resetRounds : List (Round ReceivedDatagram) :=
  [resetRound false [], resetRound true [1, 2, 3], resetRound true resetPayload, resetRound false []]

def resetAdapter : TCPOverUDPSocketAdapter := { config := { destination := ⟨1, 80⟩ } }

theorem resetRounds_fair : ∀ op ∈ resetRounds, op.poll.Intact ∧ op.kernel.Honest ∧ FromSocket op.kernel.packet := by
  have each (readable : Bool) {payload : Bytes} (small : payload.length ≤ 65536) :
      (resetRound readable payload).poll.Intact ∧ (resetRound readable payload).kernel.Honest ∧
        FromSocket (resetRound readable payload).kernel.packet :=
    ⟨by simp [resetRound, Poll.Intact],
      ⟨fun _ => ⟨[], rfl, Nat.zero_le _⟩, fun size => ⟨size, rfl, le_rfl, id⟩, rfl⟩, ⟨_, rfl, small⟩⟩
  simp only [resetRounds, List.forall_mem_cons]
  exact ⟨each _ (by decide), each _ (by decide), each _ (by decide), each _ (by decide), by simp⟩

theorem loop_left_when_done_reset :
    let s := (tcpRound (resetRounds.foldl step (Opening.connect.socket {} ⟨0⟩ resetAdapter (resetKernel [])))
      (resetRound false [])).2.1
    s.tcp.conn.isActive = false ∨ .datagramIn ∈ s.cancelled :=
  (loop_left_when_done .connect {} ⟨0⟩ resetAdapter (resetKernel []) resetRounds (resetRound false [])
    (by simp [resetRound]) rfl (by decide +kernel)).1

end TCPSpongeSocket

end Sponge
