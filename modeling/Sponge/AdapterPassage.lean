import Sponge.SegmentCarriage
import Sponge.TunTapAdapter

set_option autoImplicit false

namespace Sponge

open Shared

def Brings (P : IPv4Datagram → Prop) (bytes : Bytes) : Prop :=
  ∀ frame, ({} : EthernetFrame).parse bytes = (.noError, frame) → frame.Brings P

instance (P : IPv4Datagram → Prop) [DecidablePred P] (bytes : Bytes) : Decidable (Brings P bytes) :=
  decidable_of_iff ((({} : EthernetFrame).parse bytes).1 = .noError → (({} : EthernetFrame).parse bytes).2.Brings P)
    forall_parsed

theorem Brings.mono {P Q : IPv4Datagram → Prop} {bytes : Bytes} (brings : Brings P bytes)
    (weaker : ∀ dgram, P dgram → Q dgram) : Brings Q bytes :=
  fun frame parsed ipv4 dgram found => weaker _ (brings frame parsed ipv4 dgram found)

theorem EthernetFrame.Brings.serialized {P : IPv4Datagram → Prop} {frame : EthernetFrame} (brings : frame.Brings P) :
    Sponge.Brings P frame.serialize.concatenate := by
  intro read parsed
  rw [EthernetFrame.parse_serialize] at parsed
  cases parsed
  intro ipv4 dgram found
  rw [BufferList.concatenate_ofBuffer] at found
  exact brings ipv4 dgram found

namespace TCPOverIPv4OverEthernetAdapter

structure Holds (P : IPv4Datagram → Prop) (adapter : TCPOverIPv4OverEthernetAdapter) : Prop where
  interface : adapter.interface.Holds P
  written : ∀ bytes ∈ adapter.tap.written, Brings P bytes

variable {P : IPv4Datagram → Prop} {self : TCPOverIPv4OverEthernetAdapter}

theorem Holds.mono {Q : IPv4Datagram → Prop} (holds : self.Holds P) (weaker : ∀ dgram, P dgram → Q dgram) :
    self.Holds Q :=
  ⟨holds.interface.mono weaker, fun bytes member => (holds.written bytes member).mono weaker⟩

theorem sendPending_holds (holds : self.Holds P) :
    self.sendPending.1.Holds P ∧ self.sendPending.1.toTCPOverIPv4Adapter = self.toTCPOverIPv4Adapter := by
  obtain ⟨fd, -, sent⟩ := self.sendPending_eq
  rw [sent]
  refine ⟨⟨⟨holds.interface.queue, by simp⟩, fun bytes member => ?_⟩, rfl⟩
  rcases List.mem_append.mp member with before | new
  · exact holds.written bytes before
  · obtain ⟨frame, waiting, rfl⟩ := List.mem_map.mp new
    exact (holds.interface.frames frame waiting).serialized

theorem read_tap (self : PacketDevice) (packet : Option Bytes) :
    (self.read packet).1.written = self.written ∧ ∀ bytes, (self.read packet).2 = .ok bytes → packet = some bytes := by
  refine ⟨rfl, fun bytes read => ?_⟩
  simp only [PacketDevice.read, FileDescriptor.read] at read
  cases packet with
  | none => cases read
  | some data =>
      dsimp only at read
      split at read
      · cases read
      · cases read
        rfl

inductive Reads (P : IPv4Datagram → Prop) (before after : TCPOverIPv4OverEthernetAdapter) :
    Except Exception (Option TCPSegment) → Prop
  | nothing (result : Except Exception (Option TCPSegment)) (none : ∀ seg, result ≠ .ok (some seg))
      (same : after.toTCPOverIPv4Adapter = before.toTCPOverIPv4Adapter) : Reads P before after result
  | datagram (dgram : IPv4Datagram) (holds : P dgram) (contiguous : dgram.payload.Contiguous)
      (unwrapped : after.toTCPOverIPv4Adapter = (before.toTCPOverIPv4Adapter.unwrapTcpInIp dgram).1) :
      Reads P before after (before.toTCPOverIPv4Adapter.unwrapTcpInIp dgram).2

theorem Holds.read (lasting : Lasting P) (holds : self.Holds P) {packet : Option Bytes}
    (brings : ∀ bytes, packet = some bytes → Brings P bytes) :
    (self.read packet).1.Holds P ∧ Reads P self (self.read packet).1 (self.read packet).2 := by
  obtain ⟨written, took⟩ := read_tap self.tap packet
  unfold TCPOverIPv4OverEthernetAdapter.read
  generalize self.tap.read packet = called at written took ⊢
  obtain ⟨tap, result⟩ := called
  have kept : ∀ bytes ∈ tap.written, Brings P bytes := by
    rw [written]
    exact holds.written
  cases result with
  | error thrown => exact ⟨⟨holds.interface, kept⟩, .nothing _ nofun rfl⟩
  | ok bytes =>
      dsimp only
      split
      next => exact ⟨⟨holds.interface, kept⟩, .nothing _ nofun rfl⟩
      next accepted =>
        rw [not_not] at accepted
        have frame : ({} : EthernetFrame).parse bytes = (.noError, (({} : EthernetFrame).parse bytes).2) := by
          rw [← accepted]
        have received := holds.interface.recvFrame lasting (brings bytes (took bytes rfl) _ frame)
        have parsed (dgram : IPv4Datagram) := @NetworkInterface.recvFrame_returned self.interface
          (({} : EthernetFrame).parse bytes).2 dgram
        generalize self.interface.recvFrame (({} : EthernetFrame).parse bytes).2 = outcome at received parsed ⊢
        obtain ⟨interface, returned⟩ := outcome
        have next : Holds P { self with tap, interface } := ⟨received.1, kept⟩
        cases returned with
        | error thrown => exact ⟨next, .nothing _ nofun rfl⟩
        | ok answer =>
            have sent := sendPending_holds next
            dsimp only
            generalize sendPending { self with tap, interface } = pended at sent ⊢
            obtain ⟨after, result⟩ := pended
            cases result with
            | error thrown => exact ⟨sent.1, .nothing _ nofun sent.2⟩
            | ok _ =>
                cases answer with
                | none => exact ⟨sent.1, .nothing _ nofun sent.2⟩
                | some dgram =>
                    have same : after.toTCPOverIPv4Adapter = self.toTCPOverIPv4Adapter := sent.2
                    dsimp only
                    rw [same]
                    exact ⟨⟨sent.1.interface, sent.1.written⟩,
                      .datagram dgram (received.2 dgram rfl)
                        (IPv4Datagram.contiguous_of_parse (parsed dgram rfl).2) rfl⟩

theorem Holds.write (lasting : Lasting P) (holds : self.Holds P) {seg : TCPSegment} (compact : Compact seg)
    (sent : P (self.wrapped seg)) :
    (self.write seg).1.Holds P ∧ (self.write seg).1.toTCPOverIPv4Adapter = self.toTCPOverIPv4Adapter := by
  unfold TCPOverIPv4OverEthernetAdapter.write
  rw [self.wrapTcpInIp_eq compact.bounds.1]
  have interface := holds.interface.sendDatagram lasting sent self.nextHop
  dsimp only
  generalize self.interface.sendDatagram (self.wrapped seg) self.nextHop = called at interface ⊢
  obtain ⟨iface, result⟩ := called
  have next : Holds P { self with interface := iface } := ⟨interface, holds.written⟩
  cases result with
  | error thrown => exact ⟨next, rfl⟩
  | ok _ => exact sendPending_holds next

theorem Holds.tick (holds : self.Holds P) (ms : Nat) :
    (self.tick ms).1.Holds P ∧ (self.tick ms).1.toTCPOverIPv4Adapter = self.toTCPOverIPv4Adapter := by
  have next : Holds P { self with interface := self.interface.tick ms } := ⟨holds.interface.tick ms, holds.written⟩
  exact sendPending_holds next

end TCPOverIPv4OverEthernetAdapter

end Sponge
