import Sponge.IPv4RoundTrip
import Sponge.TCPRoundTrip

set_option autoImplicit false

namespace Sponge

open Shared

-- An IPv4 socket address by its number and its port; the dotted-quad strings in between are taken to be faithful.
structure Address where
  ip : UInt32 := 0
  port : UInt16 := 0
  deriving DecidableEq, Repr

namespace Address

def ipv4Numeric (self : Address) : UInt32 := self.ip

def fromIpv4Numeric (ipAddress : UInt32) : Address := ⟨ipAddress, 0⟩

end Address

structure FdAdapterConfig where
  source : Address := {}
  destination : Address := {}
  deriving DecidableEq, Repr

structure TCPOverIPv4Adapter where
  config : FdAdapterConfig := {}
  listening : Bool := false
  deriving DecidableEq, Repr

namespace TCPOverIPv4Adapter

def checkPeer (self : TCPOverIPv4Adapter) (tcpSeg : TCPSegment) :
    TCPOverIPv4Adapter × Except Exception (Option TCPSegment) :=
  if tcpSeg.header.sport ≠ self.config.destination.port then
    (self, .ok none)
  else
    (self, .ok (some tcpSeg))

def recordPeer (self : TCPOverIPv4Adapter) (ipDgram : IPv4Datagram) (tcpSeg : TCPSegment) : TCPOverIPv4Adapter where
  config :=
    { source := ⟨ipDgram.header.dst, self.config.source.port⟩
      destination := ⟨ipDgram.header.src, tcpSeg.header.sport⟩ }
  listening := false

def unwrapTcpInIp (self : TCPOverIPv4Adapter) (ipDgram : IPv4Datagram) :
    TCPOverIPv4Adapter × Except Exception (Option TCPSegment) :=
  if ¬self.listening ∧ ipDgram.header.dst ≠ self.config.source.ipv4Numeric then
    (self, .ok none)
  else if ¬self.listening ∧ ipDgram.header.src ≠ self.config.destination.ipv4Numeric then
    (self, .ok none)
  else if ipDgram.header.proto ≠ IPv4Header.protoTcp then
    (self, .ok none)
  else
    match ipDgram.payload.toBuffer with
    | .error thrown => (self, .error thrown)
    | .ok buffer =>
        let (result, tcpSeg) := ({} : TCPSegment).parse buffer ipDgram.header.pseudoCksum
        if result ≠ .noError then
          (self, .ok none)
        else if tcpSeg.header.dport ≠ self.config.source.port then
          (self, .ok none)
        else if self.listening then
          if tcpSeg.header.syn ∧ ¬tcpSeg.header.rst then
            (self.recordPeer ipDgram tcpSeg).checkPeer tcpSeg
          else
            (self, .ok none)
        else
          self.checkPeer tcpSeg

def setPorts (self : TCPOverIPv4Adapter) (seg : TCPSegment) : TCPSegment where
  header := { seg.header with sport := self.config.source.port, dport := self.config.destination.port }
  payload := seg.payload

def ipHeader (self : TCPOverIPv4Adapter) (seg : TCPSegment) : IPv4Header :=
  let header : IPv4Header :=
    { src := self.config.source.ipv4Numeric, dst := self.config.destination.ipv4Numeric }
  { header with len := UInt16.ofNat (header.hlen.toNat * 4 + seg.header.doff.toNat * 4 + seg.payload.length) }

-- The segment is taken by reference: it keeps the ports that were set.
def wrapTcpInIp (self : TCPOverIPv4Adapter) (seg : TCPSegment) : TCPSegment × Except Exception IPv4Datagram :=
  let seg := self.setPorts seg
  let header := self.ipHeader seg
  (seg, do return { header, payload := ← seg.serialize header.pseudoCksum })

end TCPOverIPv4Adapter

theorem IPv4Header.pseudoCksum_with_cksum (header : IPv4Header) (cksum : UInt16) :
    { header with cksum }.pseudoCksum = header.pseudoCksum := rfl

theorem IPv4Header.pseudoCksum_lt (self : IPv4Header) : self.pseudoCksum.toNat < 2 ^ 20 := by
  have src := InternetChecksum.fold_toNat self.src
  have dst := InternetChecksum.fold_toNat self.dst
  have srcBound := self.src.toNat_lt
  have dstBound := self.dst.toNat_lt
  have protoBound := self.proto.toNat_lt
  have lengthBound := self.payloadLength.toNat_lt
  simp only [pseudoCksum]
  rw [UInt32.toNat_add, UInt32.toNat_add, UInt32.toNat_add, src, dst, UInt8.toNat_toUInt32, UInt16.toNat_toUInt32]
  omega

namespace TCPOverIPv4Adapter

section RoundTrip

def wrapped (self : TCPOverIPv4Adapter) (seg : TCPSegment) : IPv4Datagram where
  header := self.ipHeader seg
  payload := (BufferList.ofBuffer ((self.setPorts seg).sealedHeader (self.ipHeader seg).pseudoCksum)).append
    (BufferList.ofBuffer seg.payload)

def arrived (self : TCPOverIPv4Adapter) (seg : TCPSegment) : IPv4Datagram where
  header := { self.ipHeader seg with cksum := (self.ipHeader seg).computedCksum }
  payload := BufferList.ofBuffer (self.wrapped seg).payload.concatenate

theorem wrapped_payload (self : TCPOverIPv4Adapter) (seg : TCPSegment) :
    (self.wrapped seg).payload.concatenate =
      (self.setPorts seg).sealedHeader (self.ipHeader seg).pseudoCksum ++ (self.setPorts seg).payload := by
  rw [wrapped, BufferList.concatenate_append, BufferList.concatenate_ofBuffer, BufferList.concatenate_ofBuffer]
  rfl

variable (self : TCPOverIPv4Adapter) {seg : TCPSegment} (long : 5 ≤ seg.header.doff.toNat)
include long

theorem wrapTcpInIp_eq : (self.wrapTcpInIp seg).2 = .ok (self.wrapped seg) := by
  have written : (self.setPorts seg).serialize (self.ipHeader seg).pseudoCksum = .ok (self.wrapped seg).payload :=
    TCPSegment.serialize_eq long
  have same : self.ipHeader (self.setPorts seg) = self.ipHeader seg := rfl
  simp only [wrapTcpInIp, same, written, bind, Except.bind, pure, Except.pure]
  rfl

variable (size : 20 + 4 * seg.header.doff.toNat + seg.payload.length ≤ 65535)
include size

theorem wrapped_formed : (self.wrapped seg).WellFormed := by
  have hlen : (self.wrapped seg).header.hlen.toNat = 5 := rfl
  have offset : (self.wrapped seg).header.offset.toNat = 0 := rfl
  have len : (self.wrapped seg).header.len =
      UInt16.ofNat (5 * 4 + seg.header.doff.toNat * 4 + seg.payload.length) := rfl
  have payload : (self.wrapped seg).payload.size = 4 * seg.header.doff.toNat + seg.payload.length := by
    have ported : 5 ≤ (self.setPorts seg).header.doff.toNat := long
    rw [BufferList.size_eq, wrapped_payload, List.length_append, TCPSegment.sealedHeader_length ported]
    rfl
  refine ⟨rfl, hlen.ge, by rw [hlen]; decide, by rw [offset]; decide, ?_⟩
  rw [hlen, len, payload, UInt16.toNat_ofNat']
  omega

variable (short : seg.header.doff.toNat ≤ 15)
include short

theorem parse_arrived :
    ({} : TCPSegment).parse (self.wrapped seg).payload.concatenate (self.arrived seg).header.pseudoCksum =
      (.noError, ⟨{ (self.setPorts seg).header with
        cksum := (self.setPorts seg).computedCksum (self.ipHeader seg).pseudoCksum }, seg.payload⟩) := by
  have fits : 4 * (self.setPorts seg).header.doff.toNat + (self.setPorts seg).payload.length ≤ 65535 := by
    change 4 * seg.header.doff.toNat + seg.payload.length ≤ 65535
    omega
  have ported : 5 ≤ (self.setPorts seg).header.doff.toNat := long
  have portedShort : (self.setPorts seg).header.doff.toNat ≤ 15 := short
  have bound := TCPSegment.wordSum_zeroCksumBytes_lt (self.ipHeader seg).pseudoCksum_lt ported fits
  have pseudo : (self.arrived seg).header.pseudoCksum = (self.ipHeader seg).pseudoCksum :=
    IPv4Header.pseudoCksum_with_cksum _ _
  have payload : seg.payload = (self.setPorts seg).payload := rfl
  rw [wrapped_payload, pseudo, TCPSegment.parse_sealed ported portedShort bound {}, payload]

theorem unwrap_arrived {receiver : TCPOverIPv4Adapter} (connected : receiver.listening = false)
    (forth : receiver.config.source = self.config.destination)
    (back : receiver.config.destination = self.config.source) :
    receiver.unwrapTcpInIp (self.arrived seg) =
      (receiver, .ok (some ⟨{ (self.setPorts seg).header with
        cksum := (self.setPorts seg).computedCksum (self.ipHeader seg).pseudoCksum }, seg.payload⟩)) := by
  have dst : (self.arrived seg).header.dst = receiver.config.source.ipv4Numeric := by rw [forth]; rfl
  have src : (self.arrived seg).header.src = receiver.config.destination.ipv4Numeric := by rw [back]; rfl
  have proto : (self.arrived seg).header.proto = IPv4Header.protoTcp := rfl
  have buffer : (self.arrived seg).payload.toBuffer = .ok (self.wrapped seg).payload.concatenate := rfl
  have dport : (self.setPorts seg).header.dport = receiver.config.source.port := by rw [forth]; rfl
  have sport : (self.setPorts seg).header.sport = receiver.config.destination.port := by rw [back]; rfl
  simp [unwrapTcpInIp, checkPeer, dst, src, proto, buffer, parse_arrived self long size short, dport, sport, connected]

end RoundTrip

theorem wrap_unwrap_round_trip (sender receiver : TCPOverIPv4Adapter) (connected : receiver.listening = false)
    (forth : receiver.config.source = sender.config.destination)
    (back : receiver.config.destination = sender.config.source) (seg : TCPSegment)
    (long : 5 ≤ seg.header.doff.toNat) (short : seg.header.doff.toNat ≤ 15)
    (size : 20 + 4 * seg.header.doff.toNat + seg.payload.length ≤ 65535) :
    ∃ dgram bytes parsed zeroed, (sender.wrapTcpInIp seg).2 = .ok dgram ∧ dgram.serialize = .ok bytes ∧
      ({} : IPv4Datagram).parse bytes.concatenate = (.noError, parsed) ∧
      { (sender.wrapTcpInIp seg).1.header with cksum := 0 }.serialize = .ok zeroed ∧
      receiver.unwrapTcpInIp parsed =
        (receiver, .ok (some {
          header := { seg.header with
            sport := sender.config.source.port
            dport := sender.config.destination.port
            cksum := ((({ sum := dgram.header.pseudoCksum } : InternetChecksum).add zeroed).add seg.payload).value }
          payload := seg.payload })) := by
  have formed := wrapped_formed sender long size
  have zeroed : { (sender.wrapTcpInIp seg).1.header with cksum := 0 }.serialize = .ok _ :=
    TCPHeader.serialize_eq long
  refine ⟨sender.wrapped seg, _, sender.arrived seg, _, wrapTcpInIp_eq sender long,
    IPv4Datagram.serialize_eq formed.version formed.long formed.size, ?_, zeroed, ?_⟩
  · rw [BufferList.concatenate_append, BufferList.concatenate_ofBuffer, formed.parse_sealed]
    rfl
  · rw [unwrap_arrived sender long size short connected forth back, InternetChecksum.add_add, List.append_assoc]
    rfl

def sampleClient : TCPOverIPv4Adapter where
  config := { source := ⟨0x0a000002, 40000⟩, destination := ⟨0x0a000001, 80⟩ }

def sampleServer : TCPOverIPv4Adapter where
  config := { source := ⟨0x0a000001, 80⟩, destination := ⟨0x0a000002, 40000⟩ }

def sampleSegment : TCPSegment where
  header := { seqno := ⟨7⟩, ack := true, doff := 6, win := 1000 }
  payload := [104, 101, 121]

theorem wrap_unwrap_round_trip_sample :
    ∃ dgram bytes parsed seg, (sampleClient.wrapTcpInIp sampleSegment).2 = .ok dgram ∧ dgram.serialize = .ok bytes ∧
      ({} : IPv4Datagram).parse bytes.concatenate = (.noError, parsed) ∧
      sampleServer.unwrapTcpInIp parsed = (sampleServer, .ok (some seg)) ∧ seg.payload = [104, 101, 121] ∧
      seg.header.sport = 40000 := by
  obtain ⟨dgram, bytes, parsed, _, wrapped, serialized, read, _, unwrapped⟩ :=
    wrap_unwrap_round_trip sampleClient sampleServer rfl rfl rfl sampleSegment (by decide) (by decide) (by decide)
  exact ⟨dgram, bytes, parsed, _, wrapped, serialized, read, unwrapped, rfl, rfl⟩

end TCPOverIPv4Adapter

end Sponge
