import Sponge.ARPMessage

set_option autoImplicit false

namespace Sponge

open Shared

namespace EthernetHeader

def length : Nat := 14

-- A header that is too short is told by the result only: the parser's own error stays unset.
def parse (self : EthernetHeader) : StateM NetParser (ParseResult × EthernetHeader) := do
  if (← get).buffer.length < length then
    return (.packetTooShort, self)
  let dst ← ARPMessage.readEthernetAddress
  let src ← ARPMessage.readEthernetAddress
  let type ← NetParser.u16
  return ((← get).getError, { dst, src, type })

def serialize (self : EthernetHeader) : Bytes :=
  let ret := self.dst.toList.foldl NetUnparser.u8 []
  let ret := self.src.toList.foldl NetUnparser.u8 ret
  NetUnparser.u16 ret self.type

def ofBytes (b : Bytes) : EthernetHeader where
  dst := ARPMessage.ethernetAddressAt b 0
  src := ARPMessage.ethernetAddressAt b 6
  type := u16At b 12

theorem parse_long (self : EthernetHeader) {b : Bytes} (long : 14 ≤ b.length) :
    self.parse ⟨b, .noError⟩ = ((.noError, ofBytes b), ⟨b.drop 14, .noError⟩) := by
  rw [parse, NetParser.bind_get, if_neg (by exact Nat.not_lt.mpr long)]
  change (ARPMessage.readEthernetAddress >>= _) (⟨b.drop 0, .noError⟩ : NetParser) = _
  rw [NetParser.bind_of_eq (ARPMessage.readEthernetAddress_drop (by omega)),
    NetParser.bind_of_eq (ARPMessage.readEthernetAddress_drop (by omega)), NetParser.bind_u16 _ (by omega),
    NetParser.bind_get]
  rfl

theorem serialize_eq (self : EthernetHeader) :
    self.serialize = self.dst.toList ++ self.src.toList ++ bigEndianBytes 2 self.type.toNat := by
  simp only [serialize, ARPMessage.foldl_u8, NetUnparser.u16, NetUnparser.unparseInt, List.nil_append]

theorem serialize_length (self : EthernetHeader) : self.serialize.length = 14 := by
  simp [serialize_eq]

theorem ofBytes_serialize (self : EthernetHeader) (rest : Bytes) : ofBytes (self.serialize ++ rest) = self := by
  simp only [serialize_eq, ofBytes, u16At, List.append_assoc]
  simp (disch := simp) only [intAt_append, ARPMessage.ethernetAddressAt_append, intAt_u16, Vector.length_toList,
    Nat.reduceSub, ARPMessage.ethernetAddressAt_toList]
  simp only [UInt16.ofNat_toNat]

end EthernetHeader

namespace EthernetFrame

-- The header's own result is dropped.
def parse (self : EthernetFrame) (buffer : Bytes) : ParseResult × EthernetFrame :=
  let ((_, header), p) := self.header.parse ⟨buffer, .noError⟩
  (p.getError, { header, payload := .ofBuffer p.buffer })

def serialize (self : EthernetFrame) : BufferList :=
  let ret : BufferList := {}
  let ret := ret.append (.ofBuffer self.header.serialize)
  ret.append self.payload

theorem concatenate_serialize (self : EthernetFrame) :
    self.serialize.concatenate = self.header.serialize ++ self.payload.concatenate := by
  have empty : ({} : BufferList).concatenate = [] := rfl
  simp [serialize, empty]

theorem parse_serialize (self before : EthernetFrame) :
    before.parse self.serialize.concatenate =
      (.noError, { self with payload := .ofBuffer self.payload.concatenate }) := by
  have long : 14 ≤ (self.header.serialize ++ self.payload.concatenate).length := by
    rw [List.length_append, EthernetHeader.serialize_length]
    omega
  rw [concatenate_serialize, parse, EthernetHeader.parse_long _ long]
  simp only [EthernetHeader.ofBytes_serialize, List.drop_left' self.header.serialize_length]

theorem ethernet_and_arp_inverse :
    (∀ frame before : EthernetFrame, before.parse frame.serialize.concatenate =
      (.noError, { header := frame.header, payload := .ofBuffer frame.payload.concatenate })) ∧
      (∀ (message before : ARPMessage) (padding : Bytes), message.supported →
        ∃ bytes, message.serialize = .ok bytes ∧ before.parse (bytes ++ padding) = (.noError, message)) ∧
      ∀ (bytes : Bytes) (before : ARPMessage), bytes.length = 28 → (before.parse bytes).1 = .noError →
        (before.parse bytes).2.serialize = .ok bytes := by
  refine ⟨parse_serialize, fun message before padding supported => ?_, fun bytes before whole clean => ?_⟩
  · exact ⟨_, ARPMessage.serialize_supported supported, ARPMessage.parse_layout_append supported before padding⟩
  · exact ARPMessage.serialize_of_parse whole clean

theorem ethernet_and_arp_inverse_request :
    (∃ bytes, ({ opcode := ARPMessage.opcodeRequest } : ARPMessage).serialize = .ok bytes ∧
      ({} : ARPMessage).parse (bytes ++ List.replicate 18 0) = (.noError, { opcode := ARPMessage.opcodeRequest })) ∧
      (({} : ARPMessage).parse ([0, 1, 8, 0, 6, 4, 0, 1] ++ List.replicate 20 7)).2.serialize =
        .ok ([0, 1, 8, 0, 6, 4, 0, 1] ++ List.replicate 20 7) := by
  obtain ⟨_, padded, whole⟩ := ethernet_and_arp_inverse
  exact ⟨padded _ {} _ rfl, whole _ {} rfl (by decide)⟩

end EthernetFrame

end Sponge
