import Mathlib.Tactic.IntervalCases
import Sponge.NetParser

set_option autoImplicit false

namespace Sponge

open Shared

abbrev EthernetAddress := Vector UInt8 6

def ethernetBroadcast : EthernetAddress := Vector.replicate 6 0xff

structure EthernetHeader where
  dst : EthernetAddress := Vector.replicate 6 0
  src : EthernetAddress := Vector.replicate 6 0
  type : UInt16 := 0
  deriving DecidableEq, Repr

namespace EthernetHeader

def typeIPv4 : UInt16 := 0x800

def typeArp : UInt16 := 0x806

end EthernetHeader

structure EthernetFrame where
  header : EthernetHeader := {}
  payload : BufferList := {}
  deriving DecidableEq, Repr

namespace ARPMessage

def length : Nat := 28

def typeEthernet : UInt16 := 1

def opcodeRequest : UInt16 := 1

def opcodeReply : UInt16 := 2

end ARPMessage

structure ARPMessage where
  hardwareType : UInt16 := ARPMessage.typeEthernet
  protocolType : UInt16 := EthernetHeader.typeIPv4
  hardwareAddressSize : UInt8 := 6
  protocolAddressSize : UInt8 := 4
  opcode : UInt16 := 0
  senderEthernetAddress : EthernetAddress := Vector.replicate 6 0
  senderIpAddress : UInt32 := 0
  targetEthernetAddress : EthernetAddress := Vector.replicate 6 0
  targetIpAddress : UInt32 := 0
  deriving DecidableEq, Repr

namespace ARPMessage

def supported (self : ARPMessage) : Bool :=
  self.hardwareType == typeEthernet && self.protocolType == EthernetHeader.typeIPv4 &&
    self.hardwareAddressSize == 6 && self.protocolAddressSize == 4 &&
    (self.opcode == opcodeRequest || self.opcode == opcodeReply)

def readTypes (self : ARPMessage) : StateM NetParser ARPMessage := do
  let hardwareType ← NetParser.u16
  let protocolType ← NetParser.u16
  let hardwareAddressSize ← NetParser.u8
  let protocolAddressSize ← NetParser.u8
  let opcode ← NetParser.u16
  return { self with hardwareType, protocolType, hardwareAddressSize, protocolAddressSize, opcode }

def readEthernetAddress : StateM NetParser EthernetAddress := do
  let byte₀ ← NetParser.u8
  let byte₁ ← NetParser.u8
  let byte₂ ← NetParser.u8
  let byte₃ ← NetParser.u8
  let byte₄ ← NetParser.u8
  let byte₅ ← NetParser.u8
  return #v[byte₀, byte₁, byte₂, byte₃, byte₄, byte₅]

def readAddresses (self : ARPMessage) : StateM NetParser ARPMessage := do
  let senderEthernetAddress ← readEthernetAddress
  let senderIpAddress ← NetParser.u32
  let targetEthernetAddress ← readEthernetAddress
  let targetIpAddress ← NetParser.u32
  return { self with senderEthernetAddress, senderIpAddress, targetEthernetAddress, targetIpAddress }

def parse (self : ARPMessage) (buffer : Bytes) : ParseResult × ARPMessage :=
  if buffer.length < length then
    (.packetTooShort, self)
  else
    let (self, p) := self.readTypes ⟨buffer, .noError⟩
    if ¬self.supported then
      (.unsupported, self)
    else
      let (self, p) := self.readAddresses p
      (p.getError, self)

def serialize (self : ARPMessage) : Except Exception Bytes :=
  if ¬self.supported then
    .error (.runtimeError
      "ARPMessage::serialize(): unsupported field combination (must be Ethernet/IP, and request or reply)")
  else
    let ret := NetUnparser.u16 [] self.hardwareType
    let ret := NetUnparser.u16 ret self.protocolType
    let ret := NetUnparser.u8 ret self.hardwareAddressSize
    let ret := NetUnparser.u8 ret self.protocolAddressSize
    let ret := NetUnparser.u16 ret self.opcode
    let ret := self.senderEthernetAddress.toList.foldl NetUnparser.u8 ret
    let ret := NetUnparser.u32 ret self.senderIpAddress
    let ret := self.targetEthernetAddress.toList.foldl NetUnparser.u8 ret
    .ok (NetUnparser.u32 ret self.targetIpAddress)

section Reading

def ethernetAddressAt (b : Bytes) (off : Nat) : EthernetAddress :=
  #v[u8At b off, u8At b (off + 1), u8At b (off + 2), u8At b (off + 3), u8At b (off + 4), u8At b (off + 5)]

def ofBytes (b : Bytes) : ARPMessage where
  hardwareType := u16At b 0
  protocolType := u16At b 2
  hardwareAddressSize := u8At b 4
  protocolAddressSize := u8At b 5
  opcode := u16At b 6
  senderEthernetAddress := ethernetAddressAt b 8
  senderIpAddress := u32At b 14
  targetEthernetAddress := ethernetAddressAt b 18
  targetIpAddress := u32At b 24

theorem readEthernetAddress_drop {b : Bytes} {off : Nat} (enough : off + 6 ≤ b.length) :
    readEthernetAddress ⟨b.drop off, .noError⟩ = (ethernetAddressAt b off, ⟨b.drop (off + 6), .noError⟩) := by
  rw [readEthernetAddress, NetParser.bind_u8, NetParser.bind_u8, NetParser.bind_u8, NetParser.bind_u8,
    NetParser.bind_u8, NetParser.bind_u8]
  · rfl
  all_goals omega

variable {b : Bytes} (long : 28 ≤ b.length)
include long

theorem readTypes_eq (self : ARPMessage) :
    self.readTypes ⟨b, .noError⟩ =
      ({ ofBytes b with
          senderEthernetAddress := self.senderEthernetAddress, senderIpAddress := self.senderIpAddress,
          targetEthernetAddress := self.targetEthernetAddress, targetIpAddress := self.targetIpAddress },
        ⟨b.drop 8, .noError⟩) := by
  change self.readTypes ⟨b.drop 0, .noError⟩ = _
  rw [readTypes, NetParser.bind_u16, NetParser.bind_u16, NetParser.bind_u8, NetParser.bind_u8, NetParser.bind_u16]
  · rfl
  all_goals omega

theorem readAddresses_eq (self : ARPMessage) :
    self.readAddresses ⟨b.drop 8, .noError⟩ =
      ({ self with
          senderEthernetAddress := ethernetAddressAt b 8, senderIpAddress := u32At b 14,
          targetEthernetAddress := ethernetAddressAt b 18, targetIpAddress := u32At b 24 },
        ⟨b.drop 28, .noError⟩) := by
  rw [readAddresses, NetParser.bind_of_eq (readEthernetAddress_drop (show 8 + 6 ≤ b.length by omega)),
    NetParser.bind_u32, NetParser.bind_of_eq (readEthernetAddress_drop (show 18 + 6 ≤ b.length by omega)),
    NetParser.bind_u32]
  · rfl
  all_goals omega

theorem parse_supported (self : ARPMessage) (supported : (ofBytes b).supported) :
    self.parse b = (.noError, ofBytes b) := by
  rw [parse, if_neg (by simpa [length] using long), readTypes_eq long]
  simp only
  rw [if_neg (not_not.mpr (by exact supported)), readAddresses_eq long]
  rfl

theorem supported_of_parse {self : ARPMessage} (clean : (self.parse b).1 = .noError) : (ofBytes b).supported := by
  by_contra unsupported
  rw [parse, if_neg (by simpa [length] using long), readTypes_eq long] at clean
  simp only at clean
  rw [if_pos (by exact unsupported)] at clean
  contradiction

end Reading

def layout (self : ARPMessage) : Bytes :=
  bigEndianBytes 2 self.hardwareType.toNat ++ bigEndianBytes 2 self.protocolType.toNat ++
    bigEndianBytes 1 self.hardwareAddressSize.toNat ++ bigEndianBytes 1 self.protocolAddressSize.toNat ++
    bigEndianBytes 2 self.opcode.toNat ++ self.senderEthernetAddress.toList ++
    bigEndianBytes 4 self.senderIpAddress.toNat ++ self.targetEthernetAddress.toList ++
    bigEndianBytes 4 self.targetIpAddress.toNat

theorem foldl_u8 (bytes ret : Bytes) : bytes.foldl NetUnparser.u8 ret = ret ++ bytes := by
  induction bytes generalizing ret with
  | nil => simp
  | cons byte bytes ih =>
      rw [List.foldl_cons, ih, NetUnparser.u8, NetUnparser.unparseInt, bigEndianBytes_one, UInt8.ofNat_toNat]
      simp

theorem serialize_supported {self : ARPMessage} (supported : self.supported) : self.serialize = .ok self.layout := by
  rw [serialize, if_neg (not_not.mpr supported)]
  simp only [foldl_u8, NetUnparser.u8, NetUnparser.u16, NetUnparser.u32, NetUnparser.unparseInt, List.nil_append,
    layout]

theorem ethernetAddress_bytes (address : EthernetAddress) :
    address.toList = [address[0], address[1], address[2], address[3], address[4], address[5]] := by
  obtain ⟨⟨bytes⟩, size⟩ := address
  match bytes, size with
  | [_, _, _, _, _, _], _ => rfl

theorem ethernetAddressAt_toList (address : EthernetAddress) (rest : Bytes) :
    ethernetAddressAt (address.toList ++ rest) 0 = address := by
  rw [ethernetAddress_bytes]
  apply Vector.ext
  intro i within
  interval_cases i <;> simp [ethernetAddressAt, u8At, intAt, bigEndian]

theorem ethernetAddressAt_append {front rest : Bytes} {off : Nat} (past : front.length ≤ off) :
    ethernetAddressAt (front ++ rest) off = ethernetAddressAt rest (off - front.length) := by
  have byte (i : Nat) : u8At (front ++ rest) (off + i) = u8At rest (off - front.length + i) := by
    rw [u8At, intAt_append (by omega), Nat.sub_add_comm past, u8At]
  have first : u8At (front ++ rest) off = u8At rest (off - front.length) := byte 0
  simp only [ethernetAddressAt, byte, first]

theorem layout_length (self : ARPMessage) : self.layout.length = 28 := by
  simp [layout]

theorem ofBytes_layout_append (self : ARPMessage) (padding : Bytes) : ofBytes (self.layout ++ padding) = self := by
  simp only [layout, ofBytes, u8At, u16At, u32At, List.append_assoc]
  simp (disch := simp) only [intAt_append, ethernetAddressAt_append, intAt_u8, intAt_u16, intAt_u32,
    bigEndianBytes_length, Vector.length_toList, Nat.reduceSub, ethernetAddressAt_toList]
  simp only [UInt8.ofNat_toNat, UInt16.ofNat_toNat, UInt32.ofNat_toNat]

theorem parse_layout_append {self : ARPMessage} (supported : self.supported) (before : ARPMessage) (padding : Bytes) :
    before.parse (self.layout ++ padding) = (.noError, self) := by
  have long : 28 ≤ (self.layout ++ padding).length := by
    rw [List.length_append, layout_length]
    omega
  rw [parse_supported long before (by rwa [ofBytes_layout_append]), ofBytes_layout_append]

theorem parse_layout {self : ARPMessage} (supported : self.supported) (before : ARPMessage) :
    before.parse self.layout = (.noError, self) := by
  have padded := parse_layout_append supported before []
  rwa [List.append_nil] at padded

theorem u8At_bytes {b : Bytes} {off : Nat} (within : off + 1 ≤ b.length) : [u8At b off] = (b.drop off).take 1 := by
  rw [← bigEndianBytes_intAt within, ← u8At_toNat, bigEndianBytes_one, UInt8.ofNat_toNat]

theorem ethernetAddressAt_bytes {b : Bytes} {off : Nat} (within : off + 6 ≤ b.length) :
    (ethernetAddressAt b off).toList = (b.drop off).take 6 := by
  have split : (ethernetAddressAt b off).toList = [u8At b off] ++ [u8At b (off + 1)] ++ [u8At b (off + 2)] ++
      [u8At b (off + 3)] ++ [u8At b (off + 4)] ++ [u8At b (off + 5)] := rfl
  rw [split]
  iterate 6 rw [u8At_bytes (by omega)]
  simp only [take_drop_append rfl]

theorem layout_ofBytes {b : Bytes} (long : 28 ≤ b.length) : (ofBytes b).layout = b.take 28 := by
  simp only [layout, ofBytes, u8At_toNat, u16At_toNat, u32At_toNat]
  rw [bigEndianBytes_intAt (by omega), bigEndianBytes_intAt (by omega), bigEndianBytes_intAt (by omega),
    bigEndianBytes_intAt (by omega), bigEndianBytes_intAt (by omega), bigEndianBytes_intAt (by omega),
    bigEndianBytes_intAt (by omega), ethernetAddressAt_bytes (by omega), ethernetAddressAt_bytes (by omega)]
  simp only [List.drop_zero, ← List.take_add, Nat.reduceAdd]

theorem serialize_of_parse {b : Bytes} (whole : b.length = 28) {before : ARPMessage}
    (clean : (before.parse b).1 = .noError) : (before.parse b).2.serialize = .ok b := by
  have long : 28 ≤ b.length := whole.ge
  have supported := supported_of_parse long clean
  rw [parse_supported long before supported, serialize_supported supported, layout_ofBytes long,
    List.take_of_length_le whole.le]

end ARPMessage

end Sponge
