import Mathlib.Data.Nat.Bitwise
import Mathlib.Tactic.IntervalCases
import Sponge.InternetChecksum
import Sponge.NetParser

set_option autoImplicit false

namespace Sponge

open Shared

structure IPv4Header where
  ver : UInt8 := 4
  hlen : UInt8 := 5
  tos : UInt8 := 0
  len : UInt16 := 0
  id : UInt16 := 0
  df : Bool := true
  mf : Bool := false
  offset : UInt16 := 0
  ttl : UInt8 := 128
  proto : UInt8 := 6
  cksum : UInt16 := 0
  src : UInt32 := 0
  dst : UInt32 := 0
  deriving DecidableEq, Repr

namespace IPv4Header

def length : Nat := 20

def protoTcp : UInt8 := 6

def readFields : StateM NetParser IPv4Header := do
  let firstByte ← NetParser.u8
  let tos ← NetParser.u8
  let len ← NetParser.u16
  let id ← NetParser.u16
  let foVal ← NetParser.u16
  let ttl ← NetParser.u8
  let proto ← NetParser.u8
  let cksum ← NetParser.u16
  let src ← NetParser.u32
  let dst ← NetParser.u32
  return {
    ver := firstByte >>> 4
    hlen := firstByte &&& 0x0f
    tos, len, id
    df := foVal &&& 0x4000 != 0
    mf := foVal &&& 0x2000 != 0
    offset := foVal &&& 0x1fff
    ttl, proto, cksum, src, dst }

-- An early return leaves the parser where it stands, without an error: only the result tells.
def parse (self : IPv4Header) : StateM NetParser (ParseResult × IPv4Header) := do
  let originalSerializedVersion := (← get).buffer
  let dataSize := originalSerializedVersion.length
  if dataSize < length then
    return (.packetTooShort, self)
  let header ← readFields
  if dataSize < 4 * header.hlen.toNat then
    return (.packetTooShort, header)
  if header.ver ≠ 4 then
    return (.wrongIPVersion, header)
  if header.hlen < 5 then
    return (.headerTooShort, header)
  if dataSize ≠ header.len.toNat then
    return (.truncatedPacket, header)
  NetParser.removePrefix (header.hlen.toNat * 4 - length)
  let p ← get
  if p.error then
    return (p.getError, header)
  let check := ({} : InternetChecksum).add (originalSerializedVersion.take (4 * header.hlen.toNat))
  if check.value ≠ 0 then
    return (.badChecksum, header)
  return (.noError, header)

def firstByte (self : IPv4Header) : UInt8 := self.ver <<< 4 ||| (self.hlen &&& 0xf)

def foVal (self : IPv4Header) : UInt16 :=
  (if self.df then 0x4000 else 0) ||| (if self.mf then 0x2000 else 0) ||| (self.offset &&& 0x1fff)

def serialize (self : IPv4Header) : Except Exception Bytes :=
  if self.ver ≠ 4 then
    .error (.runtimeError "wrong IP version")
  else if 4 * self.hlen.toNat < length then
    .error (.runtimeError "IP header too short")
  else
    let ret := NetUnparser.u8 [] self.firstByte
    let ret := NetUnparser.u8 ret self.tos
    let ret := NetUnparser.u16 ret self.len
    let ret := NetUnparser.u16 ret self.id
    let ret := NetUnparser.u16 ret self.foVal
    let ret := NetUnparser.u8 ret self.ttl
    let ret := NetUnparser.u8 ret self.proto
    let ret := NetUnparser.u16 ret self.cksum
    let ret := NetUnparser.u32 ret self.src
    let ret := NetUnparser.u32 ret self.dst
    .ok (resize ret (4 * self.hlen.toNat))

def payloadLength (self : IPv4Header) : UInt16 := self.len - 4 * self.hlen.toUInt16

def pseudoCksum (self : IPv4Header) : UInt32 :=
  let pcksum := (self.src >>> 16) + (self.src &&& 0xffff)
  let pcksum := pcksum + ((self.dst >>> 16) + (self.dst &&& 0xffff))
  let pcksum := pcksum + self.proto.toUInt32
  pcksum + self.payloadLength.toUInt32

def ofBytes (b : Bytes) : IPv4Header where
  ver := u8At b 0 >>> 4
  hlen := u8At b 0 &&& 0x0f
  tos := u8At b 1
  len := u16At b 2
  id := u16At b 4
  df := u16At b 6 &&& 0x4000 != 0
  mf := u16At b 6 &&& 0x2000 != 0
  offset := u16At b 6 &&& 0x1fff
  ttl := u8At b 8
  proto := u8At b 9
  cksum := u16At b 10
  src := u32At b 12
  dst := u32At b 16

theorem readFields_eq {b : Bytes} (enough : length ≤ b.length) :
    readFields ⟨b, .noError⟩ = (ofBytes b, ⟨b.drop length, .noError⟩) := by
  simp only [length] at enough
  change readFields ⟨b.drop 0, .noError⟩ = _
  rw [readFields, NetParser.bind_u8, NetParser.bind_u8, NetParser.bind_u16, NetParser.bind_u16, NetParser.bind_u16,
    NetParser.bind_u8, NetParser.bind_u8, NetParser.bind_u16, NetParser.bind_u32, NetParser.bind_u32]
  · rfl
  all_goals omega

structure Framed (b : Bytes) : Prop where
  fits : 4 * (ofBytes b).hlen.toNat ≤ b.length
  version : (ofBytes b).ver = 4
  headerLength : ¬(ofBytes b).hlen < 5
  totalLength : b.length = (ofBytes b).len.toNat

theorem parse_short (self : IPv4Header) {b : Bytes} (short : b.length < length) :
    parse self ⟨b, .noError⟩ = ((.packetTooShort, self), ⟨b, .noError⟩) := by
  rw [parse, NetParser.bind_get, if_pos short]
  rfl

theorem parse_unframed (self : IPv4Header) {b : Bytes} (enough : length ≤ b.length) (unframed : ¬Framed b) :
    ∃ result, result ≠ .noError ∧
      parse self ⟨b, .noError⟩ = ((result, ofBytes b), ⟨b.drop length, .noError⟩) := by
  rw [parse, NetParser.bind_get, if_neg (Nat.not_lt.mpr enough), NetParser.bind_of_eq (readFields_eq enough)]
  by_cases short : b.length < 4 * (ofBytes b).hlen.toNat
  · exact ⟨.packetTooShort, by decide, by rw [if_pos short]; rfl⟩
  rw [if_neg short]
  by_cases version : (ofBytes b).ver ≠ 4
  · exact ⟨.wrongIPVersion, by decide, by rw [if_pos version]; rfl⟩
  rw [if_neg version]
  by_cases headerLength : (ofBytes b).hlen < 5
  · exact ⟨.headerTooShort, by decide, by rw [if_pos headerLength]; rfl⟩
  rw [if_neg headerLength]
  by_cases totalLength : b.length ≠ (ofBytes b).len.toNat
  · exact ⟨.truncatedPacket, by decide, by rw [if_pos totalLength]; rfl⟩
  · exact absurd ⟨Nat.le_of_not_lt short, not_not.mp version, headerLength, not_not.mp totalLength⟩ unframed

theorem parse_framed (self : IPv4Header) {b : Bytes} (enough : length ≤ b.length) (framed : Framed b) :
    parse self ⟨b, .noError⟩ =
      ((if (({} : InternetChecksum).add (b.take (4 * (ofBytes b).hlen.toNat))).value = 0 then .noError
        else .badChecksum, ofBytes b), ⟨b.drop (4 * (ofBytes b).hlen.toNat), .noError⟩) := by
  have long : 5 ≤ (ofBytes b).hlen.toNat := UInt8.le_iff_toNat_le.mp (UInt8.not_lt.mp framed.headerLength)
  have skipped : NetParser.removePrefix ((ofBytes b).hlen.toNat * 4 - length) ⟨b.drop length, .noError⟩ =
      ((), ⟨b.drop (4 * (ofBytes b).hlen.toNat), .noError⟩) := by
    have fits := framed.fits
    have whole : length + ((ofBytes b).hlen.toNat * 4 - length) = 4 * (ofBytes b).hlen.toNat := by
      simp only [length]
      omega
    refine Prod.ext rfl ?_
    rw [(NetParser.takes_removePrefix _).run_drop (by omega), whole]
  rw [parse, NetParser.bind_get, if_neg (Nat.not_lt.mpr enough), NetParser.bind_of_eq (readFields_eq enough),
    if_neg (Nat.not_lt.mpr framed.fits), if_neg (not_not.mpr framed.version), if_neg framed.headerLength,
    if_neg (not_not.mpr framed.totalLength), NetParser.bind_of_eq skipped, NetParser.bind_get]
  by_cases checked : (({} : InternetChecksum).add (b.take (4 * (ofBytes b).hlen.toNat))).value = 0
  · simp [NetParser.error, checked]
  · simp [NetParser.error, checked]

section Layout

def frontBytes (self : IPv4Header) : Bytes :=
  bigEndianBytes 1 self.firstByte.toNat ++ bigEndianBytes 1 self.tos.toNat ++ bigEndianBytes 2 self.len.toNat ++
    bigEndianBytes 2 self.id.toNat ++ bigEndianBytes 2 self.foVal.toNat ++ bigEndianBytes 1 self.ttl.toNat ++
    bigEndianBytes 1 self.proto.toNat

def backBytes (self : IPv4Header) : Bytes :=
  bigEndianBytes 4 self.src.toNat ++ bigEndianBytes 4 self.dst.toNat ++
    List.replicate (4 * self.hlen.toNat - length) 0

@[simp] theorem frontBytes_length (self : IPv4Header) : self.frontBytes.length = 10 := by
  simp [frontBytes]

theorem backBytes_length (self : IPv4Header) : self.backBytes.length = 8 + (4 * self.hlen.toNat - length) := by
  simp [backBytes]
  omega

theorem serialize_eq {self : IPv4Header} (version : self.ver = 4) (long : 5 ≤ self.hlen.toNat) :
    self.serialize = .ok (self.frontBytes ++ bigEndianBytes 2 self.cksum.toNat ++ self.backBytes) := by
  have enough : ¬4 * self.hlen.toNat < length := by
    simp only [length]
    omega
  rw [serialize, if_neg (not_not.mpr version), if_neg enough]
  simp only [NetUnparser.u8, NetUnparser.u16, NetUnparser.u32, NetUnparser.unparseInt, resize, List.nil_append]
  rw [List.take_of_length_le (by simp; omega)]
  simp [frontBytes, backBytes, length]

end Layout

section Bits

theorem and_mask (width : Nat) {x : UInt16} {mask : UInt16} (shape : mask.toNat = 2 ^ width - 1)
    (small : x.toNat < 2 ^ width) : x &&& mask = x := by
  rw [← UInt16.toNat_inj, UInt16.toNat_and, shape, Nat.and_two_pow_sub_one_eq_mod, Nat.mod_eq_of_lt small]

theorem firstByte_high {self : IPv4Header} (version : self.ver = 4) : self.firstByte >>> 4 = self.ver := by
  rw [firstByte, version]
  apply UInt8.eq_of_toBitVec_eq
  ext i within
  simp
  interval_cases i <;> simp

theorem firstByte_low {self : IPv4Header} (small : self.hlen.toNat < 16) : self.firstByte &&& 0xf = self.hlen := by
  have masked : self.firstByte &&& 0xf = self.hlen &&& 0xf := by
    rw [firstByte]
    apply UInt8.eq_of_toBitVec_eq
    ext i within
    simp
    interval_cases i <;> simp
  rw [masked, ← UInt8.toNat_inj, UInt8.toNat_and]
  exact (Nat.and_two_pow_sub_one_eq_mod _ 4).trans (Nat.mod_eq_of_lt small)

theorem firstByte_nibbles (x : UInt8) : (x >>> 4) <<< 4 ||| (x &&& 0xf &&& 0xf) = x := by
  apply UInt8.eq_of_toBitVec_eq
  ext i within
  simp
  interval_cases i <;> simp

theorem or_and_mask (a b mask : UInt16) : (a ||| b) &&& mask = (a &&& mask) ||| (b &&& mask) := by
  rw [← UInt16.toNat_inj]
  simp only [UInt16.toNat_and, UInt16.toNat_or]
  exact Nat.and_or_distrib_right ..

theorem foVal_and (self : IPv4Header) (mask : UInt16) :
    self.foVal &&& mask =
      (if self.df then 0x4000 &&& mask else 0) ||| (if self.mf then 0x2000 &&& mask else 0) |||
        (self.offset &&& (0x1fff &&& mask)) := by
  rw [foVal, or_and_mask, or_and_mask, UInt16.and_assoc]
  cases self.df <;> cases self.mf <;> simp

theorem foVal_df (self : IPv4Header) : (self.foVal &&& 0x4000 != 0) = self.df := by
  have mf : (0x2000 : UInt16) &&& 0x4000 = 0 := rfl
  have offset : (0x1fff : UInt16) &&& 0x4000 = 0 := rfl
  rw [foVal_and, mf, offset]
  cases self.df <;> simp

theorem foVal_mf (self : IPv4Header) : (self.foVal &&& 0x2000 != 0) = self.mf := by
  have df : (0x4000 : UInt16) &&& 0x2000 = 0 := rfl
  have offset : (0x1fff : UInt16) &&& 0x2000 = 0 := rfl
  rw [foVal_and, df, offset]
  cases self.mf <;> simp

theorem foVal_offset {self : IPv4Header} (small : self.offset.toNat < 2 ^ 13) :
    self.foVal &&& 0x1fff = self.offset := by
  have df : (0x4000 : UInt16) &&& 0x1fff = 0 := rfl
  have mf : (0x2000 : UInt16) &&& 0x1fff = 0 := rfl
  rw [foVal_and, df, mf, UInt16.and_self, and_mask 13 rfl small]
  simp

theorem ite_and_bit (width : Nat) {x mask : UInt16} (shape : mask.toNat = 2 ^ width) :
    (if x &&& mask != 0 then mask else 0) = x &&& mask := by
  have bit : (x &&& mask).toNat = (x.toNat.testBit width).toNat * mask.toNat := by
    rw [UInt16.toNat_and, shape, Nat.and_two_pow]
  split
  next set =>
    rw [← UInt16.toNat_inj, bit]
    cases cleared : x.toNat.testBit width with
    | false =>
        rw [cleared, Bool.toNat_false, Nat.zero_mul] at bit
        exact absurd (UInt16.toNat_inj.mp bit) (by simpa using set)
    | true => simp
  next clear => exact (by simpa using clear : x &&& mask = 0).symm

theorem flags_union {x : UInt16} (reserved : x.toNat < 2 ^ 15) :
    (if x &&& 0x4000 != 0 then 0x4000 else 0) ||| (if x &&& 0x2000 != 0 then 0x2000 else 0) |||
      (x &&& 0x1fff &&& 0x1fff) = x := by
  rw [ite_and_bit 14 rfl, ite_and_bit 13 rfl]
  have whole : x &&& 0x4000 ||| x &&& 0x2000 ||| (x &&& 0x1fff &&& 0x1fff) = x &&& 0x7fff := by
    apply UInt16.eq_of_toBitVec_eq
    ext i within
    simp
    interval_cases i <;> simp
  rw [whole]
  exact and_mask 15 rfl reserved

end Bits

theorem ofBytes_layout {self : IPv4Header} (version : self.ver = 4) (small : self.hlen.toNat < 16)
    (offset : self.offset.toNat < 2 ^ 13) (payload : Bytes) :
    ofBytes (self.frontBytes ++ bigEndianBytes 2 self.cksum.toNat ++ self.backBytes ++ payload) = self := by
  simp only [frontBytes, backBytes, ofBytes, u8At, u16At, u32At, List.append_assoc]
  simp (disch := simp) only [intAt_append, intAt_u8, intAt_u16, intAt_u32, bigEndianBytes_length, Nat.reduceSub]
  simp only [UInt8.ofNat_toNat, UInt16.ofNat_toNat, UInt32.ofNat_toNat, firstByte_high version, firstByte_low small,
    foVal_df, foVal_mf, foVal_offset offset]

theorem frontBytes_ofBytes {b : Bytes} (enough : length ≤ b.length) (reserved : (u16At b 6).toNat < 2 ^ 15) :
    (ofBytes b).frontBytes = b.take 10 := by
  simp only [length] at enough
  have first : (ofBytes b).firstByte = u8At b 0 := firstByte_nibbles _
  have flags : (ofBytes b).foVal = u16At b 6 := flags_union reserved
  rw [frontBytes, first, flags]
  simp only [ofBytes, u8At_toNat, u16At_toNat]
  rw [bigEndianBytes_intAt (by omega), bigEndianBytes_intAt (by omega), bigEndianBytes_intAt (by omega),
    bigEndianBytes_intAt (by omega), bigEndianBytes_intAt (by omega), bigEndianBytes_intAt (by omega),
    bigEndianBytes_intAt (by omega)]
  simp only [List.drop_zero, ← List.take_add, Nat.reduceAdd]

theorem backBytes_ofBytes {b : Bytes} (enough : length ≤ b.length) (plain : (ofBytes b).hlen = 5) :
    (ofBytes b).backBytes = (b.drop 12).take 8 := by
  simp only [length] at enough
  rw [backBytes, plain]
  simp only [ofBytes, u32At_toNat]
  rw [bigEndianBytes_intAt (by omega), bigEndianBytes_intAt (by omega), take_drop_append rfl]
  simp [length]

end IPv4Header

end Sponge
