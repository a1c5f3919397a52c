import Sponge.IPv4Datagram

set_option autoImplicit false

namespace Sponge

open Shared

namespace IPv4Header

def zeroCksumBytes (self : IPv4Header) : Bytes := self.frontBytes ++ bigEndianBytes 2 0 ++ self.backBytes

def computedCksum (self : IPv4Header) : UInt16 := (({} : InternetChecksum).add self.zeroCksumBytes).value

def sealedBytes (self : IPv4Header) : Bytes :=
  self.frontBytes ++ bigEndianBytes 2 self.computedCksum.toNat ++ self.backBytes

theorem sealedBytes_length {self : IPv4Header} (long : 5 ≤ self.hlen.toNat) :
    self.sealedBytes.length = 4 * self.hlen.toNat := by
  simp only [sealedBytes, List.length_append, frontBytes_length, bigEndianBytes_length, backBytes_length, length]
  omega

-- At most 255 words of header are summed, so nothing is lost beyond 32 bits.
theorem wordSum_zeroCksumBytes_lt (self : IPv4Header) : wordSum false self.zeroCksumBytes + 65535 < 2 ^ 32 := by
  have small := self.hlen.toNat_lt
  have bound := wordSum_le false self.zeroCksumBytes
  simp only [zeroCksumBytes, List.length_append, frontBytes_length, bigEndianBytes_length, backBytes_length, length,
    Bool.not_false, Bool.toNat_true, Bool.toNat_false] at bound ⊢
  omega

-- The first byte holds the version, so the sum is not zero and its checksum has one form only.
theorem wordSum_zeroCksumBytes_pos {self : IPv4Header} (version : self.ver = 4) :
    0 < wordSum false self.zeroCksumBytes := by
  have nonzero : self.firstByte.toNat ≠ 0 := by
    intro zero
    have high := firstByte_high version
    rw [UInt8.toNat_inj.mp (zero.trans UInt8.toNat_zero.symm), version] at high
    exact absurd high (by decide)
  rw [zeroCksumBytes, frontBytes, bigEndianBytes_one, UInt8.ofNat_toNat]
  simp only [List.append_assoc, List.cons_append, wordSum, Bool.false_eq_true, if_false]
  omega

theorem value_sealedBytes (self : IPv4Header) : (({} : InternetChecksum).add self.sealedBytes).value = 0 := by
  have bound := self.wordSum_zeroCksumBytes_lt
  refine InternetChecksum.value_of_computed (by rw [frontBytes_length]) ?_ rfl
  rw [UInt32.toNat_zero, Nat.zero_add]
  exact bound

end IPv4Header

namespace IPv4Datagram

theorem serialize_eq {self : IPv4Datagram} (version : self.header.ver = 4) (long : 5 ≤ self.header.hlen.toNat)
    (size : self.payload.size = self.header.payloadLength.toNat) :
    self.serialize = .ok ((BufferList.ofBuffer self.header.sealedBytes).append self.payload) := by
  have zeroed : { self.header with cksum := 0 }.serialize = .ok self.header.zeroCksumBytes :=
    IPv4Header.serialize_eq version long
  have written : { self.header with cksum := self.header.computedCksum }.serialize = .ok self.header.sealedBytes :=
    IPv4Header.serialize_eq version long
  rw [serialize, if_neg (not_not.mpr size)]
  simp only [zeroed, Except.bind, bind, pure, Except.pure]
  rw [← IPv4Header.computedCksum, written]

theorem serialize_ok_iff (self : IPv4Datagram) :
    (∃ bytes, self.serialize = .ok bytes) ↔
      self.header.ver = 4 ∧ 5 ≤ self.header.hlen.toNat ∧ self.payload.size = self.header.payloadLength.toNat := by
  constructor
  · rintro ⟨bytes, serialized⟩
    rw [serialize] at serialized
    by_cases size : self.payload.size = self.header.payloadLength.toNat
    · rw [if_neg (not_not.mpr size)] at serialized
      by_cases version : self.header.ver = 4
      · by_cases long : 4 * self.header.hlen.toNat < IPv4Header.length
        · simp [IPv4Header.serialize, version, long, bind, Except.bind] at serialized
        · simp only [IPv4Header.length] at long
          exact ⟨version, by omega, size⟩
      · simp [IPv4Header.serialize, version, bind, Except.bind] at serialized
    · simp [size] at serialized
  · rintro ⟨version, long, size⟩
    exact ⟨_, serialize_eq version long size⟩

structure WellFormed (dgram : IPv4Datagram) : Prop where
  version : dgram.header.ver = 4
  long : 5 ≤ dgram.header.hlen.toNat
  short : dgram.header.hlen.toNat ≤ 15
  offset : dgram.header.offset.toNat < 2 ^ 13
  totalLength : dgram.header.len.toNat = 4 * dgram.header.hlen.toNat + dgram.payload.size

namespace WellFormed

variable {self : IPv4Datagram} (formed : self.WellFormed)
include formed

theorem size : self.payload.size = self.header.payloadLength.toNat := by
  have bound := self.header.len.toNat_lt
  have totalLength := formed.totalLength
  rw [payloadLength_toNat]
  omega

theorem ofBytes_sealed :
    IPv4Header.ofBytes (self.header.sealedBytes ++ self.payload.concatenate) =
      { self.header with cksum := self.header.computedCksum } :=
  @IPv4Header.ofBytes_layout { self.header with cksum := self.header.computedCksum } formed.version
    (Nat.lt_succ_of_le formed.short) formed.offset self.payload.concatenate

theorem length_sealed :
    (self.header.sealedBytes ++ self.payload.concatenate).length = self.header.len.toNat := by
  rw [List.length_append, IPv4Header.sealedBytes_length formed.long, ← BufferList.size_eq, formed.totalLength]

theorem long_sealed : 20 ≤ (self.header.sealedBytes ++ self.payload.concatenate).length := by
  have long := formed.long
  rw [formed.length_sealed, formed.totalLength]
  omega

theorem nibble_sealed :
    headerLengthNibble (self.header.sealedBytes ++ self.payload.concatenate) = self.header.hlen.toNat := by
  rw [← ofBytes_hlen formed.long_sealed, formed.ofBytes_sealed]

theorem framed_sealed : WellFramed (self.header.sealedBytes ++ self.payload.concatenate) := by
  rw [← framed_iff formed.long_sealed]
  constructor
  · rw [formed.ofBytes_sealed, formed.length_sealed, formed.totalLength]
    exact Nat.le_add_right _ _
  · rw [formed.ofBytes_sealed, formed.version]
  · have long := formed.long
    rw [formed.ofBytes_sealed, UInt8.lt_iff_toNat_lt]
    exact Nat.not_lt.mpr long
  · rw [formed.ofBytes_sealed, formed.length_sealed]

theorem valid_sealed : Valid (self.header.sealedBytes ++ self.payload.concatenate) := by
  refine ⟨formed.long_sealed, formed.framed_sealed, ?_⟩
  rw [headerChecksum, formed.nibble_sealed, List.take_left' (IPv4Header.sealedBytes_length formed.long)]
  exact self.header.value_sealedBytes

theorem parse_sealed (before : IPv4Datagram) :
    before.parse (self.header.sealedBytes ++ self.payload.concatenate) =
      (.noError, ⟨{ self.header with cksum := self.header.computedCksum },
        BufferList.ofBuffer self.payload.concatenate⟩) := by
  rw [parse_framed formed.long_sealed before formed.framed_sealed, formed.ofBytes_sealed, formed.nibble_sealed,
    List.drop_left' (IPv4Header.sealedBytes_length formed.long)]

end WellFormed

section ReadWrite

variable {b : Bytes} (valid : Valid b) (plain : headerLengthNibble b = 5)
include valid plain

theorem ofBytes_plain : (IPv4Header.ofBytes b).hlen = 5 := by
  rw [← UInt8.toNat_inj, ofBytes_hlen valid.long, plain]
  rfl

theorem parse_plain (before : IPv4Datagram) :
    before.parse b = (.noError, ⟨IPv4Header.ofBytes b, BufferList.ofBuffer (b.drop 20)⟩) := by
  rw [parse_framed valid.long before valid.framed, plain]

variable (reserved : (b.getD 6 0).toNat < 128)
include reserved

theorem layout_valid :
    (IPv4Header.ofBytes b).frontBytes ++ bigEndianBytes 2 (IPv4Header.ofBytes b).cksum.toNat ++
      (IPv4Header.ofBytes b).backBytes = b.take 20 := by
  have long := valid.long
  have flags : (u16At b 6).toNat < 2 ^ 15 := by
    have low := (b.getD (6 + 1) 0).toNat_lt
    rw [u16At_toNat, intAt_two (by omega)]
    omega
  rw [IPv4Header.frontBytes_ofBytes long flags, IPv4Header.backBytes_ofBytes long (ofBytes_plain valid plain)]
  simp only [IPv4Header.ofBytes, u16At_toNat]
  rw [bigEndianBytes_intAt (by omega)]
  simp only [← List.take_add, Nat.reduceAdd]

theorem computedCksum_valid (written : (b.getD 10 0).toNat * 256 + (b.getD 11 0).toNat ≠ 65535) :
    (IPv4Header.ofBytes b).cksum = (IPv4Header.ofBytes b).computedCksum := by
  have long := valid.long
  have bound := (IPv4Header.ofBytes b).wordSum_zeroCksumBytes_lt
  have positive := IPv4Header.wordSum_zeroCksumBytes_pos ((framed_iff long).mpr valid.framed).version
  refine InternetChecksum.computed_of_value (by rw [IPv4Header.frontBytes_length]) ?_ ?_ ?_ ?_
  · rwa [UInt32.toNat_zero, Nat.zero_add]
  · rwa [UInt32.toNat_zero, Nat.zero_add]
  · intro same
    have field : intAt 2 b 10 = 65535 := by rw [← u16At_toNat, show u16At b 10 = 0xffff from same]; rfl
    rw [intAt_two (by omega)] at field
    exact written field
  · have checksum := valid.checksum
    rw [headerChecksum, plain] at checksum
    rw [layout_valid valid plain reserved]
    exact checksum

theorem serialize_plain (written : (b.getD 10 0).toNat * 256 + (b.getD 11 0).toNat ≠ 65535) :
    (⟨IPv4Header.ofBytes b, BufferList.ofBuffer (b.drop 20)⟩ : IPv4Datagram).serialize =
      .ok ((BufferList.ofBuffer (b.take 20)).append (BufferList.ofBuffer (b.drop 20))) := by
  have framed := (framed_iff valid.long).mpr valid.framed
  have small := (IPv4Header.ofBytes b).len.toNat_lt
  have hlen : (IPv4Header.ofBytes b).hlen.toNat = 5 := by rw [ofBytes_hlen valid.long, plain]
  have size : (BufferList.ofBuffer (b.drop 20)).size = (IPv4Header.ofBytes b).payloadLength.toNat := by
    have long := valid.long
    have totalLength := framed.totalLength
    rw [BufferList.size_ofBuffer, List.length_drop, payloadLength_toNat, hlen]
    omega
  have header : (IPv4Header.ofBytes b).sealedBytes = b.take 20 := by
    rw [IPv4Header.sealedBytes, ← computedCksum_valid valid plain reserved written, layout_valid valid plain reserved]
  rw [serialize_eq framed.version (Nat.le_of_eq hlen.symm) size, header]

end ReadWrite

theorem ipv4_codec_round_trip :
    (∀ (self : IPv4Datagram), self.WellFormed → ∀ (before : IPv4Datagram) (header : IPv4Header),
      ∃ bytes zeroed, self.serialize = .ok bytes ∧ { self.header with cksum := 0 }.serialize = .ok zeroed ∧
        (header.parse ⟨bytes.concatenate, .noError⟩).1.1 = .noError ∧
        before.parse bytes.concatenate =
          (.noError, ⟨{ self.header with cksum := (({} : InternetChecksum).add zeroed).value },
            BufferList.ofBuffer self.payload.concatenate⟩)) ∧
    (∀ (b : Bytes) (header : IPv4Header), (header.parse ⟨b, .noError⟩).1.1 = .noError →
      headerLengthNibble b = 5 → (b.getD 6 0).toNat < 128 →
      (b.getD 10 0).toNat * 256 + (b.getD 11 0).toNat ≠ 0xffff → ∀ (before : IPv4Datagram),
      ∃ dgram bytes, before.parse b = (.noError, dgram) ∧ dgram.serialize = .ok bytes ∧ bytes.concatenate = b) := by
  constructor
  · intro self formed before header
    refine ⟨_, self.header.zeroCksumBytes, serialize_eq formed.version formed.long formed.size,
      IPv4Header.serialize_eq formed.version formed.long, ?_, ?_⟩
    · rw [BufferList.concatenate_append, BufferList.concatenate_ofBuffer, header_accepts_iff]
      exact formed.valid_sealed
    · rw [BufferList.concatenate_append, BufferList.concatenate_ofBuffer, formed.parse_sealed]
      rfl
  · intro b header accepted plain reserved written before
    have valid := (header_accepts_iff header b).mp accepted
    refine ⟨_, _, parse_plain valid plain before, serialize_plain valid plain reserved written, ?_⟩
    rw [BufferList.concatenate_append, BufferList.concatenate_ofBuffer, BufferList.concatenate_ofBuffer,
      List.take_append_drop]

def sampleDatagram : IPv4Datagram where
  header := { hlen := 6, len := 27, id := 7, offset := 3, src := 0x01020304, dst := 0x05060708 }
  payload := ⟨[[1, 2], [3]]⟩

def sampleBytes : Bytes := [0x45, 0, 0, 21, 0, 7, 0x40, 0, 64, 6, 0x2a, 0xc9, 1, 2, 3, 4, 5, 6, 7, 8, 9]

theorem ipv4_codec_round_trip_sample :
    (∃ bytes, sampleDatagram.serialize = .ok bytes ∧
      (({} : IPv4Datagram).parse bytes.concatenate).2.payload.concatenate = [1, 2, 3]) ∧
    ∃ dgram bytes, ({} : IPv4Datagram).parse sampleBytes = (.noError, dgram) ∧ dgram.serialize = .ok bytes ∧
      bytes.concatenate = sampleBytes := by
  constructor
  · obtain ⟨bytes, _, serialized, _, _, parsed⟩ := ipv4_codec_round_trip.1 sampleDatagram
      ⟨by decide, by decide, by decide, by decide, by decide⟩ {} {}
    exact ⟨bytes, serialized, by rw [parsed]; rfl⟩
  · exact ipv4_codec_round_trip.2 sampleBytes {} (by decide) (by decide) (by decide) (by decide) {}

end IPv4Datagram

end Sponge
