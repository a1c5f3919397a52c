import Sponge.TCPCodec

set_option autoImplicit false

namespace Sponge

open Shared

namespace TCPHeader

def frontBytes (self : TCPHeader) : Bytes :=
  bigEndianBytes 2 self.sport.toNat ++ bigEndianBytes 2 self.dport.toNat ++
    bigEndianBytes 4 self.seqno.rawValue.toNat ++ bigEndianBytes 4 self.ackno.rawValue.toNat ++
    bigEndianBytes 1 (self.doff <<< 4).toNat ++ bigEndianBytes 1 self.flB.toNat ++ bigEndianBytes 2 self.win.toNat

def backBytes (self : TCPHeader) : Bytes :=
  bigEndianBytes 2 self.uptr.toNat ++ List.replicate (4 * self.doff.toNat - length) 0

@[simp] theorem frontBytes_length (self : TCPHeader) : self.frontBytes.length = 16 := by
  simp [frontBytes]

theorem backBytes_length (self : TCPHeader) : self.backBytes.length = 2 + (4 * self.doff.toNat - length) := by
  simp [backBytes]

theorem serialize_eq {self : TCPHeader} (long : 5 ≤ self.doff.toNat) :
    self.serialize = .ok (self.frontBytes ++ bigEndianBytes 2 self.cksum.toNat ++ self.backBytes) := by
  have enough : ¬self.doff < 5 := by
    rw [UInt8.lt_iff_toNat_lt]
    exact Nat.not_lt.mpr long
  rw [serialize, if_neg enough]
  simp only [NetUnparser.u8, NetUnparser.u16, NetUnparser.u32, NetUnparser.unparseInt, resize, List.nil_append]
  rw [List.take_of_length_le (by simp; omega)]
  simp [frontBytes, backBytes, length]

theorem doff_nibble {doff : UInt8} (small : doff.toNat < 16) : (doff <<< 4) >>> 4 = doff := by
  rw [← UInt8.toNat_inj]
  simp only [UInt8.toNat_shiftRight, UInt8.toNat_shiftLeft, UInt8.reduceToNat, Nat.shiftLeft_eq,
    Nat.shiftRight_eq_div_pow, Nat.reduceMod, Nat.reducePow]
  omega

theorem flB_bits (self : TCPHeader) :
    (self.flB &&& 0b00100000 != 0) = self.urg ∧ (self.flB &&& 0b00010000 != 0) = self.ack ∧
      (self.flB &&& 0b00001000 != 0) = self.psh ∧ (self.flB &&& 0b00000100 != 0) = self.rst ∧
      (self.flB &&& 0b00000010 != 0) = self.syn ∧ (self.flB &&& 0b00000001 != 0) = self.fin := by
  simp only [flB]
  generalize self.urg = urg, self.ack = ack, self.psh = psh, self.rst = rst, self.syn = syn, self.fin = fin
  revert urg ack psh rst syn fin
  decide

theorem ofBytes_layout {self : TCPHeader} (small : self.doff.toNat < 16) (payload : Bytes) :
    ofBytes (self.frontBytes ++ bigEndianBytes 2 self.cksum.toNat ++ self.backBytes ++ payload) = self := by
  obtain ⟨urg, ack, psh, rst, syn, fin⟩ := self.flB_bits
  simp only [frontBytes, backBytes, ofBytes, u8At, u16At, u32At, List.append_assoc]
  simp (disch := simp) only [intAt_append, intAt_u8, intAt_u16, intAt_u32, bigEndianBytes_length, Nat.reduceSub]
  simp only [UInt8.ofNat_toNat, UInt16.ofNat_toNat, UInt32.ofNat_toNat, doff_nibble small, urg, ack, psh, rst, syn, fin]

end TCPHeader

namespace TCPSegment

def zeroCksumBytes (self : TCPSegment) : Bytes :=
  self.header.frontBytes ++ bigEndianBytes 2 0 ++ (self.header.backBytes ++ self.payload)

def computedCksum (self : TCPSegment) (sum : UInt32) : UInt16 :=
  (({ sum := sum } : InternetChecksum).add self.zeroCksumBytes).value

-- No segment that fits into a datagram sums up to more than 32 bits.
theorem wordSum_zeroCksumBytes_lt {self : TCPSegment} {sum : UInt32} (small : sum.toNat < 2 ^ 20)
    (long : 5 ≤ self.header.doff.toNat) (size : 4 * self.header.doff.toNat + self.payload.length ≤ 65535) :
    sum.toNat + wordSum false self.zeroCksumBytes + 65535 < 2 ^ 32 := by
  have bound := wordSum_le false self.zeroCksumBytes
  have length : self.zeroCksumBytes.length = 4 * self.header.doff.toNat + self.payload.length := by
    simp only [zeroCksumBytes, List.length_append, TCPHeader.frontBytes_length, bigEndianBytes_length,
      TCPHeader.backBytes_length, TCPHeader.length]
    omega
  simp only [length, Bool.not_false, Bool.toNat_true, Bool.toNat_false] at bound
  omega

def sealedHeader (self : TCPSegment) (sum : UInt32) : Bytes :=
  self.header.frontBytes ++ bigEndianBytes 2 (self.computedCksum sum).toNat ++ self.header.backBytes

theorem checksum_sealed {self : TCPSegment} {sum : UInt32}
    (bound : sum.toNat + wordSum false self.zeroCksumBytes + 65535 < 2 ^ 32) :
    checksum (self.sealedHeader sum ++ self.payload) sum = 0 := by
  rw [sealedHeader, List.append_assoc]
  exact InternetChecksum.value_of_computed (by rw [TCPHeader.frontBytes_length]) bound rfl

section WriteRead

variable {self : TCPSegment} {sum : UInt32} (long : 5 ≤ self.header.doff.toNat)
include long

theorem sealedHeader_length : (self.sealedHeader sum).length = 4 * self.header.doff.toNat := by
  simp only [sealedHeader, List.length_append, TCPHeader.frontBytes_length, bigEndianBytes_length,
    TCPHeader.backBytes_length, TCPHeader.length]
  omega

theorem serialize_eq :
    self.serialize sum =
      .ok ((BufferList.ofBuffer (self.sealedHeader sum)).append (BufferList.ofBuffer self.payload)) := by
  have zeroed : { self.header with cksum := 0 }.serialize =
      .ok (self.header.frontBytes ++ bigEndianBytes 2 0 ++ self.header.backBytes) := TCPHeader.serialize_eq long
  have written : { self.header with cksum := self.computedCksum sum }.serialize = .ok (self.sealedHeader sum) :=
    TCPHeader.serialize_eq long
  simp only [serialize, zeroed, Except.bind, bind, pure, Except.pure, InternetChecksum.add_add, List.append_assoc]
  simp only [computedCksum, zeroCksumBytes, List.append_assoc] at written
  rw [written]

theorem parse_sealed (short : self.header.doff.toNat ≤ 15)
    (bound : sum.toNat + wordSum false self.zeroCksumBytes + 65535 < 2 ^ 32) (before : TCPSegment) :
    before.parse (self.sealedHeader sum ++ self.payload) sum =
      (.noError, ⟨{ self.header with cksum := self.computedCksum sum }, self.payload⟩) := by
  have length : (self.sealedHeader sum).length = 4 * self.header.doff.toNat := sealedHeader_length long
  have enough : 20 ≤ (self.sealedHeader sum ++ self.payload).length := by
    rw [List.length_append, length]
    omega
  have header : TCPHeader.ofBytes (self.sealedHeader sum ++ self.payload) =
      { self.header with cksum := self.computedCksum sum } :=
    @TCPHeader.ofBytes_layout { self.header with cksum := self.computedCksum sum } (Nat.lt_succ_of_le short)
      self.payload
  have nibble : dataOffsetNibble (self.sealedHeader sum ++ self.payload) = self.header.doff.toNat := by
    rw [← ofBytes_doff enough, header]
  have fits : 4 * dataOffsetNibble (self.sealedHeader sum ++ self.payload) ≤
      (self.sealedHeader sum ++ self.payload).length := by
    rw [nibble, List.length_append, length]
    exact Nat.le_add_right _ _
  rw [parse_fitting (checksum_sealed bound) enough before (by rw [nibble]; exact long) fits, header, nibble,
    List.drop_left' length]

end WriteRead

theorem tcp_codec_round_trip (before seg : TCPSegment) (sum : UInt32) (long : 5 ≤ seg.header.doff.toNat)
    (short : seg.header.doff.toNat ≤ 15) (size : seg.payload.length ≤ 65535 - 4 * seg.header.doff.toNat)
    (small : sum.toNat < 2 ^ 20) :
    ∃ bytes zeroed, seg.serialize sum = .ok bytes ∧ { seg.header with cksum := 0 }.serialize = .ok zeroed ∧
      before.parse bytes.concatenate sum =
        (.noError, {
          header := { seg.header with
            cksum := ((({ sum := sum } : InternetChecksum).add zeroed).add seg.payload).value }
          payload := seg.payload }) := by
  have zeroed : { seg.header with cksum := 0 }.serialize = .ok _ := TCPHeader.serialize_eq long
  refine ⟨_, _, serialize_eq long, zeroed, ?_⟩
  rw [BufferList.concatenate_append, BufferList.concatenate_ofBuffer, BufferList.concatenate_ofBuffer,
    parse_sealed long short (wordSum_zeroCksumBytes_lt small long (by omega)) before, InternetChecksum.add_add,
    List.append_assoc]
  rfl

def sampleSegment : TCPSegment where
  header := { seqno := ⟨7⟩, ack := true, psh := true, doff := 6, win := 1000, uptr := 3 }
  payload := [104, 101, 121]

theorem tcp_codec_round_trip_sample :
    ∃ bytes cksum, sampleSegment.serialize 0xfffff = .ok bytes ∧ bytes.size = 27 ∧
      ({} : TCPSegment).parse bytes.concatenate 0xfffff =
        (.noError, ⟨{ sampleSegment.header with cksum }, [104, 101, 121]⟩) := by
  obtain ⟨bytes, _, written, _, read⟩ :=
    tcp_codec_round_trip {} sampleSegment 0xfffff (by decide) (by decide) (by decide) (by decide)
  have size : (sampleSegment.serialize 0xfffff).map BufferList.size = .ok 27 := by decide
  rw [written] at size
  exact ⟨bytes, _, written, Except.ok.inj size, read⟩

theorem corruption_detected (before before' : TCPSegment) (b : Bytes) (sum : UInt32) (size : b.length ≤ 65535)
    (small : sum.toNat < 2 ^ 20) (accepted : (before.parse b sum).1 ≠ .badChecksum) (i : Nat)
    (inside : i < b.length) (byte : UInt8) (differ : byte ≠ b[i]) :
    (before'.parse (b.set i byte) sum).1 = .badChecksum := by
  have good : checksum b sum = 0 := by
    by_contra bad
    exact accepted (by rw [parse_bad_checksum before bad])
  have bad : checksum (b.set i byte) sum ≠ 0 :=
    InternetChecksum.value_set_ne_zero (by omega) good inside differ
  rw [parse_bad_checksum before' bad]

-- The byte at 12 holds the data offset.
theorem corruption_detected_sample : (({} : TCPSegment).parse (lowOffsetSegment.set 12 0x50) 0).1 = .badChecksum :=
  corruption_detected {} {} lowOffsetSegment 0 (by decide) (by decide) (by decide) 12 (by decide) 0x50 (by decide)

end TCPSegment

end Sponge
