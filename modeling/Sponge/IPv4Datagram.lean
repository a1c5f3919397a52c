import Sponge.IPv4Header

set_option autoImplicit false

namespace Sponge

open Shared

structure IPv4Datagram where
  header : IPv4Header := {}
  payload : BufferList := {}
  deriving DecidableEq, Repr

namespace IPv4Datagram

-- The result of the header's own `parse` is not looked at.
def parse (self : IPv4Datagram) (buffer : Bytes) : ParseResult × IPv4Datagram :=
  let ((_, header), p) := self.header.parse ⟨buffer, .noError⟩
  let payload := BufferList.ofBuffer p.buffer
  if payload.size ≠ header.payloadLength.toNat then
    (.packetTooShort, ⟨header, payload⟩)
  else
    (p.getError, ⟨header, payload⟩)

def serialize (self : IPv4Datagram) : Except Exception BufferList :=
  if self.payload.size ≠ self.header.payloadLength.toNat then
    .error (.runtimeError "IPv4Datagram::serialize: payload is wrong size")
  else do
    let headerOut := { self.header with cksum := 0 }
    let headerZeroChecksum ← headerOut.serialize
    let check := ({} : InternetChecksum).add headerZeroChecksum
    let headerOut := { headerOut with cksum := check.value }
    let ret := BufferList.ofBuffer (← headerOut.serialize)
    return ret.append self.payload

theorem payloadLength_toNat (header : IPv4Header) :
    header.payloadLength.toNat = (header.len.toNat + 65536 - 4 * header.hlen.toNat) % 65536 := by
  have small := header.hlen.toNat_lt
  simp only [IPv4Header.payloadLength, UInt16.toNat_sub, UInt16.toNat_mul, UInt8.toNat_toUInt16,
    UInt16.toNat_ofNat]
  omega

section Acceptance

def versionNibble (b : Bytes) : Nat := (b.getD 0 0).toNat / 16

def headerLengthNibble (b : Bytes) : Nat := (b.getD 0 0).toNat % 16

def totalLengthField (b : Bytes) : Nat := (b.getD 2 0).toNat * 256 + (b.getD 3 0).toNat

structure WellFramed (b : Bytes) : Prop where
  version : versionNibble b = 4
  headerLength : 5 ≤ headerLengthNibble b
  fits : 4 * headerLengthNibble b ≤ b.length
  totalLength : totalLengthField b = b.length

def headerChecksum (b : Bytes) : UInt16 := (({} : InternetChecksum).add (b.take (4 * headerLengthNibble b))).value

structure Valid (b : Bytes) : Prop where
  long : 20 ≤ b.length
  framed : WellFramed b
  checksum : headerChecksum b = 0

instance (b : Bytes) : Decidable (WellFramed b) :=
  decidable_of_iff (versionNibble b = 4 ∧ 5 ≤ headerLengthNibble b ∧ 4 * headerLengthNibble b ≤ b.length ∧
      totalLengthField b = b.length)
    ⟨fun ⟨version, headerLength, fits, totalLength⟩ => ⟨version, headerLength, fits, totalLength⟩,
      fun framed => ⟨framed.version, framed.headerLength, framed.fits, framed.totalLength⟩⟩

variable {b : Bytes} (long : 20 ≤ b.length)
include long

theorem ofBytes_ver : (IPv4Header.ofBytes b).ver.toNat = versionNibble b := by
  simp only [IPv4Header.ofBytes, UInt8.toNat_shiftRight, u8At_toNat, UInt8.reduceToNat]
  rw [intAt_one (by omega), versionNibble]
  exact Nat.shiftRight_eq_div_pow _ 4

theorem ofBytes_hlen : (IPv4Header.ofBytes b).hlen.toNat = headerLengthNibble b := by
  simp only [IPv4Header.ofBytes, UInt8.toNat_and, u8At_toNat]
  rw [intAt_one (by omega), headerLengthNibble]
  exact Nat.and_two_pow_sub_one_eq_mod _ 4

theorem ofBytes_len : (IPv4Header.ofBytes b).len.toNat = totalLengthField b := by
  simp only [IPv4Header.ofBytes, u16At_toNat]
  rw [intAt_two (by omega), totalLengthField]

theorem framed_iff : IPv4Header.Framed b ↔ WellFramed b := by
  have version : (IPv4Header.ofBytes b).ver = 4 ↔ versionNibble b = 4 := by
    rw [← ofBytes_ver long, ← UInt8.toNat_inj]
    rfl
  have headerLength : ¬(IPv4Header.ofBytes b).hlen < 5 ↔ 5 ≤ headerLengthNibble b := by
    rw [← ofBytes_hlen long, UInt8.lt_iff_toNat_lt, Nat.not_lt]
    rfl
  constructor
  · intro framed
    exact ⟨version.mp framed.version, headerLength.mp framed.headerLength, ofBytes_hlen long ▸ framed.fits,
      ofBytes_len long ▸ framed.totalLength.symm⟩
  · intro framed
    exact ⟨by rw [ofBytes_hlen long]; exact framed.fits, version.mpr framed.version,
      headerLength.mpr framed.headerLength, by rw [ofBytes_len long, framed.totalLength]⟩

theorem parse_unframed (self : IPv4Datagram) (unframed : ¬WellFramed b) :
    self.parse b =
      (if b.length - 20 = (totalLengthField b + 65536 - 4 * headerLengthNibble b) % 65536 then .noError
        else .packetTooShort, ⟨IPv4Header.ofBytes b, BufferList.ofBuffer (b.drop 20)⟩) := by
  obtain ⟨_, _, parsed⟩ := IPv4Header.parse_unframed self.header long (mt (framed_iff long).mp unframed)
  have size : (BufferList.ofBuffer (b.drop IPv4Header.length)).size = b.length - 20 := by simp [IPv4Header.length]
  simp only [parse, parsed, size, payloadLength_toNat, ofBytes_len long, ofBytes_hlen long]
  split <;> simp_all [IPv4Header.length]

theorem parse_framed (self : IPv4Datagram) (framed : WellFramed b) :
    self.parse b =
      (.noError, ⟨IPv4Header.ofBytes b, BufferList.ofBuffer (b.drop (4 * headerLengthNibble b))⟩) := by
  have parsed := IPv4Header.parse_framed self.header long ((framed_iff long).mpr framed)
  have size : (BufferList.ofBuffer (b.drop (4 * headerLengthNibble b))).size =
      (totalLengthField b + 65536 - 4 * headerLengthNibble b) % 65536 := by
    have small : headerLengthNibble b < 16 := Nat.mod_lt _ (by decide)
    have bound := (IPv4Header.ofBytes b).len.toNat_lt
    have fits := framed.fits
    have totalLength := framed.totalLength
    rw [ofBytes_len long] at bound
    rw [BufferList.size_ofBuffer, List.length_drop]
    omega
  rw [ofBytes_hlen long] at parsed
  simp only [parse, parsed, size, payloadLength_toNat, ofBytes_len long, ofBytes_hlen long]
  exact if_neg (not_not.mpr rfl)

end Acceptance

theorem parse_short (self : IPv4Datagram) {b : Bytes} (short : b.length < 20) :
    self.parse b =
      (if b.length = self.header.payloadLength.toNat then .noError else .packetTooShort,
        ⟨self.header, BufferList.ofBuffer b⟩) := by
  have size : (BufferList.ofBuffer b).size = b.length := BufferList.size_ofBuffer b
  simp only [parse, IPv4Header.parse_short _ short, size]
  split <;> simp_all

theorem header_accepts_iff (self : IPv4Header) (b : Bytes) :
    (self.parse ⟨b, .noError⟩).1.1 = .noError ↔ Valid b := by
  by_cases long : 20 ≤ b.length
  · by_cases framed : WellFramed b
    · have parsed := IPv4Header.parse_framed self long ((framed_iff long).mpr framed)
      rw [ofBytes_hlen long, ← headerChecksum] at parsed
      rw [parsed]
      constructor
      · intro accepted
        refine ⟨long, framed, ?_⟩
        by_contra bad
        simp [bad] at accepted
      · intro valid
        simp [valid.checksum]
    · obtain ⟨result, failed, parsed⟩ :=
        IPv4Header.parse_unframed self long (mt (framed_iff long).mp framed)
      rw [parsed]
      exact ⟨fun accepted => absurd accepted failed, fun valid => absurd valid.framed framed⟩
  · rw [IPv4Header.parse_short self (Nat.lt_of_not_le long)]
    exact ⟨fun accepted => by simp at accepted, fun valid => absurd valid.long long⟩

theorem parse_accepts_iff (self : IPv4Datagram) (b : Bytes) :
    (self.parse b).1 = .noError ↔
      if b.length < 20 then b.length = self.header.payloadLength.toNat
      else WellFramed b ∨ b.length - 20 = (totalLengthField b + 65536 - 4 * headerLengthNibble b) % 65536 := by
  by_cases short : b.length < 20
  · simp [parse_short self short, short]
  · have long : 20 ≤ b.length := Nat.le_of_not_lt short
    by_cases framed : WellFramed b
    · simp [parse_framed long _ framed, short, framed]
    · simp [parse_unframed long _ framed, short, framed]

theorem long_of_parse {b : Bytes} {dgram : IPv4Datagram}
    (parsed : ({} : IPv4Datagram).parse b = (.noError, dgram)) : 20 ≤ b.length := by
  by_contra short
  have accepted : (({} : IPv4Datagram).parse b).1 = .noError := by rw [parsed]
  have expected : ({} : IPv4Header).payloadLength.toNat = 65516 := by decide
  rw [parse_accepts_iff, if_pos (Nat.not_le.mp short), expected] at accepted
  omega

-- The byte strings on which it makes no difference that the header's verdict is dropped.
def Screened (self : IPv4Datagram) (b : Bytes) : Prop :=
  if b.length < 20 then b.length ≠ self.header.payloadLength.toNat
  else if WellFramed b then headerChecksum b = 0
  else b.length - 20 ≠ (totalLengthField b + 65536 - 4 * headerLengthNibble b) % 65536

instance (self : IPv4Datagram) (b : Bytes) : Decidable (Screened self b) := inferInstanceAs (Decidable (ite _ _ _))

theorem parse_accepts_valid_iff_screened (self : IPv4Datagram) (header : IPv4Header) (b : Bytes) :
    (((self.parse b).1 = .noError ↔ Valid b) ∧
      ((self.parse b).1 = .noError ↔ (header.parse ⟨b, .noError⟩).1.1 = .noError)) ↔
      Screened self b := by
  rw [header_accepts_iff, and_self, parse_accepts_iff, Screened]
  by_cases short : b.length < 20
  · have invalid : ¬Valid b := fun valid => Nat.not_le.mpr short valid.long
    simp [invalid, short]
  · have long : 20 ≤ b.length := Nat.le_of_not_lt short
    by_cases framed : WellFramed b
    · have valid : Valid b ↔ headerChecksum b = 0 := ⟨Valid.checksum, fun checksum => ⟨long, framed, checksum⟩⟩
      simp [valid, framed, short]
    · have invalid : ¬Valid b := fun valid => framed valid.framed
      simp [invalid, framed, short]

def uncheckedHeader : Bytes := [0x45, 0, 0, 20] ++ List.replicate 16 0

theorem parse_accepts_bad_checksum :
    (({} : IPv4Datagram).parse uncheckedHeader).1 = .noError ∧ ¬Valid uncheckedHeader ∧
      (({} : IPv4Header).parse ⟨uncheckedHeader, .noError⟩).1.1 = .badChecksum :=
  ⟨by decide, fun valid => absurd valid.checksum (by decide), by decide⟩

end IPv4Datagram

end Sponge
