import Mathlib.Tactic.IntervalCases
import Sponge.InternetChecksum
import Sponge.NetParser
import Sponge.TCPSegment

set_option autoImplicit false

namespace Sponge

open Shared

namespace TCPHeader

def length : Nat := 20

def readFields : StateM NetParser TCPHeader := do
  let sport ← NetParser.u16
  let dport ← NetParser.u16
  let seqno ← NetParser.u32
  let ackno ← NetParser.u32
  let doff ← NetParser.u8
  let flB ← NetParser.u8
  let win ← NetParser.u16
  let cksum ← NetParser.u16
  let uptr ← NetParser.u16
  return {
    sport, dport
    seqno := ⟨seqno⟩
    ackno := ⟨ackno⟩
    doff := doff >>> 4
    urg := flB &&& 0b00100000 != 0
    ack := flB &&& 0b00010000 != 0
    psh := flB &&& 0b00001000 != 0
    rst := flB &&& 0b00000100 != 0
    syn := flB &&& 0b00000010 != 0
    fin := flB &&& 0b00000001 != 0
    win, cksum, uptr }

def parse : StateM NetParser (ParseResult × TCPHeader) := do
  let header ← readFields
  if header.doff < 5 then
    return (.headerTooShort, header)
  NetParser.removePrefix (header.doff.toNat * 4 - length)
  let p ← get
  if p.error then
    return (p.getError, header)
  return (.noError, header)

def flB (self : TCPHeader) : UInt8 :=
  (if self.urg then 0b00100000 else 0) ||| (if self.ack then 0b00010000 else 0) |||
    (if self.psh then 0b00001000 else 0) ||| (if self.rst then 0b00000100 else 0) |||
    (if self.syn then 0b00000010 else 0) ||| (if self.fin then 0b00000001 else 0)

def serialize (self : TCPHeader) : Except Exception Bytes :=
  if self.doff < 5 then
    .error (.runtimeError "TCP header too short")
  else
    let ret := NetUnparser.u16 [] self.sport
    let ret := NetUnparser.u16 ret self.dport
    let ret := NetUnparser.u32 ret self.seqno.rawValue
    let ret := NetUnparser.u32 ret self.ackno.rawValue
    let ret := NetUnparser.u8 ret (self.doff <<< 4)
    let ret := NetUnparser.u8 ret self.flB
    let ret := NetUnparser.u16 ret self.win
    let ret := NetUnparser.u16 ret self.cksum
    let ret := NetUnparser.u16 ret self.uptr
    .ok (resize ret (4 * self.doff.toNat))

end TCPHeader

namespace TCPSegment

-- As in the datagram's parser, only the error kept by the `NetParser` counts.
def parse (self : TCPSegment) (buffer : Bytes) (datagramLayerChecksum : UInt32) : ParseResult × TCPSegment :=
  let check := ({ sum := datagramLayerChecksum } : InternetChecksum).add buffer
  if check.value ≠ 0 then
    (.badChecksum, self)
  else
    let ((_, header), p) := TCPHeader.parse ⟨buffer, .noError⟩
    (p.getError, ⟨header, p.buffer⟩)

def serialize (self : TCPSegment) (datagramLayerChecksum : UInt32) : Except Exception BufferList := do
  let headerOut := { self.header with cksum := 0 }
  let check := ({ sum := datagramLayerChecksum } : InternetChecksum).add (← headerOut.serialize)
  let check := check.add self.payload
  let headerOut := { headerOut with cksum := check.value }
  let ret := BufferList.ofBuffer (← headerOut.serialize)
  return ret.append (BufferList.ofBuffer self.payload)

end TCPSegment

namespace TCPHeader

def ofBytes (b : Bytes) : TCPHeader where
  sport := u16At b 0
  dport := u16At b 2
  seqno := ⟨u32At b 4⟩
  ackno := ⟨u32At b 8⟩
  doff := u8At b 12 >>> 4
  urg := u8At b 13 &&& 0b00100000 != 0
  ack := u8At b 13 &&& 0b00010000 != 0
  psh := u8At b 13 &&& 0b00001000 != 0
  rst := u8At b 13 &&& 0b00000100 != 0
  syn := u8At b 13 &&& 0b00000010 != 0
  fin := u8At b 13 &&& 0b00000001 != 0
  win := u16At b 14
  cksum := u16At b 16
  uptr := u16At b 18

theorem takes_readFields : NetParser.Takes readFields length :=
  NetParser.takes_u16.bind fun _ => NetParser.takes_u16.bind fun _ => NetParser.takes_u32.bind fun _ =>
  NetParser.takes_u32.bind fun _ => NetParser.takes_u8.bind fun _ => NetParser.takes_u8.bind fun _ =>
  NetParser.takes_u16.bind fun _ => NetParser.takes_u16.bind fun _ => NetParser.takes_u16.bind fun _ =>
  NetParser.Takes.pure _

theorem readFields_eq {b : Bytes} (enough : length ≤ b.length) :
    readFields ⟨b, .noError⟩ = (ofBytes b, ⟨b.drop length, .noError⟩) := by
  simp only [length] at enough
  change readFields ⟨b.drop 0, .noError⟩ = _
  rw [readFields, NetParser.bind_u16, NetParser.bind_u16, NetParser.bind_u32, NetParser.bind_u32, NetParser.bind_u8,
    NetParser.bind_u8, NetParser.bind_u16, NetParser.bind_u16, NetParser.bind_u16]
  · rfl
  all_goals omega

theorem parse_of_read {p rest : NetParser} {header : TCPHeader} (read : readFields p = (header, rest)) :
    (parse p).1.2 = header ∧
      (parse p).2 =
        if header.doff < 5 then rest else (NetParser.removePrefix (header.doff.toNat * 4 - length) rest).2 := by
  rw [parse, NetParser.bind_of_eq read]
  by_cases short : header.doff < 5
  · rw [if_pos short, if_pos short, NetParser.pure_apply]
    exact ⟨rfl, rfl⟩
  · rw [if_neg short, if_neg short, NetParser.bind_apply, NetParser.bind_get]
    split <;> exact ⟨rfl, rfl⟩

end TCPHeader

namespace TCPSegment

section Acceptance

def dataOffsetNibble (b : Bytes) : Nat := (b.getD 12 0).toNat / 16

def checksum (b : Bytes) (sum : UInt32) : UInt16 := (({ sum := sum } : InternetChecksum).add b).value

structure Valid (b : Bytes) (sum : UInt32) : Prop where
  checksum : checksum b sum = 0
  long : 20 ≤ b.length
  dataOffset : 5 ≤ dataOffsetNibble b
  fits : 4 * dataOffsetNibble b ≤ b.length

theorem ofBytes_doff {b : Bytes} (long : 20 ≤ b.length) :
    (TCPHeader.ofBytes b).doff.toNat = dataOffsetNibble b := by
  simp only [TCPHeader.ofBytes, UInt8.toNat_shiftRight, u8At_toNat, UInt8.reduceToNat]
  rw [intAt_one (by omega), dataOffsetNibble]
  exact Nat.shiftRight_eq_div_pow _ 4

theorem parse_bad_checksum (self : TCPSegment) {b : Bytes} {sum : UInt32} (bad : checksum b sum ≠ 0) :
    self.parse b sum = (.badChecksum, self) := by
  rw [checksum] at bad
  simp only [parse]
  rw [if_pos bad]

theorem parse_good_checksum (self : TCPSegment) {b : Bytes} {sum : UInt32} (good : checksum b sum = 0) :
    self.parse b sum =
      ((TCPHeader.parse ⟨b, .noError⟩).2.getError,
        ⟨(TCPHeader.parse ⟨b, .noError⟩).1.2, (TCPHeader.parse ⟨b, .noError⟩).2.buffer⟩) := by
  rw [checksum] at good
  simp only [parse]
  rw [if_neg (not_not.mpr good)]
  obtain ⟨⟨_, _⟩, _⟩ := TCPHeader.parse ⟨b, .noError⟩
  rfl

theorem parse_short (self : TCPSegment) {b : Bytes} {sum : UInt32} (good : checksum b sum = 0)
    (short : b.length < 20) : (self.parse b sum).1 ≠ .noError := by
  cases read : TCPHeader.readFields ⟨b, .noError⟩ with
  | mk header rest =>
      have failed : rest.getError ≠ .noError := by
        have clean := TCPHeader.takes_readFields.clean ⟨b, .noError⟩
        rw [read] at clean
        exact fun ended => absurd (clean.mp ended).2 (Nat.not_le.mpr short)
      rw [parse_good_checksum self good, (TCPHeader.parse_of_read read).2]
      split
      · exact failed
      · exact fun ended => failed (((NetParser.takes_removePrefix _).clean rest).mp ended).1

section Long

variable {b : Bytes} {sum : UInt32} (good : checksum b sum = 0) (long : 20 ≤ b.length)
include good long

theorem parse_low_offset (self : TCPSegment) (low : dataOffsetNibble b < 5) :
    self.parse b sum = (.noError, ⟨TCPHeader.ofBytes b, b.drop 20⟩) := by
  have parsed := TCPHeader.parse_of_read (TCPHeader.readFields_eq long)
  have short : (TCPHeader.ofBytes b).doff < 5 := by
    rw [UInt8.lt_iff_toNat_lt, ofBytes_doff long]
    exact low
  rw [if_pos short] at parsed
  rw [parse_good_checksum self good, parsed.1, parsed.2]
  rfl

theorem parse_fitting (self : TCPSegment) (high : 5 ≤ dataOffsetNibble b) (fits : 4 * dataOffsetNibble b ≤ b.length) :
    self.parse b sum = (.noError, ⟨TCPHeader.ofBytes b, b.drop (4 * dataOffsetNibble b)⟩) := by
  have parsed := TCPHeader.parse_of_read (TCPHeader.readFields_eq long)
  have enough : ¬(TCPHeader.ofBytes b).doff < 5 := by
    rw [UInt8.lt_iff_toNat_lt, ofBytes_doff long]
    exact Nat.not_lt.mpr high
  have whole : TCPHeader.length + (dataOffsetNibble b * 4 - TCPHeader.length) = 4 * dataOffsetNibble b := by
    simp only [TCPHeader.length]
    omega
  rw [if_neg enough, ofBytes_doff long, (NetParser.takes_removePrefix _).run_drop (by omega), whole] at parsed
  rw [parse_good_checksum self good, parsed.1, parsed.2]

theorem parse_truncated (self : TCPSegment) (high : 5 ≤ dataOffsetNibble b)
    (unfit : ¬4 * dataOffsetNibble b ≤ b.length) : (self.parse b sum).1 ≠ .noError := by
  have parsed := TCPHeader.parse_of_read (TCPHeader.readFields_eq long)
  have enough : ¬(TCPHeader.ofBytes b).doff < 5 := by
    rw [UInt8.lt_iff_toNat_lt, ofBytes_doff long]
    exact Nat.not_lt.mpr high
  rw [if_neg enough, ofBytes_doff long] at parsed
  rw [parse_good_checksum self good, parsed.2]
  intro ended
  have more := (((NetParser.takes_removePrefix _).clean _).mp ended).2
  simp only [TCPHeader.length, List.length_drop] at more
  omega

end Long

def Screened (b : Bytes) (sum : UInt32) : Prop := checksum b sum ≠ 0 ∨ b.length < 20 ∨ 5 ≤ dataOffsetNibble b

theorem tcp_parse_accepts_valid_iff_screened (self : TCPSegment) (b : Bytes) (sum : UInt32) :
    (((self.parse b sum).1 = .noError ↔ Valid b sum) ∧
      ((self.parse b sum).1 = .noError → (self.parse b sum).2.payload = b.drop (4 * dataOffsetNibble b))) ↔
      Screened b sum := by
  by_cases good : checksum b sum = 0
  case neg =>
    have invalid : ¬Valid b sum := fun valid => good valid.checksum
    simp [parse_bad_checksum self good, invalid, Screened, good]
  by_cases long : 20 ≤ b.length
  case neg =>
    have short := Nat.lt_of_not_le long
    have invalid : ¬Valid b sum := fun valid => long valid.long
    simp [parse_short self good short, invalid, Screened, short]
  by_cases high : 5 ≤ dataOffsetNibble b
  case neg =>
    have invalid : ¬Valid b sum := fun valid => high valid.dataOffset
    simp [parse_low_offset good long self (Nat.lt_of_not_le high), invalid, Screened, good, long, high]
  by_cases fits : 4 * dataOffsetNibble b ≤ b.length
  · have valid : Valid b sum := ⟨good, long, high, fits⟩
    simp [parse_fitting good long self high fits, valid, Screened, high]
  · have invalid : ¬Valid b sum := fun valid => fits valid.fits
    simp [parse_truncated good long self high fits, invalid, Screened, high]

def lowOffsetSegment : Bytes := List.replicate 12 0 ++ [0x40, 0, 0, 0, 0xbf, 0xff, 0, 0]

theorem tcp_parse_accepts_low_offset :
    ({} : TCPSegment).parse lowOffsetSegment 0 = (.noError, ⟨{ doff := 4, cksum := 0xbfff }, []⟩) ∧
      ¬Valid lowOffsetSegment 0 ∧ (TCPHeader.parse ⟨lowOffsetSegment, .noError⟩).1.1 = .headerTooShort :=
  ⟨by decide, fun valid => absurd valid.dataOffset (by decide), by decide⟩

end Acceptance

end TCPSegment

end Sponge
