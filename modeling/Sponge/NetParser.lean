import Mathlib.Data.List.GetD
import Sponge.Buffer
import Sponge.Shared.BigEndian

set_option autoImplicit false

namespace Sponge

open Shared

inductive ParseResult
  | noError
  | badChecksum
  | packetTooShort
  | wrongIPVersion
  | headerTooShort
  | truncatedPacket
  | unsupported
  deriving DecidableEq, Repr

structure NetParser where
  buffer : Bytes
  getError : ParseResult := .noError
  deriving DecidableEq, Repr

namespace NetParser

def error (p : NetParser) : Bool := p.getError != .noError

def setError (p : NetParser) (res : ParseResult) : NetParser := { p with getError := res }

def checkSize (p : NetParser) (size : Nat) : NetParser :=
  if p.buffer.length < size then p.setError .packetTooShort else p

-- `_parse_int` for an integer type of `len` bytes; the bounds of `at` and `remove_prefix` were just checked.
def parseInt (len : Nat) : StateM NetParser Nat := fun p =>
  let p := p.checkSize len
  if p.error then
    (0, p)
  else
    (bigEndian (p.buffer.take len), { p with buffer := p.buffer.drop len })

def u8 : StateM NetParser UInt8 := UInt8.ofNat <$> parseInt 1

def u16 : StateM NetParser UInt16 := UInt16.ofNat <$> parseInt 2

def u32 : StateM NetParser UInt32 := UInt32.ofNat <$> parseInt 4

def removePrefix (n : Nat) : StateM NetParser Unit := fun p =>
  let p := p.checkSize n
  if p.error then ((), p) else ((), { p with buffer := p.buffer.drop n })

end NetParser

namespace NetUnparser

def unparseInt (len : Nat) (s : Bytes) (val : Nat) : Bytes := s ++ bigEndianBytes len val

def u8 (s : Bytes) (val : UInt8) : Bytes := unparseInt 1 s val.toNat

def u16 (s : Bytes) (val : UInt16) : Bytes := unparseInt 2 s val.toNat

def u32 (s : Bytes) (val : UInt32) : Bytes := unparseInt 4 s val.toNat

end NetUnparser

def resize (s : Bytes) (n : Nat) : Bytes := s.take n ++ List.replicate (n - s.length) 0

def intAt (width : Nat) (b : Bytes) (off : Nat) : Nat := bigEndian ((b.drop off).take width)

def u8At (b : Bytes) (off : Nat) : UInt8 := UInt8.ofNat (intAt 1 b off)

def u16At (b : Bytes) (off : Nat) : UInt16 := UInt16.ofNat (intAt 2 b off)

def u32At (b : Bytes) (off : Nat) : UInt32 := UInt32.ofNat (intAt 4 b off)

theorem intAt_lt (width : Nat) (b : Bytes) (off : Nat) : intAt width b off < 256 ^ width :=
  (bigEndian_lt _).trans_le (Nat.pow_le_pow_right (by decide) (List.length_take_le _ _))

@[simp] theorem u8At_toNat (b : Bytes) (off : Nat) : (u8At b off).toNat = intAt 1 b off :=
  UInt8.toNat_ofNat_of_lt (intAt_lt 1 b off)

@[simp] theorem u16At_toNat (b : Bytes) (off : Nat) : (u16At b off).toNat = intAt 2 b off :=
  UInt16.toNat_ofNat_of_lt (intAt_lt 2 b off)

@[simp] theorem u32At_toNat (b : Bytes) (off : Nat) : (u32At b off).toNat = intAt 4 b off :=
  UInt32.toNat_ofNat_of_lt (intAt_lt 4 b off)

theorem intAt_succ {b : Bytes} {off : Nat} (within : off < b.length) (width : Nat) :
    intAt (width + 1) b off =
      (b.getD off 0).toNat * 256 ^ ((b.drop (off + 1)).take width).length + intAt width b (off + 1) := by
  rw [intAt, List.drop_eq_getElem_cons within, List.getD_eq_getElem _ _ within, List.take_succ_cons, bigEndian_cons,
    intAt]

theorem intAt_one {b : Bytes} {off : Nat} (within : off < b.length) : intAt 1 b off = (b.getD off 0).toNat := by
  rw [intAt_succ within]
  simp [intAt]

theorem intAt_two {b : Bytes} {off : Nat} (within : off + 1 < b.length) :
    intAt 2 b off = (b.getD off 0).toNat * 256 + (b.getD (off + 1) 0).toNat := by
  have one : ((b.drop (off + 1)).take 1).length = 1 := by
    rw [List.length_take, List.length_drop]
    omega
  rw [intAt_succ (by omega), intAt_one within, one, Nat.pow_one]

theorem intAt_append {front rest : Bytes} {off : Nat} (past : front.length ≤ off) (width : Nat) :
    intAt width (front ++ rest) off = intAt width rest (off - front.length) := by
  rw [intAt, List.drop_append, List.drop_eq_nil_of_le past, List.nil_append, intAt]

theorem intAt_bigEndianBytes {width value : Nat} (small : value < 256 ^ width) (rest : Bytes) :
    intAt width (bigEndianBytes width value ++ rest) 0 = value := by
  rw [intAt, List.drop_zero, List.take_left' (bigEndianBytes_length width value), bigEndian_bigEndianBytes,
    Nat.mod_eq_of_lt small]

@[simp] theorem intAt_u8 (v : UInt8) (rest : Bytes) : intAt 1 (bigEndianBytes 1 v.toNat ++ rest) 0 = v.toNat :=
  intAt_bigEndianBytes v.toNat_lt rest

@[simp] theorem intAt_u16 (v : UInt16) (rest : Bytes) : intAt 2 (bigEndianBytes 2 v.toNat ++ rest) 0 = v.toNat :=
  intAt_bigEndianBytes v.toNat_lt rest

@[simp] theorem intAt_u32 (v : UInt32) (rest : Bytes) : intAt 4 (bigEndianBytes 4 v.toNat ++ rest) 0 = v.toNat :=
  intAt_bigEndianBytes v.toNat_lt rest

theorem bigEndianBytes_intAt {width : Nat} {b : Bytes} {off : Nat} (within : off + width ≤ b.length) :
    bigEndianBytes width (intAt width b off) = (b.drop off).take width := by
  have whole : ((b.drop off).take width).length = width := by
    rw [List.length_take, List.length_drop]
    omega
  have written := bigEndianBytes_bigEndian ((b.drop off).take width)
  rwa [whole] at written

theorem take_drop_append {off m next : Nat} (adjoin : off + m = next) (b : Bytes) (n : Nat) :
    (b.drop off).take m ++ (b.drop next).take n = (b.drop off).take (m + n) := by
  rw [← adjoin, List.take_add, List.drop_drop]

namespace NetParser

section Readers

variable {α β : Type}

@[simp] theorem bind_apply (reader : StateM NetParser α) (next : α → StateM NetParser β) (p : NetParser) :
    (reader >>= next) p = next (reader p).1 (reader p).2 := rfl

theorem bind_of_eq {reader : StateM NetParser α} {p rest : NetParser} {value : α} (read : reader p = (value, rest))
    (next : α → StateM NetParser β) : (reader >>= next) p = next value rest := by
  rw [bind_apply, read]

theorem bind_get (next : NetParser → StateM NetParser β) (p : NetParser) : (get >>= next) p = next p p := rfl

@[simp] theorem pure_apply (value : α) (p : NetParser) : (pure value : StateM NetParser α) p = (value, p) := rfl

structure Takes (reader : StateM NetParser α) (n : Nat) : Prop where
  clean : ∀ p, (reader p).2.getError = .noError ↔ p.getError = .noError ∧ n ≤ p.buffer.length
  rest : ∀ p, (reader p).2.getError = .noError → (reader p).2.buffer = p.buffer.drop n

theorem Takes.pure (value : α) : Takes (pure value) 0 where
  clean := by simp
  rest := by simp

theorem Takes.bind {reader : StateM NetParser α} {next : α → StateM NetParser β} {m n : Nat}
    (first : Takes reader m) (second : ∀ value, Takes (next value) n) : Takes (reader >>= next) (m + n) where
  clean := by
    intro p
    rw [bind_apply, (second _).clean, first.clean]
    constructor
    · rintro ⟨⟨clean, enough⟩, more⟩
      rw [first.rest p ((first.clean p).mpr ⟨clean, enough⟩), List.length_drop] at more
      exact ⟨clean, by omega⟩
    · rintro ⟨clean, enough⟩
      have within : m ≤ p.buffer.length := by omega
      refine ⟨⟨clean, within⟩, ?_⟩
      rw [first.rest p ((first.clean p).mpr ⟨clean, within⟩), List.length_drop]
      omega
  rest := by
    intro p ended
    rw [bind_apply] at ended ⊢
    rw [(second _).rest _ ended, first.rest p ((second _).clean _ |>.mp ended).1, List.drop_drop]

theorem Takes.map {reader : StateM NetParser α} {n : Nat} (takes : Takes reader n) (f : α → β) :
    Takes (f <$> reader) n where
  clean := takes.clean
  rest := takes.rest

end Readers

theorem takes_removePrefix (n : Nat) : Takes (removePrefix n) n where
  clean := by
    intro p
    by_cases short : p.buffer.length < n
    · simp [removePrefix, checkSize, setError, error, short]
    · by_cases clean : p.getError = .noError <;>
        simp [removePrefix, checkSize, error, short, clean, Nat.le_of_not_lt short]
  rest := by
    intro p
    by_cases short : p.buffer.length < n
    · simp [removePrefix, checkSize, setError, error, short]
    · by_cases clean : p.getError = .noError <;> simp [removePrefix, checkSize, error, short, clean]

theorem parseInt_rest (len : Nat) (p : NetParser) : (parseInt len p).2 = (removePrefix len p).2 := by
  simp only [parseInt, removePrefix]
  split <;> rfl

theorem takes_parseInt (len : Nat) : Takes (parseInt len) len where
  clean := by
    intro p
    rw [parseInt_rest]
    exact (takes_removePrefix len).clean p
  rest := by
    intro p
    rw [parseInt_rest]
    exact (takes_removePrefix len).rest p

theorem takes_u8 : Takes u8 1 := (takes_parseInt 1).map _

theorem takes_u16 : Takes u16 2 := (takes_parseInt 2).map _

theorem takes_u32 : Takes u32 4 := (takes_parseInt 4).map _

theorem Takes.run_drop {α : Type} {reader : StateM NetParser α} {n off : Nat} (takes : Takes reader n) {b : Bytes}
    (enough : off + n ≤ b.length) : (reader ⟨b.drop off, .noError⟩).2 = ⟨b.drop (off + n), .noError⟩ := by
  have clean : (reader ⟨b.drop off, .noError⟩).2.getError = .noError :=
    (takes.clean _).mpr ⟨rfl, by rw [List.length_drop]; omega⟩
  have rest := takes.rest _ clean
  rw [List.drop_drop] at rest
  cases result : (reader ⟨b.drop off, .noError⟩).2 with
  | mk buffer getError =>
      rw [result] at clean rest
      simp only at clean rest
      rw [clean, rest]

theorem parseInt_drop {b : Bytes} {off len : Nat} (enough : off + len ≤ b.length) :
    (parseInt len ⟨b.drop off, .noError⟩).1 = bigEndian ((b.drop off).take len) := by
  have fits : ¬(b.drop off).length < len := by
    rw [List.length_drop]
    omega
  simp only [parseInt, checkSize, if_neg fits, error]
  rfl

theorem u8_drop {b : Bytes} {off : Nat} (enough : off + 1 ≤ b.length) :
    u8 ⟨b.drop off, .noError⟩ = (u8At b off, ⟨b.drop (off + 1), .noError⟩) :=
  Prod.ext (congrArg UInt8.ofNat (parseInt_drop enough)) (takes_u8.run_drop enough)

theorem u16_drop {b : Bytes} {off : Nat} (enough : off + 2 ≤ b.length) :
    u16 ⟨b.drop off, .noError⟩ = (u16At b off, ⟨b.drop (off + 2), .noError⟩) :=
  Prod.ext (congrArg UInt16.ofNat (parseInt_drop enough)) (takes_u16.run_drop enough)

theorem u32_drop {b : Bytes} {off : Nat} (enough : off + 4 ≤ b.length) :
    u32 ⟨b.drop off, .noError⟩ = (u32At b off, ⟨b.drop (off + 4), .noError⟩) :=
  Prod.ext (congrArg UInt32.ofNat (parseInt_drop enough)) (takes_u32.run_drop enough)

section Fields

variable {β : Type} {b : Bytes} {off : Nat}

theorem bind_u8 (next : UInt8 → StateM NetParser β) (enough : off + 1 ≤ b.length) :
    (u8 >>= next) ⟨b.drop off, .noError⟩ = next (u8At b off) ⟨b.drop (off + 1), .noError⟩ :=
  bind_of_eq (u8_drop enough) next

theorem bind_u16 (next : UInt16 → StateM NetParser β) (enough : off + 2 ≤ b.length) :
    (u16 >>= next) ⟨b.drop off, .noError⟩ = next (u16At b off) ⟨b.drop (off + 2), .noError⟩ :=
  bind_of_eq (u16_drop enough) next

theorem bind_u32 (next : UInt32 → StateM NetParser β) (enough : off + 4 ≤ b.length) :
    (u32 >>= next) ⟨b.drop off, .noError⟩ = next (u32At b off) ⟨b.drop (off + 4), .noError⟩ :=
  bind_of_eq (u32_drop enough) next

end Fields

end NetParser

end Sponge
