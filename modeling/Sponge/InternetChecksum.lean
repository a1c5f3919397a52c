import Sponge.ByteStream
import Sponge.Shared.OnesComplement

set_option autoImplicit false

namespace Sponge

open Shared

structure InternetChecksum where
  sum : UInt32 := 0
  parity : Bool := false
  deriving DecidableEq, Repr

namespace InternetChecksum

def addByte (self : InternetChecksum) (byte : UInt8) : InternetChecksum :=
  let val := byte.toUInt16
  let val := if self.parity then val else val <<< 8
  { sum := self.sum + val.toUInt32, parity := !self.parity }

def add (self : InternetChecksum) (data : Bytes) : InternetChecksum := data.foldl addByte self

-- The loop ends by its own condition after two rounds at the latest: `value_toNat`.
def value (self : InternetChecksum) : UInt16 :=
  let ret := loop (fun ret : UInt32 => decide (0xffff < ret)) (fun ret => (ret >>> 16) + (ret &&& 0xffff)) 2 self.sum
  (~~~ret).toUInt16

theorem addByte_sum (self : InternetChecksum) (byte : UInt8) :
    (self.addByte byte).sum.toNat =
      (self.sum.toNat + if self.parity then byte.toNat else byte.toNat * 256) % 2 ^ 32 := by
  have small := byte.toNat_lt
  have shifted : (byte.toUInt16 <<< 8).toNat = byte.toNat * 256 := by
    simp [UInt16.toNat_shiftLeft, Nat.shiftLeft_eq]
    omega
  simp only [addByte, UInt32.toNat_add, UInt16.toNat_toUInt32]
  split
  · simp
  · rw [shifted]

theorem add_sum (self : InternetChecksum) (data : Bytes) :
    (self.add data).sum.toNat = (self.sum.toNat + wordSum self.parity data) % 2 ^ 32 := by
  induction data generalizing self with
  | nil => simp [add, wordSum, Nat.mod_eq_of_lt self.sum.toNat_lt]
  | cons byte rest ih =>
      have step := ih (self.addByte byte)
      rw [addByte_sum, Nat.mod_add_mod, Nat.add_assoc] at step
      exact step

theorem add_add (self : InternetChecksum) (front back : Bytes) :
    (self.add front).add back = self.add (front ++ back) := (List.foldl_append ..).symm

theorem foldl_add (self : InternetChecksum) (chunks : List Bytes) :
    chunks.foldl add self = self.add chunks.flatten := by
  induction chunks generalizing self with
  | nil => rfl
  | cons chunk chunks ih => rw [List.foldl_cons, ih, List.flatten_cons, add_add]

theorem fold_toNat (ret : UInt32) :
    ((ret >>> 16) + (ret &&& 0xffff)).toNat = ret.toNat / 65536 + ret.toNat % 65536 := by
  have small := ret.toNat_lt
  have low : ret.toNat &&& 65535 = ret.toNat % 65536 := Nat.and_two_pow_sub_one_eq_mod ret.toNat 16
  simp [UInt32.toNat_add, UInt32.toNat_shiftRight, Nat.shiftRight_eq_div_pow, low]
  omega

theorem value_toNat (self : InternetChecksum) : self.value.toNat = complementSum self.sum.toNat := by
  have folded := loop_simulation (fun ret : UInt32 => decide (0xffff < ret))
    (fun ret => (ret >>> 16) + (ret &&& 0xffff)) (fun n => decide (65535 < n)) (fun n => n / 65536 + n % 65536)
    (fun ret n => ret.toNat = n) (by intro ret n same; simp [← same, UInt32.lt_iff_toNat_lt])
    (by intro ret n same; rw [fold_toNat, same]) 2 self.sum self.sum.toNat rfl
  rw [loop_carrySum self.sum.toNat_lt] at folded
  have small := carrySum_le self.sum.toNat
  simp only [value, complementSum, UInt32.toNat_toUInt16, UInt32.toNat_not, UInt32.size, folded]
  omega

-- As long as 32 bits hold the sum, the order and the grouping of the carries do not matter.
theorem value_add {start : UInt32} {data : Bytes} (bound : start.toNat + wordSum false data < 2 ^ 32) :
    ((⟨start, false⟩ : InternetChecksum).add data).value.toNat = complementSum (start.toNat + wordSum false data) := by
  rw [value_toNat, add_sum, Nat.mod_eq_of_lt bound]

theorem value_of_chunks (start : UInt32) (chunks : List Bytes) :
    (chunks.foldl add ⟨start, false⟩).value = ((⟨start, false⟩ : InternetChecksum).add chunks.flatten).value ∧
      (start.toNat + (words chunks.flatten).sum < 2 ^ 32 →
        (chunks.foldl add ⟨start, false⟩).value = ~~~UInt16.ofNat (onesSum start.toNat (words chunks.flatten))) := by
  rw [foldl_add]
  refine ⟨rfl, fun bound => ?_⟩
  have small := carrySum_le (start.toNat + (words chunks.flatten).sum)
  rw [onesSum_eq_carrySum start.toNat_lt (words_le _), ← UInt16.toNat_inj]
  rw [← wordSum_eq_words] at bound small ⊢
  rw [value_add bound, UInt16.toNat_not, UInt16.toNat_ofNat_of_lt' (by rw [UInt16.size]; omega), complementSum]
  rfl

theorem value_of_chunks_odd :
    (0x1ffff : UInt32).toNat + (words [[0xff], [], [0xf0], [0x12]].flatten).sum < 2 ^ 32 ∧
      ([[0xff], [], [0xf0], [0x12]].foldl add ⟨0x1ffff, false⟩).value = ~~~(0x11f2 : UInt16) := by
  have bound : (0x1ffff : UInt32).toNat + (words [[0xff], [], [0xf0], [0x12]].flatten).sum < 2 ^ 32 := by decide
  refine ⟨bound, ((value_of_chunks 0x1ffff [[0xff], [], [0xf0], [0x12]]).2 bound).trans ?_⟩
  decide

theorem value_set_ne_zero {start : UInt32} {data : Bytes}
    (bound : start.toNat + 65280 * ((data.length + 1) / 2) + 255 * (data.length / 2) < 2 ^ 32)
    (accepted : ((⟨start, false⟩ : InternetChecksum).add data).value = 0) {i : Nat} (inside : i < data.length)
    {byte : UInt8} (differ : byte ≠ data[i]) :
    ((⟨start, false⟩ : InternetChecksum).add (data.set i byte)).value ≠ 0 := by
  have total := wordSum_le false data
  have total' := wordSum_le false (data.set i byte)
  simp only [List.length_set, Bool.not_false, Bool.toNat_true, Bool.toNat_false, Nat.add_zero] at total total'
  obtain ⟨weight, place, shift⟩ := wordSum_set inside false byte
  rw [← UInt16.toNat_inj, value_add (by omega)] at accepted
  rw [ne_eq, ← UInt16.toNat_inj, value_add (by omega)]
  refine complementSum_ne_zero_of_byte place ?_ (mt UInt8.toNat_inj.mp differ) data[i].toNat_lt byte.toNat_lt accepted
  omega

section Field

variable {start : UInt32} {front : Bytes} (even : front.length % 2 = 0)
include even

theorem wordSum_field (back : Bytes) (field : UInt16) :
    wordSum false (front ++ bigEndianBytes 2 field.toNat ++ back) =
      wordSum false (front ++ bigEndianBytes 2 0 ++ back) + field.toNat := by
  have small := field.toNat_lt
  have even_field (n : Nat) : (front ++ bigEndianBytes 2 n).length % 2 = 0 := by
    rw [List.length_append, bigEndianBytes_length]
    omega
  rw [wordSum_append_even (even_field _), wordSum_append_even even, wordSum_append_even (even_field _),
    wordSum_append_even even, wordSum_bigEndianBytes, wordSum_bigEndianBytes]
  omega

theorem value_of_computed {back : Bytes} {field : UInt16}
    (bound : start.toNat + wordSum false (front ++ bigEndianBytes 2 0 ++ back) + 65535 < 2 ^ 32)
    (computed : field = ((⟨start, false⟩ : InternetChecksum).add (front ++ bigEndianBytes 2 0 ++ back)).value) :
    ((⟨start, false⟩ : InternetChecksum).add (front ++ bigEndianBytes 2 field.toNat ++ back)).value = 0 := by
  have small := field.toNat_lt
  have written : field.toNat = complementSum (start.toNat + wordSum false (front ++ bigEndianBytes 2 0 ++ back)) := by
    rw [computed, value_add (by omega)]
  have total := wordSum_field even back field
  rw [← UInt16.toNat_inj, value_add (by omega), total, ← Nat.add_assoc, written]
  exact complementSum_add_self _

theorem computed_of_value {back : Bytes} {field : UInt16}
    (bound : start.toNat + wordSum false (front ++ bigEndianBytes 2 0 ++ back) + 65535 < 2 ^ 32)
    (positive : 0 < start.toNat + wordSum false (front ++ bigEndianBytes 2 0 ++ back)) (written : field ≠ 0xffff)
    (accepted :
      ((⟨start, false⟩ : InternetChecksum).add (front ++ bigEndianBytes 2 field.toNat ++ back)).value = 0) :
    field = ((⟨start, false⟩ : InternetChecksum).add (front ++ bigEndianBytes 2 0 ++ back)).value := by
  have small := field.toNat_lt
  have below : field.toNat < 65535 := by
    have : field.toNat ≠ 65535 := fun same => written (UInt16.toNat_inj.mp same)
    omega
  rw [← UInt16.toNat_inj, value_add (by have := wordSum_field even back field; omega),
    wordSum_field even, ← Nat.add_assoc] at accepted
  rw [← UInt16.toNat_inj, value_add (by omega)]
  exact eq_complementSum positive below accepted

end Field

end InternetChecksum

end Sponge
