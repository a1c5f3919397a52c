import Mathlib.Algebra.Order.Ring.Nat
import Mathlib.Tactic.Common
import Mathlib.Tactic.Ring

set_option autoImplicit false

namespace Shared

def bigEndian (bytes : List UInt8) : Nat := bytes.foldl (fun value byte => value * 256 + byte.toNat) 0

def bigEndianBytes (width value : Nat) : List UInt8 :=
  (List.range width).map fun i => UInt8.ofNat (value >>> ((width - i - 1) * 8))

@[simp] theorem bigEndianBytes_length (width value : Nat) : (bigEndianBytes width value).length = width := by
  simp [bigEndianBytes]

theorem foldl_bigEndian (bytes : List UInt8) (start : Nat) :
    bytes.foldl (fun value byte => value * 256 + byte.toNat) start =
      start * 256 ^ bytes.length + bigEndian bytes := by
  induction bytes generalizing start with
  | nil => simp [bigEndian]
  | cons byte rest ih =>
      have cons : bigEndian (byte :: rest) = (0 * 256 + byte.toNat) * 256 ^ rest.length + bigEndian rest := ih _
      rw [List.foldl_cons, ih, cons, List.length_cons]
      ring

@[simp] theorem bigEndian_nil : bigEndian [] = 0 := rfl

theorem bigEndian_cons (byte : UInt8) (rest : List UInt8) :
    bigEndian (byte :: rest) = byte.toNat * 256 ^ rest.length + bigEndian rest := by
  simp only [bigEndian, List.foldl_cons, Nat.zero_mul, Nat.zero_add]
  exact foldl_bigEndian rest byte.toNat

theorem bigEndianBytes_succ (width value : Nat) :
    bigEndianBytes (width + 1) value = UInt8.ofNat (value / 256 ^ width) :: bigEndianBytes width value := by
  have power : 2 ^ (width * 8) = 256 ^ width := by rw [Nat.mul_comm, Nat.pow_mul]
  simp [bigEndianBytes, List.range_succ_eq_map, Nat.shiftRight_eq_div_pow, power, Nat.add_sub_add_right]

theorem bigEndianBytes_one (value : Nat) : bigEndianBytes 1 value = [UInt8.ofNat value] := by
  simp [bigEndianBytes]

theorem bigEndian_lt (bytes : List UInt8) : bigEndian bytes < 256 ^ bytes.length := by
  induction bytes with
  | nil => simp
  | cons byte rest ih =>
      have small : byte.toNat + 1 ≤ 256 := byte.toNat_lt
      calc bigEndian (byte :: rest) < (byte.toNat + 1) * 256 ^ rest.length := by
            rw [bigEndian_cons, Nat.add_mul, Nat.one_mul]
            omega
        _ ≤ 256 * 256 ^ rest.length := Nat.mul_le_mul_right _ small
        _ = 256 ^ (byte :: rest).length := by rw [List.length_cons, Nat.pow_succ, Nat.mul_comm]

theorem bigEndian_bigEndianBytes (width value : Nat) :
    bigEndian (bigEndianBytes width value) = value % 256 ^ width := by
  induction width with
  | zero => simp [bigEndianBytes, Nat.mod_one]
  | succ width ih =>
      rw [bigEndianBytes_succ, bigEndian_cons, bigEndianBytes_length, ih, UInt8.toNat_ofNat', Nat.pow_succ 256,
        Nat.mod_mul, Nat.mul_comm, Nat.add_comm]

theorem bigEndianBytes_add_mul (width value more : Nat) :
    bigEndianBytes width (more * 256 ^ width + value) = bigEndianBytes width value := by
  induction width generalizing more with
  | zero => rfl
  | succ width ih =>
      have shifted : more * 256 ^ (width + 1) + value = more * 256 * 256 ^ width + value := by ring
      have positive : 0 < 256 ^ width := Nat.pow_pos (by decide)
      rw [bigEndianBytes_succ, bigEndianBytes_succ, shifted, ih, Nat.add_comm (_ * _) value,
        Nat.add_mul_div_right _ _ positive]
      congr 1
      rw [← UInt8.toNat_inj, UInt8.toNat_ofNat', UInt8.toNat_ofNat']
      omega

theorem bigEndianBytes_bigEndian (bytes : List UInt8) : bigEndianBytes bytes.length (bigEndian bytes) = bytes := by
  induction bytes with
  | nil => rfl
  | cons byte rest ih =>
      have head : (byte.toNat * 256 ^ rest.length + bigEndian rest) / 256 ^ rest.length = byte.toNat := by
        rw [Nat.mul_comm, Nat.mul_add_div (Nat.pow_pos (by decide)), Nat.div_eq_of_lt (bigEndian_lt rest),
          Nat.add_zero]
      rw [List.length_cons, bigEndianBytes_succ, bigEndian_cons, bigEndianBytes_add_mul, ih, head, UInt8.ofNat_toNat]

end Shared
