import Mathlib.Algebra.Order.Ring.Nat
import Mathlib.Tactic.Common
import Sponge.Shared.BigEndian
import Sponge.Shared.Loop

set_option autoImplicit false

namespace Shared

-- The sum of the big-endian 16-bit words of a byte string, a last odd byte padded with zero. `odd` says
-- that the first byte is the low half of a word whose high half came before.
def wordSum : Bool → List UInt8 → Nat
  | _, [] => 0
  | odd, byte :: rest => (if odd then byte.toNat else byte.toNat * 256) + wordSum (!odd) rest

theorem wordSum_append (odd : Bool) (front back : List UInt8) :
    wordSum odd (front ++ back) = wordSum odd front + wordSum (odd ^^ decide (front.length % 2 = 1)) back := by
  induction front generalizing odd with
  | nil => simp [wordSum]
  | cons byte rest ih =>
      have flip : ((!odd) ^^ decide (rest.length % 2 = 1)) = (odd ^^ decide ((byte :: rest).length % 2 = 1)) := by
        have parity : decide ((byte :: rest).length % 2 = 1) = !decide (rest.length % 2 = 1) := by
          simp only [List.length_cons, ← decide_not, decide_eq_decide]
          omega
        rw [parity, Bool.not_xor, Bool.xor_not]
      rw [List.cons_append, wordSum, wordSum, ih, flip, Nat.add_assoc]

theorem wordSum_append_even {front : List UInt8} (even : front.length % 2 = 0) (odd : Bool) (back : List UInt8) :
    wordSum odd (front ++ back) = wordSum odd front + wordSum odd back := by
  have not_odd : ¬front.length % 2 = 1 := by omega
  rw [wordSum_append, decide_eq_false not_odd, Bool.xor_false]

theorem wordSum_bigEndianBytes (n : Nat) : wordSum false (bigEndianBytes 2 n) = n % 65536 := by
  rw [bigEndianBytes_succ, bigEndianBytes_succ]
  simp [bigEndianBytes, wordSum]
  omega

theorem wordSum_le (odd : Bool) (bytes : List UInt8) :
    wordSum odd bytes ≤
      65280 * ((bytes.length + (!odd).toNat) / 2) + 255 * ((bytes.length + odd.toNat) / 2) := by
  induction bytes generalizing odd with
  | nil => simp [wordSum]
  | cons byte rest ih =>
      have small := byte.toNat_lt
      have rest_le := ih (!odd)
      cases odd <;> simp [wordSum] at rest_le ⊢ <;> omega

def words : List UInt8 → List Nat
  | [] => []
  | [byte] => [byte.toNat * 256]
  | high :: low :: rest => (high.toNat * 256 + low.toNat) :: words rest

theorem wordSum_eq_words (bytes : List UInt8) : wordSum false bytes = (words bytes).sum := by
  fun_induction words bytes with
  | case1 => rfl
  | case2 byte => rfl
  | case3 high low rest ih =>
      rw [List.sum_cons, ← ih, Nat.add_assoc]
      rfl

theorem words_le (bytes : List UInt8) : ∀ word ∈ words bytes, word ≤ 65535 := by
  fun_induction words bytes with
  | case1 => simp
  | case2 byte =>
      have small := byte.toNat_lt
      intro word member
      rw [List.mem_singleton.mp member]
      omega
  | case3 high low rest ih =>
      have := high.toNat_lt
      have := low.toNat_lt
      intro word member
      rcases List.mem_cons.mp member with rfl | later
      · omega
      · exact ih word later

theorem wordSum_set {bytes : List UInt8} {i : Nat} (inside : i < bytes.length) (odd : Bool) (byte : UInt8) :
    ∃ weight, (weight = 1 ∨ weight = 256) ∧
      wordSum odd (bytes.set i byte) + weight * bytes[i].toNat = wordSum odd bytes + weight * byte.toNat := by
  induction bytes generalizing i odd with
  | nil => simp at inside
  | cons first rest ih =>
      cases i with
      | zero =>
          refine ⟨if odd then 1 else 256, by cases odd <;> simp, ?_⟩
          simp only [List.set_cons_zero, wordSum, List.getElem_cons_zero]
          split <;> omega
      | succ i =>
          obtain ⟨weight, place, same⟩ := ih (by simpa using inside) (!odd)
          refine ⟨weight, place, ?_⟩
          simp only [List.set_cons_succ, wordSum, List.getElem_cons_succ]
          omega

-- A number with its carries beyond 16 bits added back in, until none is left.
def carrySum (n : Nat) : Nat := if n = 0 then 0 else (n - 1) % 65535 + 1

theorem carrySum_le (n : Nat) : carrySum n ≤ 65535 := by
  simp only [carrySum]
  split <;> omega

theorem carrySum_of_le {n : Nat} (small : n ≤ 65535) : carrySum n = n := by
  simp only [carrySum]
  split <;> omega

theorem carrySum_fold (n : Nat) : carrySum (n / 65536 + n % 65536) = carrySum n := by
  simp only [carrySum]
  split <;> split <;> omega

def endAroundAdd (a b : Nat) : Nat := (a + b) % 65536 + (a + b) / 65536

theorem endAroundAdd_carrySum (n : Nat) {word : Nat} (small : word ≤ 65535) :
    endAroundAdd (carrySum n) word = carrySum (n + word) := by
  simp only [endAroundAdd, carrySum]
  split <;> split <;> omega

theorem foldl_endAroundAdd {numbers : List Nat} (small : ∀ word ∈ numbers, word ≤ 65535) (n : Nat) :
    numbers.foldl endAroundAdd (carrySum n) = carrySum (n + numbers.sum) := by
  induction numbers generalizing n with
  | nil => rfl
  | cons word rest ih =>
      rw [List.foldl_cons, endAroundAdd_carrySum n (small word (List.mem_cons_self ..)),
        ih fun later member => small later (List.mem_cons_of_mem _ member), List.sum_cons, Nat.add_assoc]

def onesSum (start : Nat) (numbers : List Nat) : Nat :=
  numbers.foldl endAroundAdd (endAroundAdd (start / 65536) (start % 65536))

theorem onesSum_eq_carrySum {start : Nat} (bound : start < 2 ^ 32) {numbers : List Nat}
    (small : ∀ word ∈ numbers, word ≤ 65535) : onesSum start numbers = carrySum (start + numbers.sum) := by
  have halves : endAroundAdd (start / 65536) (start % 65536) = carrySum start := by
    rw [← carrySum_fold start, ← endAroundAdd_carrySum _ (by omega), carrySum_of_le (by omega)]
  rw [onesSum, halves, foldl_endAroundAdd small]

theorem loop_carrySum {n : Nat} (bound : n < 2 ^ 32) :
    loop (fun n => decide (65535 < n)) (fun n => n / 65536 + n % 65536) 2 n = carrySum n := by
  have exited := loop_exits (fun n => decide (65535 < n)) (fun n => n / 65536 + n % 65536) (fun n => n < 2 ^ 32)
    (fun n => if n ≤ 65535 then 0 else if n ≤ 131070 then 1 else 2)
    (fun n _ small => by omega)
    (fun n large small => by
      have large := of_decide_eq_true large
      split_ifs <;> omega)
    2 n bound (by split_ifs <;> omega)
  have same := loop_invariant (fun n => decide (65535 < n)) (fun n => n / 65536 + n % 65536)
    (fun m => carrySum m = carrySum n) (by intro m _ same; rw [carrySum_fold, same]) 2 n rfl
  rw [← same, carrySum_of_le (by simpa using exited)]

def complementSum (n : Nat) : Nat := 65535 - carrySum n

theorem complementSum_eq_zero {n : Nat} : complementSum n = 0 ↔ 0 < n ∧ n % 65535 = 0 := by
  simp only [complementSum, carrySum]
  split <;> omega

theorem complementSum_add_self (n : Nat) : complementSum (n + complementSum n) = 0 := by
  rw [complementSum_eq_zero]
  simp only [complementSum, carrySum]
  split <;> omega

-- Zero has two forms, and only one of them is ever written for a nonzero sum.
theorem eq_complementSum {n written : Nat} (positive : 0 < n) (small : written < 65535)
    (accepted : complementSum (n + written) = 0) : written = complementSum n := by
  rw [complementSum_eq_zero] at accepted
  simp only [complementSum, carrySum]
  split <;> omega

-- No change of one byte is a multiple of 65535.
theorem complementSum_ne_zero_of_byte {n m weight old new : Nat} (place : weight = 1 ∨ weight = 256)
    (shift : m + weight * old = n + weight * new) (differ : new ≠ old) (oldByte : old < 256) (newByte : new < 256)
    (accepted : complementSum n = 0) : complementSum m ≠ 0 := by
  rw [ne_eq, complementSum_eq_zero]
  rw [complementSum_eq_zero] at accepted
  rcases place with rfl | rfl <;> omega

end Shared
