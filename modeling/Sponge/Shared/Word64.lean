import Mathlib.Algebra.Order.Ring.Nat
import Mathlib.Tactic.Common

set_option autoImplicit false

namespace Shared

def add64 (a b : Nat) : Nat := (a + b) % 2 ^ 64

def sub64 (a b : Nat) : Nat := (a + (2 ^ 64 - b % 2 ^ 64)) % 2 ^ 64

theorem sub64_lt (a b : Nat) : sub64 a b < 2 ^ 64 := Nat.mod_lt _ (by decide)

theorem add64_le (a b : Nat) : add64 a b ≤ a + b := Nat.mod_le _ _

theorem add64_of_lt {a b : Nat} (bound : a + b < 2 ^ 64) : add64 a b = a + b :=
  Nat.mod_eq_of_lt bound

theorem sub64_of_le {a b : Nat} (le : b ≤ a) (bound : a < 2 ^ 64) : sub64 a b = a - b := by
  unfold sub64
  omega

theorem sub64_le {a b : Nat} (le : b ≤ a) : sub64 a b ≤ a - b := by
  unfold sub64
  omega

end Shared
