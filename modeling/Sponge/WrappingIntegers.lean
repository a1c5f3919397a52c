import Mathlib.Algebra.Order.Ring.Nat
import Mathlib.Data.Nat.Dist
import Mathlib.Data.Nat.ModEq
import Mathlib.Tactic.Common

set_option autoImplicit false

namespace Sponge

structure WrappingInt32 where
  rawValue : UInt32
  deriving DecidableEq, Repr

namespace WrappingInt32

-- The point `steps` past `a`; the operand is narrowed to 32 bits as the source's `uint32_t b` is.
def advance (a : WrappingInt32) (steps : Nat) : WrappingInt32 := ⟨a.rawValue + UInt32.ofNat steps⟩

theorem ext_toNat {a b : WrappingInt32} (same : a.rawValue.toNat = b.rawValue.toNat) : a = b := by
  cases a
  cases b
  congr
  exact UInt32.toNat_inj.mp same

theorem toNat_lt (a : WrappingInt32) : a.rawValue.toNat < 2 ^ 32 := a.rawValue.toNat_lt

theorem advance_toNat (a : WrappingInt32) (steps : Nat) :
    (a.advance steps).rawValue.toNat = (a.rawValue.toNat + steps) % 2 ^ 32 := by
  simp [advance, UInt32.toNat_add]

end WrappingInt32

def wrap (n : Nat) (isn : WrappingInt32) : WrappingInt32 :=
  ⟨UInt32.ofNat ((isn.rawValue.toNat + n) % 2 ^ 32)⟩

-- No step leaves 64 bits for a checkpoint below 2 ^ 64 - 2 ^ 32.
def unwrap (n isn : WrappingInt32) (checkpoint : Nat) : Nat :=
  let two32 := 2 ^ 32
  let absoluteSeqnoMod :=
    (if n.rawValue < isn.rawValue then n.rawValue.toNat + two32 else n.rawValue.toNat) -
      isn.rawValue.toNat
  let checkpointQuotient := checkpoint / two32
  let absoluteSeqnoCandidate := absoluteSeqnoMod + checkpointQuotient * two32
  if 1 ≤ checkpointQuotient ∧ checkpoint - (absoluteSeqnoCandidate - two32) < two32 / 2 then
    absoluteSeqnoCandidate - two32
  else if absoluteSeqnoCandidate + two32 - checkpoint < two32 / 2 then
    absoluteSeqnoCandidate + two32
  else
    absoluteSeqnoCandidate

theorem wrap_toNat (n : Nat) (isn : WrappingInt32) :
    (wrap n isn).rawValue.toNat = (isn.rawValue.toNat + n) % 2 ^ 32 := by
  simp [wrap]

theorem wrap_eq_iff (m n : Nat) (isn : WrappingInt32) :
    wrap m isn = wrap n isn ↔ m % 2 ^ 32 = n % 2 ^ 32 := by
  constructor
  · intro same
    have := congrArg (fun value => value.rawValue.toNat) same
    simp only [wrap_toNat] at this
    omega
  · intro same
    apply WrappingInt32.ext_toNat
    simp only [wrap_toNat]
    omega

@[simp] theorem wrap_zero (isn : WrappingInt32) : wrap 0 isn = isn := by
  apply WrappingInt32.ext_toNat
  have := isn.toNat_lt
  rw [wrap_toNat]
  omega

theorem wrap_advance (n steps : Nat) (isn : WrappingInt32) :
    (wrap n isn).advance steps = wrap (n + steps) isn := by
  apply WrappingInt32.ext_toNat
  rw [WrappingInt32.advance_toNat, wrap_toNat, wrap_toNat]
  omega

theorem advance_eq_wrap (steps : Nat) (isn : WrappingInt32) : isn.advance steps = wrap steps isn := by
  simpa using wrap_advance 0 steps isn

theorem wrap_injective_near {m n : Nat} {isn : WrappingInt32} (same : wrap m isn = wrap n isn)
    (above : m < n + 2 ^ 32) (below : n < m + 2 ^ 32) : m = n := by
  rw [wrap_eq_iff] at same
  omega

def offset (n isn : WrappingInt32) : Nat := (n.rawValue.toNat + 2 ^ 32 - isn.rawValue.toNat) % 2 ^ 32

theorem offset_lt (n isn : WrappingInt32) : offset n isn < 2 ^ 32 := Nat.mod_lt _ (by decide)

theorem wrap_offset (n isn : WrappingInt32) : wrap (offset n isn) isn = n := by
  apply WrappingInt32.ext_toNat
  have := n.toNat_lt
  have := isn.toNat_lt
  rw [wrap_toNat, offset]
  omega

theorem offset_wrap (n : Nat) (isn : WrappingInt32) : offset (wrap n isn) isn = n % 2 ^ 32 := by
  have := isn.toNat_lt
  rw [offset, wrap_toNat]
  omega

theorem unwrap_offset (n isn : WrappingInt32) (checkpoint : Nat) :
    unwrap n isn checkpoint =
      let candidate := offset n isn + checkpoint / 2 ^ 32 * 2 ^ 32
      if 1 ≤ checkpoint / 2 ^ 32 ∧ checkpoint - (candidate - 2 ^ 32) < 2 ^ 31 then
        candidate - 2 ^ 32
      else if candidate + 2 ^ 32 - checkpoint < 2 ^ 31 then
        candidate + 2 ^ 32
      else
        candidate := by
  have := n.toNat_lt
  have := isn.toNat_lt
  have distance : (if n.rawValue < isn.rawValue then n.rawValue.toNat + 2 ^ 32 else n.rawValue.toNat) -
      isn.rawValue.toNat = offset n isn := by
    simp only [UInt32.lt_iff_toNat_lt, offset]
    split <;> omega
  have half : 2 ^ 32 / 2 = 2 ^ 31 := rfl
  simp only [unwrap, distance, half]

theorem wrap_unwrap (n isn : WrappingInt32) (checkpoint : Nat) :
    wrap (unwrap n isn checkpoint) isn = n := by
  have shape : unwrap n isn checkpoint % 2 ^ 32 = offset n isn % 2 ^ 32 := by
    rw [unwrap_offset]
    dsimp only
    split_ifs <;> omega
  rw [← wrap_offset n isn, wrap_eq_iff, wrap_offset, shape]

theorem unwrap_wrap_near (n checkpoint : Nat) (isn : WrappingInt32)
    (above : n < checkpoint + 2 ^ 31) (below : checkpoint < n + 2 ^ 31) :
    unwrap (wrap n isn) isn checkpoint = n := by
  rw [unwrap_offset, offset_wrap]
  dsimp only
  split_ifs <;> omega

theorem wrap_isn_advance (n shift : Nat) (isn : WrappingInt32) :
    wrap n (isn.advance shift) = (wrap n isn).advance shift := by
  apply WrappingInt32.ext_toNat
  rw [WrappingInt32.advance_toNat, wrap_toNat, wrap_toNat, WrappingInt32.advance_toNat]
  omega

theorem offset_advance (n isn : WrappingInt32) (shift : Nat) :
    offset (n.advance shift) (isn.advance shift) = offset n isn := by
  have := n.toNat_lt
  have := isn.toNat_lt
  rw [offset, offset, WrappingInt32.advance_toNat, WrappingInt32.advance_toNat]
  omega

theorem unwrap_advance (n isn : WrappingInt32) (shift checkpoint : Nat) :
    unwrap (n.advance shift) (isn.advance shift) checkpoint = unwrap n isn checkpoint := by
  rw [unwrap_offset, unwrap_offset, offset_advance]

theorem WrappingInt32.advance_inj {a b : WrappingInt32} {shift : Nat} :
    a.advance shift = b.advance shift ↔ a = b := by
  refine ⟨fun same => ?_, fun same => by rw [same]⟩
  have := a.toNat_lt
  have := b.toNat_lt
  have raw := congrArg (fun value => value.rawValue.toNat) same
  simp only [advance_toNat] at raw
  exact ext_toNat (by omega)

theorem WrappingInt32.advance_comm (a : WrappingInt32) (first second : Nat) :
    (a.advance first).advance second = (a.advance second).advance first := by
  apply ext_toNat
  simp only [advance_toNat]
  omega

theorem advance_offset (n isn : WrappingInt32) : isn.advance (offset n isn) = n := by
  rw [advance_eq_wrap, wrap_offset]

-- `unwrap` in the 64-bit words of the source, where every sum and difference may wrap.

def absoluteSeqnoMod64 (n isn : WrappingInt32) : UInt64 :=
  (if n.rawValue < isn.rawValue then n.rawValue.toUInt64 + (2 : UInt64) <<< 31 else n.rawValue.toUInt64) -
    isn.rawValue.toUInt64

def unwrap64 (n isn : WrappingInt32) (checkpoint : UInt64) : UInt64 :=
  let two32 := (2 : UInt64) <<< 31
  let checkpointQuotient := checkpoint / two32
  let absoluteSeqnoCandidate := absoluteSeqnoMod64 n isn + checkpointQuotient * two32
  if 1 ≤ checkpointQuotient ∧ checkpoint - (absoluteSeqnoCandidate - two32) < two32 / 2 then
    absoluteSeqnoCandidate - two32
  else if absoluteSeqnoCandidate + two32 - checkpoint < two32 / 2 then
    absoluteSeqnoCandidate + two32
  else
    absoluteSeqnoCandidate

theorem absoluteSeqnoMod64_toNat (n isn : WrappingInt32) : (absoluteSeqnoMod64 n isn).toNat = offset n isn := by
  have := n.toNat_lt
  have := isn.toNat_lt
  have two32 : ((2 : UInt64) <<< 31).toNat = 2 ^ 32 := rfl
  rw [absoluteSeqnoMod64, UInt64.toNat_sub, apply_ite UInt64.toNat, UInt64.toNat_add, two32]
  simp only [UInt32.lt_iff_toNat_lt, UInt32.toNat_toUInt64, offset]
  split_ifs <;> omega

-- Below 2 ^ 64 - 2 ^ 32 none of them does.
theorem unwrap64_toNat (n isn : WrappingInt32) {checkpoint : UInt64}
    (below : checkpoint.toNat < 2 ^ 64 - 2 ^ 32) :
    (unwrap64 n isn checkpoint).toNat = unwrap n isn checkpoint.toNat := by
  have remainder := absoluteSeqnoMod64_toNat n isn
  have small := offset_lt n isn
  have two32 : ((2 : UInt64) <<< 31).toNat = 2 ^ 32 := rfl
  have half : ((2 : UInt64) <<< 31 / 2).toNat = 2 ^ 31 := rfl
  have one : (1 : UInt64).toNat = 1 := rfl
  have candidate : (absoluteSeqnoMod64 n isn + checkpoint / (2 : UInt64) <<< 31 * (2 : UInt64) <<< 31).toNat =
      offset n isn + checkpoint.toNat / 2 ^ 32 * 2 ^ 32 := by
    rw [UInt64.toNat_add, UInt64.toNat_mul, UInt64.toNat_div, remainder, two32]
    omega
  simp only [unwrap64, unwrap_offset, UInt64.le_iff_toNat_le, UInt64.lt_iff_toNat_lt, apply_ite UInt64.toNat]
  rw [UInt64.toNat_sub, UInt64.toNat_sub, UInt64.toNat_sub, UInt64.toNat_add _ ((2 : UInt64) <<< 31), candidate,
    UInt64.toNat_div, two32, half, one]
  split_ifs <;> omega

/-- Of the 64-bit numbers that wrap to `n` none is nearer to `checkpoint` than `r`; where another is as near, `r` is
the one in the checkpoint's own block of 2 ^ 32. -/
structure Nearest (n isn : WrappingInt32) (checkpoint r : UInt64) : Prop where
  wraps : wrap r.toNat isn = n
  nearest : ∀ other : UInt64, wrap other.toNat isn = n → other ≠ r →
    Nat.dist r.toNat checkpoint.toNat ≤ Nat.dist other.toNat checkpoint.toNat
  tie : ∀ other : UInt64, wrap other.toNat isn = n → other ≠ r →
    Nat.dist other.toNat checkpoint.toNat = Nat.dist r.toNat checkpoint.toNat →
      r.toNat / 2 ^ 32 = checkpoint.toNat / 2 ^ 32

theorem offset_of_wrap {m : Nat} {n isn : WrappingInt32} (wraps : wrap m isn = n) : m % 2 ^ 32 = offset n isn := by
  rw [← wraps, offset_wrap]

theorem unwrap_bounds {n isn : WrappingInt32} {checkpoint r : Nat} (result : unwrap n isn checkpoint = r) :
    r ≤ checkpoint + 2 ^ 31 ∧ checkpoint ≤ r + 2 ^ 31 ∧
        (r = checkpoint + 2 ^ 31 ∨ checkpoint = r + 2 ^ 31 → r / 2 ^ 32 = checkpoint / 2 ^ 32) ∨
      checkpoint < r ∧ r < 2 ^ 32 := by
  have small := offset_lt n isn
  rw [unwrap_offset] at result
  dsimp only at result
  split_ifs at result <;> omega

theorem unwrap_dist {n isn : WrappingInt32} {checkpoint r other : Nat} (result : unwrap n isn checkpoint = r)
    (wraps : wrap other isn = n) (differ : other ≠ r) :
    Nat.dist r checkpoint ≤ Nat.dist other checkpoint ∧
      (Nat.dist other checkpoint = Nat.dist r checkpoint → r / 2 ^ 32 = checkpoint / 2 ^ 32) := by
  have residue : other % 2 ^ 32 = r % 2 ^ 32 := by
    rw [offset_of_wrap wraps, ← result, offset_of_wrap (wrap_unwrap n isn checkpoint)]
  have apart : other + 2 ^ 32 ≤ r ∨ r + 2 ^ 32 ≤ other :=
    (Nat.lt_or_gt_of_ne differ).imp (Nat.ModEq.add_le_of_lt residue) (Nat.ModEq.add_le_of_lt residue.symm)
  rcases unwrap_bounds result with ⟨above, below, edge⟩ | ⟨after, first⟩
  · -- The other number is a whole block away from `r`, and `r` is at most half a block away from `checkpoint`.
    have far : 2 ^ 32 ≤ Nat.dist other r := by rw [Nat.dist]; omega
    have near : Nat.dist r checkpoint ≤ 2 ^ 31 := by rw [Nat.dist]; omega
    have triangle := Nat.dist_comm checkpoint r ▸ Nat.dist.triangle_inequality other checkpoint r
    refine ⟨by omega, fun same => edge ?_⟩
    have half : Nat.dist r checkpoint = 2 ^ 31 := by omega
    rw [Nat.dist] at half
    omega
  · have beyond : r + 2 ^ 32 ≤ other := by omega
    rw [Nat.dist_eq_sub_of_le_right after.le, Nat.dist_eq_sub_of_le_right (by omega)]
    exact ⟨by omega, by omega⟩

theorem unwrap_nearest (isn : WrappingInt32) (checkpoint : UInt64) (below : checkpoint.toNat < 2 ^ 64 - 2 ^ 32) :
    (∀ n, Nearest n isn checkpoint (unwrap64 n isn checkpoint)) ∧
      ∀ value : UInt64, value.toNat < 2 ^ 64 - 2 ^ 32 → Nat.dist value.toNat checkpoint.toNat < 2 ^ 31 →
        unwrap64 (wrap value.toNat isn) isn checkpoint = value := by
  constructor
  · intro n
    have word := unwrap64_toNat n isn below
    have others (other : UInt64) (wraps : wrap other.toNat isn = n) (differ : other ≠ unwrap64 n isn checkpoint) :=
      unwrap_dist word.symm wraps fun same => differ (UInt64.toNat_inj.mp same)
    constructor
    · rw [word]
      exact wrap_unwrap n isn checkpoint.toNat
    · exact fun other wraps differ => (others other wraps differ).1
    · exact fun other wraps differ => (others other wraps differ).2
  · intro value _ near
    rw [Nat.dist] at near
    rw [← UInt64.toNat_inj, unwrap64_toNat _ isn below]
    exact unwrap_wrap_near _ _ _ (by omega) (by omega)

theorem unwrap_nearest_tie :
    unwrap64 ⟨0⟩ ⟨0⟩ 6442450944 = 4294967296 ∧ Nearest ⟨0⟩ ⟨0⟩ 6442450944 4294967296 ∧
      unwrap64 (wrap 4294967290 ⟨7⟩) ⟨7⟩ 4294967300 = 4294967290 :=
  ⟨by decide, (unwrap_nearest ⟨0⟩ 6442450944 (by decide)).1 ⟨0⟩,
    (unwrap_nearest ⟨7⟩ 4294967300 (by decide)).2 4294967290 (by decide) (by decide)⟩

end Sponge
