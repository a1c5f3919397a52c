import Mathlib.Algebra.Order.Ring.Nat
import Mathlib.Tactic.Common

set_option autoImplicit false

namespace Shared

variable {γ β ε σ : Type}

/-- Taking elements off the front of a list of segments: a whole segment is dropped, a part of one is cut off, and to
run out of segments is an error. -/
def removeFront (content : γ → List β) (cut : γ → Nat → Except ε γ) (thrown : ε) :
    List γ → Nat → List γ × Except ε Unit
  | segs, 0 => (segs, .ok ())
  | [], _ + 1 => ([], .error thrown)
  | seg :: rest, n + 1 =>
      if n + 1 < (content seg).length then
        match cut seg (n + 1) with
        | .error failed => (seg :: rest, .error failed)
        | .ok shorter => (shorter :: rest, .ok ())
      else
        removeFront content cut thrown rest (n + 1 - (content seg).length)

def removeEach (remove : σ → Nat → σ × Except ε Unit) : σ → List Nat → σ × Except ε Unit
  | state, [] => (state, .ok ())
  | state, n :: counts =>
      match remove state n with
      | (state, .error failed) => (state, .error failed)
      | (state, .ok ()) => removeEach remove state counts

structure Cuts (content : γ → List β) (cut : γ → Nat → Except ε γ) : Prop where
  drops : ∀ seg n, n < (content seg).length →
    ∃ shorter, cut seg n = .ok shorter ∧ content shorter = (content seg).drop n
  composes : ∀ seg m n shorter, cut seg m = .ok shorter → m + n < (content seg).length →
    cut shorter n = cut seg (m + n)

section Content

variable (content : γ → List β)

theorem foldl_append_content (segs : List γ) (front : List β) :
    segs.foldl (fun all seg => all ++ content seg) front = front ++ segs.flatMap content := by
  induction segs generalizing front with
  | nil => rw [List.foldl_nil, List.flatMap_nil, List.append_nil]
  | cons seg rest ih => rw [List.foldl_cons, ih, List.flatMap_cons, List.append_assoc]

theorem foldl_add_length (segs : List γ) (before : Nat) :
    segs.foldl (fun total seg => total + (content seg).length) before = before + (segs.flatMap content).length := by
  induction segs generalizing before with
  | nil => rfl
  | cons seg rest ih => rw [List.foldl_cons, ih, List.flatMap_cons, List.length_append, Nat.add_assoc]

end Content

section Removal

variable {content : γ → List β} {cut : γ → Nat → Except ε γ} {thrown : ε}

theorem removeFront_zero (segs : List γ) : removeFront content cut thrown segs 0 = (segs, .ok ()) := by
  cases segs <;> rfl

theorem removeFront_whole {seg : γ} {n : Nat} (positive : 0 < n) (whole : (content seg).length ≤ n) (rest : List γ) :
    removeFront content cut thrown (seg :: rest) n =
      removeFront content cut thrown rest (n - (content seg).length) := by
  obtain ⟨n, rfl⟩ := Nat.exists_eq_add_of_lt positive
  rw [Nat.zero_add] at whole ⊢
  rw [removeFront, if_neg (Nat.not_lt.mpr whole)]

theorem removeFront_part {seg shorter : γ} {n : Nat} (positive : 0 < n) (part : n < (content seg).length)
    (shortened : cut seg n = .ok shorter) (rest : List γ) :
    removeFront content cut thrown (seg :: rest) n = (shorter :: rest, .ok ()) := by
  obtain ⟨n, rfl⟩ := Nat.exists_eq_add_of_lt positive
  rw [Nat.zero_add] at part shortened ⊢
  rw [removeFront, if_pos part, shortened]

theorem removeFront_beyond {segs : List γ} {n : Nat} (beyond : (segs.flatMap content).length < n) :
    removeFront content cut thrown segs n = ([], .error thrown) := by
  induction segs generalizing n with
  | nil =>
      obtain ⟨n, rfl⟩ := Nat.exists_eq_add_of_lt beyond
      rfl
  | cons seg rest ih =>
      rw [List.flatMap_cons, List.length_append] at beyond
      rw [removeFront_whole (by omega) (by omega), ih (by omega)]

variable (cuts : Cuts content cut)
include cuts

theorem removeFront_within {segs : List γ} {n : Nat} (fits : n ≤ (segs.flatMap content).length) :
    ∃ after, removeFront content cut thrown segs n = (after, .ok ()) ∧
      after.flatMap content = (segs.flatMap content).drop n := by
  induction segs generalizing n with
  | nil =>
      obtain rfl : n = 0 := by simpa using fits
      exact ⟨[], rfl, rfl⟩
  | cons seg rest ih =>
      rw [List.flatMap_cons, List.length_append] at fits
      rcases Nat.eq_zero_or_pos n with rfl | positive
      · exact ⟨seg :: rest, rfl, rfl⟩
      · rcases Nat.lt_or_ge n (content seg).length with part | whole
        · obtain ⟨shorter, shortened, dropped⟩ := cuts.drops seg n part
          refine ⟨shorter :: rest, removeFront_part positive part shortened rest, ?_⟩
          rw [List.flatMap_cons, List.flatMap_cons, dropped, List.drop_append_of_le_length part.le]
        · obtain ⟨after, removed, dropped⟩ := ih (n := n - (content seg).length) (by omega)
          refine ⟨after, (removeFront_whole positive whole rest).trans removed, ?_⟩
          rw [dropped, List.flatMap_cons, List.drop_append, List.drop_eq_nil_of_le whole, List.nil_append]

theorem removeFront_add {segs after : List γ} {m : Nat}
    (removed : removeFront content cut thrown segs m = (after, .ok ())) (n : Nat) :
    removeFront content cut thrown after n = removeFront content cut thrown segs (m + n) := by
  induction segs generalizing m with
  | nil =>
      cases m with
      | zero =>
          obtain rfl : [] = after := congrArg Prod.fst removed
          rw [Nat.zero_add]
      | succ m => exact absurd (congrArg Prod.snd removed) (by simp [removeFront])
  | cons seg rest ih =>
      rcases Nat.eq_zero_or_pos m with rfl | positive
      · obtain rfl : seg :: rest = after := congrArg Prod.fst removed
        rw [Nat.zero_add]
      · rcases Nat.lt_or_ge m (content seg).length with part | whole
        · obtain ⟨shorter, shortened, dropped⟩ := cuts.drops seg m part
          rw [removeFront_part positive part shortened] at removed
          obtain rfl : shorter :: rest = after := congrArg Prod.fst removed
          have length : (content shorter).length = (content seg).length - m := by rw [dropped, List.length_drop]
          rcases Nat.eq_zero_or_pos n with rfl | more
          · rw [removeFront_zero, Nat.add_zero, removeFront_part positive part shortened]
          · -- The second removal ends in the same segment, or drops what is left of it.
            rcases Nat.lt_or_ge (m + n) (content seg).length with inside | across
            · obtain ⟨shortest, again, _⟩ := cuts.drops shorter n (by omega)
              have once := (cuts.composes seg m n shorter shortened inside).symm.trans again
              rw [removeFront_part more (by omega) again, removeFront_part (by omega) inside once]
            · rw [removeFront_whole more (by omega), removeFront_whole (by omega) across]
              congr 1
              omega
        · rw [removeFront_whole positive whole] at removed
          rw [ih removed, removeFront_whole (by omega) (by omega)]
          congr 1
          omega

theorem removeEach_removeFront (segs : List γ) (counts : List Nat) :
    removeEach (removeFront content cut thrown) segs counts = removeFront content cut thrown segs counts.sum := by
  induction counts generalizing segs with
  | nil => exact (removeFront_zero segs).symm
  | cons n counts ih =>
      rw [removeEach, List.sum_cons]
      rcases Nat.lt_or_ge (segs.flatMap content).length n with beyond | fits
      · rw [removeFront_beyond beyond, removeFront_beyond (by omega)]
      · obtain ⟨after, removed, _⟩ : ∃ after, removeFront content cut thrown segs n = (after, .ok ()) ∧ _ :=
          removeFront_within cuts fits
        rw [removed, ← removeFront_add cuts removed]
        exact ih after

end Removal

theorem removeEach_map {τ : Type} {remove : σ → Nat → σ × Except ε Unit} {remove' : τ → Nat → τ × Except ε Unit}
    {f : σ → τ} (same : ∀ state n, remove' (f state) n = Prod.map f id (remove state n)) (state : σ) (counts : List Nat) :
    removeEach remove' (f state) counts = Prod.map f id (removeEach remove state counts) := by
  induction counts generalizing state with
  | nil => rfl
  | cons n counts ih =>
      rw [removeEach, removeEach, same]
      cases removed : remove state n with
      | mk after result =>
          cases result with
          | error failed => rfl
          | ok _ => exact ih after

end Shared
