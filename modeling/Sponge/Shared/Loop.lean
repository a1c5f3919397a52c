import Mathlib.Logic.Function.Iterate
import Mathlib.Tactic.Common

set_option autoImplicit false

namespace Shared

variable {σ τ : Type}

def loop (guard : σ → Bool) (body : σ → σ) : Nat → σ → σ
  | 0, state => state
  | fuel + 1, state => if guard state then loop guard body fuel (body state) else state

theorem loop_of_stopped {guard : σ → Bool} (body : σ → σ) (fuel : Nat) {state : σ} (stopped : guard state = false) :
    loop guard body fuel state = state := by
  cases fuel <;> simp [loop, stopped]

theorem loop_invariant (guard : σ → Bool) (body : σ → σ) (inv : σ → Prop)
    (step : ∀ state, guard state = true → inv state → inv (body state))
    (fuel : Nat) (state : σ) (initial : inv state) : inv (loop guard body fuel state) := by
  induction fuel generalizing state with
  | zero => exact initial
  | succ fuel ih =>
      simp only [loop]
      split
      next running => exact ih _ (step state running initial)
      next => exact initial

structure Exits (guard : σ → Bool) (body : σ → σ) (state : σ) (rounds : Nat) : Prop where
  running : ∀ k < rounds, guard (body^[k] state) = true
  stopped : guard (body^[rounds] state) = false

section Exits

variable {guard : σ → Bool} {body : σ → σ} {state : σ} {rounds : Nat}

theorem exits_now (stopped : guard state = false) : Exits guard body state 0 :=
  ⟨fun _ early => absurd early (Nat.not_lt_zero _), stopped⟩

theorem Exits.later (running : guard state = true) (exits : Exits guard body (body state) rounds) :
    Exits guard body state (rounds + 1) := by
  refine ⟨fun k early => ?_, exits.stopped⟩
  cases k with
  | zero => exact running
  | succ k => exact exits.running k (Nat.lt_of_succ_lt_succ early)

theorem Exits.loop_eq (exits : Exits guard body state rounds) {fuel : Nat} (enough : rounds ≤ fuel) :
    loop guard body fuel state = body^[rounds] state := by
  induction rounds generalizing state fuel with
  | zero => exact loop_of_stopped body fuel exits.stopped
  | succ rounds ih =>
      obtain ⟨fuel, rfl⟩ : ∃ less, fuel = less + 1 := ⟨fuel - 1, by omega⟩
      have running : guard state = true := exits.running 0 (Nat.succ_pos _)
      rw [loop, if_pos running]
      exact ih ⟨fun k early => exits.running (k + 1) (Nat.succ_lt_succ early), exits.stopped⟩ (by omega)

theorem Exits.invariant (exits : Exits guard body state rounds) {inv : σ → Prop}
    (step : ∀ state, guard state = true → inv state → inv (body state)) (initial : inv state) :
    ∀ k ≤ rounds, inv (body^[k] state) := by
  intro k le
  induction k with
  | zero => exact initial
  | succ k ih =>
      rw [Function.iterate_succ_apply']
      exact step _ (exits.running k le) (ih (Nat.le_of_succ_le le))

theorem exits_of_decrease {inv : σ → Prop} (rank : σ → Nat)
    (step : ∀ state, guard state = true → inv state → inv (body state))
    (decrease : ∀ state, guard state = true → inv state → rank (body state) < rank state) (initial : inv state) :
    ∃ rounds ≤ rank state, Exits guard body state rounds := by
  induction bound : rank state using Nat.strongRecOn generalizing state with
  | ind n ih =>
      cases running : guard state with
      | false => exact ⟨0, Nat.zero_le _, exits_now running⟩
      | true =>
          have less := decrease state running initial
          obtain ⟨rounds, few, exits⟩ := ih _ (by omega) (step state running initial) rfl
          exact ⟨rounds + 1, by omega, exits.later running⟩

end Exits

theorem loop_exits (guard : σ → Bool) (body : σ → σ) (inv : σ → Prop) (rank : σ → Nat)
    (step : ∀ state, guard state = true → inv state → inv (body state))
    (decrease : ∀ state, guard state = true → inv state → rank (body state) < rank state)
    (fuel : Nat) (state : σ) (initial : inv state) (enough : rank state ≤ fuel) :
    guard (loop guard body fuel state) = false := by
  obtain ⟨rounds, few, exits⟩ := exits_of_decrease rank step decrease initial
  rw [exits.loop_eq (Nat.le_trans few enough)]
  exact exits.stopped

theorem loop_simulation (guard : σ → Bool) (body : σ → σ) (guard' : τ → Bool) (body' : τ → τ)
    (rel : σ → τ → Prop) (same : ∀ s t, rel s t → guard s = guard' t)
    (step : ∀ s t, rel s t → rel (body s) (body' t))
    (fuel : Nat) (s : σ) (t : τ) (initial : rel s t) :
    rel (loop guard body fuel s) (loop guard' body' fuel t) := by
  induction fuel generalizing s t with
  | zero => exact initial
  | succ fuel ih =>
      simp only [loop, same s t initial]
      split
      next => exact ih _ _ (step s t initial)
      next => exact initial

end Shared
