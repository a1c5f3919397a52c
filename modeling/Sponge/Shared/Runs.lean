import Mathlib.Tactic.Common

set_option autoImplicit false

namespace Shared

variable {σ ω : Type}

inductive Reaches (step : σ → ω → σ) (allowed : σ → ω → Prop) (start : σ) : σ → Prop
  | start : Reaches step allowed start start
  | step {state : σ} {op : ω} (before : Reaches step allowed start state) (legal : allowed state op) :
      Reaches step allowed start (step state op)

def AllAllowed (step : σ → ω → σ) (allowed : σ → ω → Prop) : σ → List ω → Prop
  | _, [] => True
  | state, op :: ops => allowed state op ∧ AllAllowed step allowed (step state op) ops

instance decidableAllAllowed (step : σ → ω → σ) (allowed : σ → ω → Prop)
    [legal : ∀ state op, Decidable (allowed state op)] :
    (state : σ) → (ops : List ω) → Decidable (AllAllowed step allowed state ops)
  | _, [] => inferInstanceAs (Decidable True)
  | state, op :: ops =>
      have := legal state op
      have := decidableAllAllowed step allowed (step state op) ops
      inferInstanceAs (Decidable (_ ∧ _))

theorem allAllowed_append {step : σ → ω → σ} {allowed : σ → ω → Prop} {state : σ} {front back : List ω} :
    AllAllowed step allowed state (front ++ back) ↔
      AllAllowed step allowed state front ∧ AllAllowed step allowed (front.foldl step state) back := by
  induction front generalizing state with
  | nil => simp [AllAllowed]
  | cons op front ih => simp [AllAllowed, ih, and_assoc]

theorem allAllowed_iff {step : σ → ω → σ} {allowed : σ → ω → Prop} {state : σ} {ops : List ω} :
    AllAllowed step allowed state ops ↔
      ∀ front op back, ops = front ++ op :: back → allowed (front.foldl step state) op := by
  constructor
  · rintro legal front op back rfl
    exact (allAllowed_append.mp legal).2.1
  · intro each
    induction ops generalizing state with
    | nil => trivial
    | cons op ops ih =>
        exact ⟨each [] op ops rfl, ih fun front next back split => each (op :: front) next back (by simp [split])⟩

theorem allAllowed_imp {step : σ → ω → σ} {allowed allowed' : σ → ω → Prop} (inv : σ → Prop)
    (follows : ∀ state op, inv state → allowed state op → allowed' state op ∧ inv (step state op)) {state : σ}
    (initial : inv state) {ops : List ω} (legal : AllAllowed step allowed state ops) :
    AllAllowed step allowed' state ops := by
  induction ops generalizing state with
  | nil => trivial
  | cons op ops ih =>
      obtain ⟨now, after⟩ := follows state op initial legal.1
      exact ⟨now, ih after legal.2⟩

theorem allAllowed_congr {step : σ → ω → σ} {allowed allowed' : σ → ω → Prop} (inv : σ → Prop)
    (same : ∀ state op, inv state → (allowed state op ↔ allowed' state op))
    (preserve : ∀ state op, inv state → allowed state op → inv (step state op)) {state : σ} (initial : inv state)
    (ops : List ω) : AllAllowed step allowed state ops ↔ AllAllowed step allowed' state ops where
  mp := allAllowed_imp inv (fun state op before legal => ⟨(same state op before).mp legal, preserve state op before legal⟩)
    initial
  mpr := allAllowed_imp inv (fun state op before legal' =>
    have legal := (same state op before).mpr legal'
    ⟨legal, preserve state op before legal⟩) initial

namespace Reaches

variable {step : σ → ω → σ} {allowed : σ → ω → Prop} {start state : σ}

theorem invariant (run : Reaches step allowed start state) (inv : σ → Prop) (initial : inv start)
    (preserve : ∀ state op, inv state → allowed state op → inv (step state op)) : inv state := by
  induction run with
  | start => exact initial
  | step _ legal ih => exact preserve _ _ ih legal

theorem foldl (run : Reaches step allowed start state) {ops : List ω}
    (legal : AllAllowed step allowed state ops) : Reaches step allowed start (ops.foldl step state) := by
  induction ops generalizing state with
  | nil => exact run
  | cons op ops ih => exact ih (run.step legal.1) legal.2

end Reaches

end Shared
