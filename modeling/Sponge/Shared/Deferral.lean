import Mathlib.Data.List.Basic
import Mathlib.Logic.Function.Basic
import Mathlib.Tactic.Common

set_option autoImplicit false

namespace Shared

variable {K V A : Type} [DecidableEq K]

/-- Items are handed on to the address of their key; those whose key has none yet wait until one is learned. -/
structure Deferral (K V A : Type) where
  known : K → Option A
  waiting : List (K × V)

structure Delivery (K V A : Type) where
  key : K
  item : V
  address : A

inductive DeferralOp (K V A : Type)
  | submit (key : K) (item : V)
  | learn (key : K) (address : A)
  | forget (gone : K → Bool)

namespace Deferral

def release (known : K → Option A) (waiting : List (K × V)) : List (Delivery K V A) :=
  waiting.filterMap fun entry => (known entry.1).map fun address => ⟨entry.1, entry.2, address⟩

def keep (known : K → Option A) (waiting : List (K × V)) : List (K × V) :=
  waiting.filter fun entry => (known entry.1).isNone

def step (state : Deferral K V A) : DeferralOp K V A → Deferral K V A
  | .submit key item =>
      match state.known key with
      | some _ => state
      | none => { state with waiting := state.waiting ++ [(key, item)] }
  | .learn key address =>
      let known := Function.update state.known key (some address)
      { known, waiting := keep known state.waiting }
  | .forget gone => { state with known := fun key => if gone key then none else state.known key }

def delivered (state : Deferral K V A) : DeferralOp K V A → List (Delivery K V A)
  | .submit key item => release state.known [(key, item)]
  | .learn key address => release (Function.update state.known key (some address)) state.waiting
  | .forget _ => []

def log : Deferral K V A → List (DeferralOp K V A) → List (List (Delivery K V A))
  | _, [] => []
  | state, op :: ops => state.delivered op :: log (state.step op) ops

def itemsFor (key : K) (entries : List (K × V)) : List V :=
  entries.filterMap fun entry => if entry.1 = key then some entry.2 else none

def deliveredFor (key : K) (log : List (Delivery K V A)) : List V :=
  itemsFor key (log.map fun delivery => (delivery.key, delivery.item))

def submittedFor (key : K) : DeferralOp K V A → List V
  | .submit key' item => itemsFor key [(key', item)]
  | _ => []

def learn (learned : K → Option A) : DeferralOp K V A → K → Option A
  | .learn key address => Function.update learned key (some address)
  | _ => learned

def Settled (state : Deferral K V A) : Prop := ∀ entry ∈ state.waiting, state.known entry.1 = none

def Informed (state : Deferral K V A) (learned : K → Option A) : Prop :=
  ∀ key address, state.known key = some address → learned key = some address

theorem itemsFor_append (key : K) (front back : List (K × V)) :
    itemsFor key (front ++ back) = itemsFor key front ++ itemsFor key back := List.filterMap_append

theorem deliveredFor_append (key : K) (front back : List (Delivery K V A)) :
    deliveredFor key (front ++ back) = deliveredFor key front ++ deliveredFor key back := by
  rw [deliveredFor, List.map_append, itemsFor_append]
  rfl

theorem itemsFor_cons (key : K) (entry : K × V) (rest : List (K × V)) :
    itemsFor key (entry :: rest) = if entry.1 = key then entry.2 :: itemsFor key rest else itemsFor key rest := by
  rw [itemsFor, List.filterMap_cons]
  split <;> rename_i found <;> split at found <;> simp_all [itemsFor]

theorem deliveredFor_cons (key : K) (delivery : Delivery K V A) (rest : List (Delivery K V A)) :
    deliveredFor key (delivery :: rest) =
      if delivery.key = key then delivery.item :: deliveredFor key rest else deliveredFor key rest :=
  itemsFor_cons key (delivery.key, delivery.item) _

theorem deliveredFor_release (known : K → Option A) (waiting : List (K × V)) (key : K) :
    deliveredFor key (release known waiting) = if (known key).isSome then itemsFor key waiting else [] := by
  induction waiting with
  | nil => simp [deliveredFor, release, itemsFor]
  | cons entry rest ih =>
      rw [itemsFor_cons, release, List.filterMap_cons]
      cases address : known entry.1 with
      | none =>
          refine ih.trans ?_
          by_cases same : entry.1 = key
          · simp [← same, address]
          · rw [if_neg same]
      | some value =>
          refine (deliveredFor_cons key _ _).trans ?_
          by_cases same : entry.1 = key
          · have known_key : (known key).isSome := by simp [← same, address]
            rw [if_pos known_key] at ih ⊢
            rw [if_pos same, if_pos same]
            exact congrArg _ ih
          · rw [if_neg same, if_neg same]
            exact ih

theorem itemsFor_keep (known : K → Option A) (waiting : List (K × V)) (key : K) :
    itemsFor key (keep known waiting) = if (known key).isSome then [] else itemsFor key waiting := by
  induction waiting with
  | nil => simp [keep, itemsFor]
  | cons entry rest ih =>
      rw [itemsFor_cons, keep, List.filter_cons]
      cases address : known entry.1 with
      | none =>
          refine (itemsFor_cons key entry _).trans ?_
          by_cases same : entry.1 = key
          · have unknown : ¬(known key).isSome := by simp [← same, address]
            rw [if_neg unknown] at ih ⊢
            rw [if_pos same, if_pos same]
            exact congrArg _ ih
          · rw [if_neg same, if_neg same]
            exact ih
      | some value =>
          refine ih.trans ?_
          by_cases same : entry.1 = key
          · simp [← same, address]
          · rw [if_neg same]

theorem Settled.itemsFor_eq_nil {state : Deferral K V A} (settled : state.Settled) {key : K}
    (known : (state.known key).isSome) : itemsFor key state.waiting = [] := by
  rw [itemsFor, List.filterMap_eq_nil_iff]
  intro entry waits
  rw [if_neg]
  rintro rfl
  rw [settled entry waits] at known
  simp at known

theorem Settled.release_learn {state : Deferral K V A} (settled : state.Settled) (key : K) (address : A) :
    release (Function.update state.known key (some address)) state.waiting =
      (itemsFor key state.waiting).map fun item => ⟨key, item, address⟩ := by
  rw [release, itemsFor, List.map_filterMap]
  refine List.filterMap_congr fun entry waits => ?_
  by_cases same : entry.1 = key
  · simp [same]
  · simp [same, settled entry waits]

theorem step_fifo {state : Deferral K V A} (settled : state.Settled) (op : DeferralOp K V A) (key : K) :
    deliveredFor key (state.delivered op) ++ itemsFor key (state.step op).waiting =
      itemsFor key state.waiting ++ submittedFor key op := by
  cases op with
  | submit submitted item =>
      rw [delivered, deliveredFor_release, submittedFor]
      cases address : state.known submitted with
      | some value =>
          -- What is handed on at once overtakes nothing, since nothing waits for a known key.
          by_cases same : submitted = key
          · subst same
            simp [step, address, settled.itemsFor_eq_nil (Option.isSome_of_eq_some address)]
          · simp [step, address, itemsFor, same]
      | none =>
          by_cases same : submitted = key
          · subst same
            simp [step, address, itemsFor_append]
          · simp [step, address, itemsFor, same]
  | learn learned address =>
      rw [delivered, deliveredFor_release, step, itemsFor_keep]
      simp only [submittedFor, List.append_nil]
      split <;> simp
  | forget gone => simp [delivered, deliveredFor, itemsFor, step, submittedFor]

theorem step_settled {state : Deferral K V A} (settled : state.Settled) (op : DeferralOp K V A) :
    (state.step op).Settled := by
  cases op with
  | submit key item =>
      simp only [step]
      cases address : state.known key with
      | some value => exact settled
      | none =>
          intro entry waits
          rcases List.mem_append.mp waits with before | last
          · exact settled entry before
          · rw [List.mem_singleton.mp last]
            exact address
  | learn key address =>
      intro entry waits
      exact Option.isNone_iff_eq_none.mp (List.mem_filter.mp waits).2
  | forget gone =>
      intro entry waits
      simp [step, settled entry waits]

theorem step_informed {state : Deferral K V A} {learned : K → Option A} (informed : state.Informed learned)
    (op : DeferralOp K V A) : (state.step op).Informed (learn learned op) := by
  intro key address found
  cases op with
  | submit submitted item =>
      refine informed key address ?_
      revert found
      simp only [step]
      split <;> exact id
  | learn updated value =>
      by_cases same : key = updated
      · subst same
        simpa [step, learn] using found
      · simp [step, learn, same] at found ⊢
        exact informed key address found
  | forget gone =>
      simp only [step] at found
      split at found
      · simp at found
      · exact informed key address found

theorem address_of_delivered {state : Deferral K V A} {learned : K → Option A} (informed : state.Informed learned)
    (op : DeferralOp K V A) :
    ∀ delivery ∈ state.delivered op, learn learned op delivery.key = some delivery.address := by
  intro delivery member
  cases op with
  | submit key item =>
      obtain ⟨entry, _, found⟩ := List.mem_filterMap.mp member
      obtain ⟨address, known, rfl⟩ := Option.map_eq_some_iff.mp found
      exact informed _ _ known
  | learn key value =>
      obtain ⟨entry, _, found⟩ := List.mem_filterMap.mp member
      obtain ⟨address, known, rfl⟩ := Option.map_eq_some_iff.mp found
      exact step_informed informed (.learn key value) _ _ known
  | forget gone => simp [delivered] at member

section Runs

theorem run_settled {state : Deferral K V A} (settled : state.Settled) (ops : List (DeferralOp K V A)) :
    (ops.foldl step state).Settled := by
  induction ops generalizing state with
  | nil => exact settled
  | cons op ops ih => exact ih (step_settled settled op)

theorem run_addresses {state : Deferral K V A} {learned : K → Option A} (informed : state.Informed learned)
    (ops : List (DeferralOp K V A)) (n : Nat) (deliveries : List (Delivery K V A))
    (handed : (state.log ops)[n]? = some deliveries) :
    ∀ delivery ∈ deliveries, (ops.take (n + 1)).foldl learn learned delivery.key = some delivery.address := by
  induction ops generalizing state learned n with
  | nil => simp [log] at handed
  | cons op ops ih =>
      rw [List.take_succ_cons, List.foldl_cons]
      cases n with
      | zero =>
          simp only [log, List.getElem?_cons_zero, Option.some.injEq] at handed
          subst handed
          exact address_of_delivered informed op
      | succ n => exact ih (step_informed informed op) n handed

theorem run_fifo {state : Deferral K V A} (settled : state.Settled) (ops : List (DeferralOp K V A)) (key : K) :
    deliveredFor key (state.log ops).flatten ++ itemsFor key (ops.foldl step state).waiting =
      itemsFor key state.waiting ++ ops.flatMap (submittedFor key) := by
  induction ops generalizing state with
  | nil => simp [log, deliveredFor, itemsFor]
  | cons op ops ih =>
      rw [log, List.flatten_cons, deliveredFor_append, List.append_assoc, List.foldl_cons,
        ih (step_settled settled op), ← List.append_assoc, step_fifo settled, List.flatMap_cons, List.append_assoc]

end Runs

end Deferral

end Shared
