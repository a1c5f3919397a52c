import Mathlib.Algebra.Order.Ring.Nat
import Mathlib.Data.List.Infix
import Mathlib.Tactic.Common

set_option autoImplicit false

namespace Shared

variable {α : Type}

inductive Chain (width : α → Nat) (fits : Nat → α → Prop) : Nat → List α → Nat → Prop
  | nil (start : Nat) : Chain width fits start [] start
  | cons {start stop : Nat} {item : α} {rest : List α} (head : fits start item)
      (tail : Chain width fits (start + width item) rest stop) :
      Chain width fits start (item :: rest) stop

namespace Chain

variable {width : α → Nat} {fits : Nat → α → Prop}

theorem total {start stop : Nat} {items : List α} (chain : Chain width fits start items stop) :
    start + (items.map width).sum = stop := by
  induction chain with
  | nil => simp
  | cons _ _ ih => simp only [List.map_cons, List.sum_cons]; omega

theorem le {start stop : Nat} {items : List α} (chain : Chain width fits start items stop) :
    start ≤ stop := by
  have := chain.total
  omega

theorem mono {fits' : Nat → α → Prop} {start stop : Nat} {items : List α}
    (weaken : ∀ position item, item ∈ items → fits position item → fits' position item)
    (chain : Chain width fits start items stop) : Chain width fits' start items stop := by
  induction chain with
  | nil => exact .nil _
  | cons head _ ih =>
      exact .cons (weaken _ _ (by simp) head)
        (ih fun position item member => weaken position item (by simp [member]))

theorem mono_within {fits' : Nat → α → Prop} {start stop : Nat} {items : List α}
    (weaken : ∀ position item, position + width item ≤ stop → fits position item → fits' position item)
    (chain : Chain width fits start items stop) : Chain width fits' start items stop := by
  induction chain with
  | nil => exact .nil _
  | cons head tail ih => exact .cons (weaken _ _ tail.le head) (ih weaken)

theorem append {start middle stop : Nat} {front back : List α}
    (left : Chain width fits start front middle) (right : Chain width fits middle back stop) :
    Chain width fits start (front ++ back) stop := by
  induction left with
  | nil => exact right
  | cons head _ ih => exact .cons head (ih right)

theorem snoc {start stop : Nat} {items : List α} {item : α}
    (chain : Chain width fits start items stop) (last : fits stop item) :
    Chain width fits start (items ++ [item]) (stop + width item) :=
  chain.append (.cons last (.nil _))

theorem split {start stop : Nat} (front : List α) {back : List α}
    (chain : Chain width fits start (front ++ back) stop) :
    ∃ middle, Chain width fits start front middle ∧ Chain width fits middle back stop := by
  induction front generalizing start with
  | nil => exact ⟨start, .nil _, chain⟩
  | cons item front ih =>
      cases chain with
      | cons head tail =>
          obtain ⟨middle, left, right⟩ := ih tail
          exact ⟨middle, .cons head left, right⟩

theorem unsnoc {start stop : Nat} {items : List α} {item : α}
    (chain : Chain width fits start (items ++ [item]) stop) :
    ∃ middle, Chain width fits start items middle ∧ fits middle item ∧ middle + width item = stop := by
  obtain ⟨middle, front, last⟩ := chain.split
  cases last with
  | cons fits rest =>
      cases rest with
      | nil => exact ⟨middle, front, fits, rfl⟩

theorem position {start stop : Nat} {items : List α} (chain : Chain width fits start items stop)
    {item : α} (member : item ∈ items) :
    ∃ position, start ≤ position ∧ position + width item ≤ stop ∧ fits position item := by
  obtain ⟨front, back, rfl⟩ := List.append_of_mem member
  obtain ⟨middle, left, right⟩ := chain.split
  cases right with
  | cons head tail => exact ⟨middle, left.le, tail.le, head⟩

theorem getElem? {start stop : Nat} {items : List α} (chain : Chain width fits start items stop)
    {k : Nat} {item : α} (here : items[k]? = some item) :
    fits (start + ((items.take k).map width).sum) item := by
  induction chain generalizing k with
  | nil => simp at here
  | cons head _ ih =>
      cases k with
      | zero =>
          simp only [List.getElem?_cons_zero, Option.some.injEq] at here
          simpa [← here] using head
      | succ k =>
          have later := ih (by simpa using here)
          simpa [Nat.add_assoc] using later

end Chain

end Shared
