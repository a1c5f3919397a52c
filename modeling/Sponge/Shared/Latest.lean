import Mathlib.Data.List.Infix
import Mathlib.Tactic.Common

set_option autoImplicit false

namespace Shared

variable {ω β : Type} {tells : ω → Option β} {ops : List ω} {value : β}

def Latest (tells : ω → Option β) (ops : List ω) (value : β) (since : List ω) : Prop :=
  ∃ front op, ops = front ++ op :: since ∧ tells op = some value ∧ ∀ later ∈ since, tells later = none

theorem not_latest_nil {since : List ω} : ¬Latest tells [] value since := by
  rintro ⟨front, op, split, _⟩
  simp at split

theorem latest_snoc {op : ω} {since : List ω} :
    Latest tells (ops ++ [op]) value since ↔
      tells op = some value ∧ since = [] ∨
        tells op = none ∧ ∃ before, Latest tells ops value before ∧ since = before ++ [op] := by
  constructor
  · rintro ⟨front, told, split, tellsIt, silent⟩
    rcases List.eq_nil_or_concat' since with rfl | ⟨before, last, rfl⟩
    · obtain ⟨rfl, same⟩ := List.append_inj' split rfl
      rw [List.cons.injEq] at same
      exact Or.inl ⟨same.1 ▸ tellsIt, rfl⟩
    · rw [← List.cons_append, ← List.append_assoc] at split
      obtain ⟨rfl, same⟩ := List.append_inj' split rfl
      rw [List.cons.injEq] at same
      obtain ⟨rfl, _⟩ := same
      refine Or.inr ⟨silent op (by simp), before, ⟨front, told, rfl, tellsIt, ?_⟩, rfl⟩
      exact fun later member => silent later (by simp [member])
  · rintro (⟨tellsIt, rfl⟩ | ⟨quiet, before, ⟨front, told, rfl, tellsIt, silent⟩, rfl⟩)
    · exact ⟨ops, op, rfl, tellsIt, by simp⟩
    · refine ⟨front, told, by simp, tellsIt, ?_⟩
      intro later member
      rcases List.mem_append.mp member with earlier | last
      · exact silent later earlier
      · rw [List.mem_singleton.mp last, quiet]

theorem latest_snoc_told {op : ω} {told : β} (tellsIt : tells op = some told) {since : List ω} :
    Latest tells (ops ++ [op]) value since ↔ told = value ∧ since = [] := by
  simp [latest_snoc, tellsIt]

theorem latest_snoc_quiet {op : ω} (quiet : tells op = none) {since : List ω} :
    Latest tells (ops ++ [op]) value since ↔ ∃ before, Latest tells ops value before ∧ since = before ++ [op] := by
  simp [latest_snoc, quiet]

end Shared
