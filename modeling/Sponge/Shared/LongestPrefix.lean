import Mathlib.Data.Nat.ModEq
import Mathlib.Tactic.Common

set_option autoImplicit false

namespace Shared

structure PrefixScheme (R : Type) where
  width : Nat
  network : R → Nat
  length : R → Nat

namespace PrefixScheme

variable {R : Type} (scheme : PrefixScheme R)

def key (route : R) : Nat × Nat := (scheme.network route, scheme.length route)

def block (route : R) : Nat := 2 ^ (scheme.width - scheme.length route)

def Aligned (route : R) : Prop := scheme.network route % scheme.block route = 0

def Covers (route : R) (address : Nat) : Prop :=
  scheme.network route / scheme.block route = address / scheme.block route

instance (route : R) : Decidable (scheme.Aligned route) := inferInstanceAs (Decidable (_ = _))

instance (route : R) (address : Nat) : Decidable (scheme.Covers route address) := inferInstanceAs (Decidable (_ = _))

def installed (routes : List R) (key : Nat × Nat) : Option R :=
  (routes.filter fun route => scheme.key route = key).getLast?

structure LongestMatch (routes : List R) (address : Nat) (route : R) : Prop where
  installed : scheme.installed routes (scheme.key route) = some route
  covers : scheme.Covers route address
  longest : ∀ other, scheme.installed routes (scheme.key other) = some other → scheme.Covers other address →
    scheme.length other ≤ scheme.length route

/-- One exact lookup for each length, the longest first, with the bits below cleared. -/
def search (lookup : Nat × Nat → Option R) (address : Nat) : Option R :=
  (List.range (scheme.width + 1)).findSome? fun i => lookup (address / 2 ^ i * 2 ^ i, scheme.width - i)

section Lookups

theorem findSome?_range {β : Type} (f : Nat → Option β) (n : Nat) (value : β) :
    (List.range n).findSome? f = some value ↔ ∃ i < n, f i = some value ∧ ∀ j < i, f j = none := by
  induction n with
  | zero => simp
  | succ n ih =>
      rw [List.range_succ, List.findSome?_append, Option.or_eq_some_iff, ih]
      constructor
      · rintro (⟨i, within, found, earlier⟩ | ⟨nothing, last⟩)
        · exact ⟨i, by omega, found, earlier⟩
        · refine ⟨n, Nat.lt_succ_self n, by simpa using last, fun j before => ?_⟩
          exact List.findSome?_eq_none_iff.mp nothing j (List.mem_range.mpr before)
      · rintro ⟨i, within, found, earlier⟩
        rcases Nat.lt_succ_iff_lt_or_eq.mp within with before | rfl
        · exact .inl ⟨i, before, found, earlier⟩
        · refine .inr ⟨List.findSome?_eq_none_iff.mpr fun j before => earlier j (List.mem_range.mp before), ?_⟩
          simpa using found

theorem findSome?_differs {β : Type} {f g : Nat → Option β} {value : β} (indices : List Nat)
    (differs : ∀ i ∈ indices, f i = some value ∨ f i = g i) :
    indices.findSome? f = some value ∨ indices.findSome? f = indices.findSome? g := by
  induction indices with
  | nil => exact .inr rfl
  | cons i rest ih =>
      rw [List.findSome?_cons, List.findSome?_cons]
      rcases differs i (List.mem_cons_self ..) with answers | same
      · rw [answers]
        exact .inl rfl
      · rw [same]
        cases g i with
        | some found => exact .inr rfl
        | none => exact ih fun j later => differs j (List.mem_cons_of_mem _ later)

variable {scheme}

theorem mem_of_installed {routes : List R} {key : Nat × Nat} {route : R}
    (found : scheme.installed routes key = some route) : route ∈ routes ∧ scheme.key route = key := by
  have member := List.mem_filter.mp (List.mem_of_getLast? found)
  exact ⟨member.1, by simpa using member.2⟩

theorem installed_append (front back : List R) (key : Nat × Nat) :
    scheme.installed (front ++ back) key = (scheme.installed back key).or (scheme.installed front key) := by
  rw [installed, List.filter_append, List.getLast?_append]
  rfl

theorem installed_filter {keep : R → Bool} {routes : List R} {key : Nat × Nat}
    (kept : ∀ route ∈ routes, scheme.key route = key → keep route) :
    scheme.installed (routes.filter keep) key = scheme.installed routes key := by
  rw [installed, List.filter_filter]
  refine congrArg List.getLast? (List.filter_congr fun route member => ?_)
  by_cases same : scheme.key route = key
  · simp [same, kept route member same]
  · simp [same]

end Lookups

variable {scheme} {routes : List R} {route : R} {address : Nat}

theorem covers_of_key {i : Nat} (within : i ≤ scheme.width)
    (same : scheme.key route = (address / 2 ^ i * 2 ^ i, scheme.width - i)) :
    scheme.Aligned route ∧ scheme.Covers route address ∧ scheme.length route = scheme.width - i := by
  obtain ⟨network, length⟩ := Prod.mk.inj same
  have block : scheme.block route = 2 ^ i := by
    rw [block, length, Nat.sub_sub_self within]
  refine ⟨?_, ?_, length⟩
  · rw [Aligned, network, block, Nat.mul_mod_left]
  · rw [Covers, network, block, Nat.mul_div_cancel _ (Nat.two_pow_pos i)]

theorem key_of_covers (fits : scheme.length route ≤ scheme.width) (aligned : scheme.Aligned route)
    (covers : scheme.Covers route address) :
    scheme.key route =
      (address / 2 ^ (scheme.width - scheme.length route) * 2 ^ (scheme.width - scheme.length route),
        scheme.width - (scheme.width - scheme.length route)) := by
  have network : scheme.network route = address / scheme.block route * scheme.block route := by
    rw [← covers]
    exact (Nat.div_mul_cancel (Nat.dvd_of_mod_eq_zero aligned)).symm
  rw [Nat.sub_sub_self fits]
  exact Prod.ext network rfl

/-- The lookups by exact key see the aligned routes only, and among them the longest match. -/
theorem search_eq_some_iff (fits : ∀ route ∈ routes, scheme.length route ≤ scheme.width) :
    scheme.search (scheme.installed routes) address = some route ↔
      scheme.LongestMatch (routes.filter fun route => scheme.Aligned route) address route := by
  have visible {other : R} (aligned : scheme.Aligned other) :
      scheme.installed (routes.filter fun route => scheme.Aligned route) (scheme.key other) =
        scheme.installed routes (scheme.key other) := by
    refine installed_filter fun route _ same => ?_
    obtain ⟨network, length⟩ := Prod.mk.inj same
    simpa [Aligned, block, network, length] using aligned
  rw [search, findSome?_range]
  constructor
  · rintro ⟨i, within, found, earlier⟩
    obtain ⟨_, same⟩ := mem_of_installed found
    obtain ⟨aligned, covers, length⟩ := covers_of_key (Nat.le_of_lt_succ within) same
    refine ⟨by rw [visible aligned, same, found], covers, fun other present coversOther => ?_⟩
    have member := List.mem_filter.mp (mem_of_installed present).1
    have alignedOther : scheme.Aligned other := by simpa using member.2
    have fitsOther := fits other member.1
    by_contra longer
    rw [visible alignedOther, key_of_covers fitsOther alignedOther coversOther,
      earlier _ (by omega)] at present
    simp at present
  · intro longest
    have member := List.mem_filter.mp (mem_of_installed longest.installed).1
    have aligned : scheme.Aligned route := by simpa using member.2
    have fitsRoute := fits route member.1
    refine ⟨scheme.width - scheme.length route, by omega, ?_, fun j before => ?_⟩
    · rw [← key_of_covers fitsRoute aligned longest.covers, ← visible aligned]
      exact longest.installed
    · cases present : scheme.installed routes (address / 2 ^ j * 2 ^ j, scheme.width - j) with
      | none => rfl
      | some other =>
          obtain ⟨_, same⟩ := mem_of_installed present
          obtain ⟨alignedOther, coversOther, length⟩ := covers_of_key (by omega) same
          have bounded := longest.longest other (by rw [visible alignedOther, same, present]) coversOther
          omega

section Aligned

variable (fits : ∀ route ∈ routes, scheme.length route ≤ scheme.width)
  (aligned : ∀ route ∈ routes, scheme.Aligned route)
include fits aligned

theorem search_eq_some_iff_of_aligned :
    scheme.search (scheme.installed routes) address = some route ↔ scheme.LongestMatch routes address route := by
  have every : (routes.filter fun route => scheme.Aligned route) = routes :=
    List.filter_eq_self.mpr fun route member => by simpa using aligned route member
  rw [search_eq_some_iff fits, every]

theorem exists_longestMatch {covering : R} (member : covering ∈ routes) (covers : scheme.Covers covering address) :
    ∃ route, scheme.LongestMatch routes address route := by
  have lookup := key_of_covers (fits covering member) (aligned covering member) covers
  cases found : scheme.search (scheme.installed routes) address with
  | some route => exact ⟨route, (search_eq_some_iff_of_aligned fits aligned).mp found⟩
  | none =>
      have nothing := List.findSome?_eq_none_iff.mp found (scheme.width - scheme.length covering)
        (List.mem_range.mpr (by omega))
      rw [← lookup, installed, List.getLast?_eq_none_iff, List.filter_eq_nil_iff] at nothing
      exact absurd (decide_eq_true rfl) (nothing covering member)

end Aligned

theorem search_insert (front back : List R) (route : R) (address : Nat) :
    scheme.search (scheme.installed (front ++ route :: back)) address = some route ∨
      scheme.search (scheme.installed (front ++ route :: back)) address =
        scheme.search (scheme.installed (front ++ back)) address := by
  refine findSome?_differs _ fun i _ => ?_
  rw [← List.singleton_append, installed_append, installed_append, installed_append]
  cases scheme.installed back (address / 2 ^ i * 2 ^ i, scheme.width - i) with
  | some later => exact .inr rfl
  | none =>
      simp only [installed, List.filter_cons, List.filter_nil]
      split
      · exact .inl rfl
      · exact .inr rfl

end PrefixScheme

end Shared
