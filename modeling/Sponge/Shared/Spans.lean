import Mathlib.Data.Set.Card
import Mathlib.Order.Interval.Finset.Nat
import Mathlib.Order.Lattice.Nat

set_option autoImplicit false

namespace Shared

variable {α : Type}

theorem prefix_extend {front back whole : List α} (start : front <+: whole)
    (agree : ∀ k, k < back.length → back[k]? = whole[front.length + k]?) : front ++ back <+: whole := by
  obtain ⟨rest, rfl⟩ := start
  rw [List.prefix_append_right_inj, List.prefix_iff_eq_take]
  apply List.ext_getElem?
  intro k
  rw [List.getElem?_take]
  split
  next inside =>
    have same := agree k inside
    rwa [List.getElem?_append_right (by omega), Nat.add_sub_cancel_left] at same
  next outside => simpa using outside

abbrev Slots (α : Type) := Nat → Option α

namespace Slots

def offer (index : Nat) (items : List α) : Slots α :=
  fun i => if index ≤ i then items[i - index]? else none

theorem offer_eq_none (index : Nat) (items : List α) (i : Nat) :
    offer index items i = none ↔ i < index ∨ index + items.length ≤ i := by
  unfold offer
  split
  next => rw [List.getElem?_eq_none_iff]; omega
  next => simp; omega

def clip (lo hi : Nat) (slots : Slots α) : Slots α :=
  fun i => if lo ≤ i ∧ i < hi then slots i else none

theorem clip_congr {lo hi lo' hi' : Nat} {slots : Slots α} {i : Nat}
    (same : lo ≤ i ∧ i < hi ↔ lo' ≤ i ∧ i < hi') : slots.clip lo hi i = slots.clip lo' hi' i := by
  simp only [clip, same]

theorem clip_outside {lo hi : Nat} {slots : Slots α} {i : Nat} (outside : ¬ (lo ≤ i ∧ i < hi)) :
    slots.clip lo hi i = none := if_neg outside

def merge (old new : Slots α) : Slots α := fun i => (old i).or (new i)

def dropBelow (bound : Nat) (slots : Slots α) : Slots α := fun i => if i < bound then none else slots i

noncomputable def runLength (slots : Slots α) (start : Nat) : Nat :=
  sInf {n | slots (start + n) = none}

noncomputable def run (slots : Slots α) (start : Nat) : List α :=
  (List.range (slots.runLength start)).filterMap fun k => slots (start + k)

theorem runLength_eq {slots : Slots α} {start n : Nat}
    (filled : ∀ k, k < n → slots (start + k) ≠ none) (gap : slots (start + n) = none) :
    slots.runLength start = n := by
  apply le_antisymm
  · exact Nat.sInf_le gap
  · by_contra less
    have attained : slots (start + slots.runLength start) = none :=
      Nat.sInf_mem (s := {n | slots (start + n) = none}) ⟨n, gap⟩
    exact filled _ (by omega) attained

theorem run_eq {slots : Slots α} {start : Nat} {items : List α}
    (filled : ∀ k, k < items.length → slots (start + k) = items[k]?)
    (gap : slots (start + items.length) = none) : slots.run start = items := by
  have count : slots.runLength start = items.length := by
    apply runLength_eq _ gap
    intro k within
    simp [filled k within, within]
  rw [run, count]
  have prefixes (n : Nat) (within : n ≤ items.length) :
      (List.range n).filterMap (fun k => slots (start + k)) = items.take n := by
    induction n with
    | zero => simp
    | succ n ih =>
        rw [List.range_succ, List.filterMap_append, ih (by omega), List.take_add_one]
        simp [filled n (by omega), show n < items.length by omega]
  simpa using prefixes items.length le_rfl

theorem exists_run {slots : Slots α} {start : Nat} (gap : ∃ n, slots (start + n) = none) :
    ∃ items : List α, (∀ k, k < items.length → slots (start + k) = items[k]?) ∧
      slots (start + items.length) = none := by
  classical
  let count := Nat.find gap
  have present (k : Fin count) : (slots (start + k)).isSome :=
    Option.isSome_iff_ne_none.mpr (Nat.find_min gap k.isLt)
  refine ⟨List.ofFn fun k : Fin count => (slots (start + k)).get (present k), ?_, ?_⟩
  · intro k within
    rw [List.length_ofFn] at within
    simp [within]
  · rw [List.length_ofFn]
    exact Nat.find_spec gap

end Slots

structure Span (α : Type) where
  start : Nat
  stop : Nat
  items : List α
  deriving DecidableEq, Repr

namespace Span

def get (span : Span α) : Slots α := Slots.offer span.start span.items

theorem get_start (span : Span α) (k : Nat) : span.get (span.start + k) = span.items[k]? := by
  simp [get, Slots.offer]

def lookup : List (Span α) → Slots α
  | [], _ => none
  | span :: rest, i => (span.get i).or (lookup rest i)

def size (spans : List (Span α)) : Nat := (spans.map fun span => span.items.length).sum

@[simp] theorem size_nil : size ([] : List (Span α)) = 0 := rfl

@[simp] theorem size_cons (span : Span α) (rest : List (Span α)) :
    size (span :: rest) = span.items.length + size rest := by simp [size]

@[simp] theorem size_append (front back : List (Span α)) : size (front ++ back) = size front + size back := by
  simp [size]

-- From `lo` on, in order and without overlap, each list as long as its closed interval.
def Sorted : Nat → List (Span α) → Prop
  | _, [] => True
  | lo, span :: rest =>
      lo ≤ span.start ∧ span.start ≤ span.stop ∧
        span.items.length = span.stop + 1 - span.start ∧ Sorted (span.stop + 1) rest

theorem Sorted.weaken {lo lo' : Nat} (le : lo' ≤ lo) {spans : List (Span α)} (sorted : Sorted lo spans) :
    Sorted lo' spans := by
  cases spans with
  | nil => trivial
  | cons span rest => exact ⟨le_trans le sorted.1, sorted.2⟩

theorem get_eq_none {span : Span α} (nonempty : span.start ≤ span.stop)
    (length : span.items.length = span.stop + 1 - span.start) (i : Nat) :
    span.get i = none ↔ i < span.start ∨ span.stop < i := by
  rw [get, Slots.offer_eq_none]
  omega

theorem lookup_append (front back : List (Span α)) (i : Nat) :
    lookup (front ++ back) i = (lookup front i).or (lookup back i) := by
  induction front with
  | nil => simp [lookup]
  | cons span front ih => simp [lookup, ih, Option.or_assoc]

theorem lookup_below {lo : Nat} {spans : List (Span α)} (sorted : Sorted lo spans) {i : Nat}
    (below : i < lo) : lookup spans i = none := by
  induction spans generalizing lo with
  | nil => rfl
  | cons span rest ih =>
      obtain ⟨low, nonempty, length, tail⟩ := sorted
      simp only [lookup, (get_eq_none nonempty length i).mpr (Or.inl (by omega)),
        ih tail (by omega), Option.or_none]

theorem lookup_bound {lo hi : Nat} {spans : List (Span α)} (sorted : Sorted lo spans)
    (bound : ∀ span ∈ spans, span.stop < hi) {i : Nat} (above : hi ≤ i) : lookup spans i = none := by
  induction spans generalizing lo with
  | nil => rfl
  | cons span rest ih =>
      obtain ⟨_, nonempty, length, tail⟩ := sorted
      have stop := bound span (by simp)
      simp only [lookup, (get_eq_none nonempty length i).mpr (Or.inr (by omega)),
        ih tail (fun span member => bound span (by simp [member])), Option.or_none]

theorem Sorted.stop_lt {lo hi : Nat} {spans : List (Span α)} (sorted : Sorted lo spans)
    (bound : ∀ i, hi ≤ i → lookup spans i = none) : ∀ span ∈ spans, span.stop < hi := by
  induction spans generalizing lo with
  | nil => simp
  | cons head rest ih =>
      obtain ⟨_, nonempty, length, tail⟩ := sorted
      have split (i : Nat) (above : hi ≤ i) : head.get i = none ∧ lookup rest i = none :=
        Option.or_eq_none_iff.mp (bound i above)
      intro span member
      rcases List.mem_cons.mp member with rfl | later
      · by_contra above
        have := (get_eq_none nonempty length span.stop).mp (split _ (by omega)).1
        omega
      · exact ih tail (fun i above => (split i above).2) span later

theorem Sorted.pairwise {lo : Nat} {spans : List (Span α)} (sorted : Sorted lo spans) :
    spans.Pairwise (fun a b => a.stop < b.start) ∧
      ∀ span ∈ spans, lo ≤ span.start ∧ span.start ≤ span.stop ∧
        span.items.length = span.stop + 1 - span.start := by
  induction spans generalizing lo with
  | nil => simp
  | cons span rest ih =>
      obtain ⟨low, nonempty, length, tail⟩ := sorted
      obtain ⟨pairs, each⟩ := ih tail
      refine ⟨List.pairwise_cons.mpr ⟨fun later member => (each later member).1, pairs⟩, ?_⟩
      intro other member
      rcases List.mem_cons.mp member with rfl | later
      · exact ⟨low, nonempty, length⟩
      · exact ⟨by have := (each other later).1; omega, (each other later).2⟩

theorem Sorted.size_le {lo hi : Nat} {spans : List (Span α)} (sorted : Sorted lo spans)
    (bound : ∀ span ∈ spans, span.stop < hi) : lo + size spans ≤ max lo hi := by
  induction spans generalizing lo with
  | nil => simp
  | cons span rest ih =>
      obtain ⟨low, nonempty, length, tail⟩ := sorted
      have stop := bound span (by simp)
      have rest_le := ih tail fun later member => bound later (by simp [member])
      rw [size_cons]
      omega

theorem positions_cons {lo : Nat} {span : Span α} {rest : List (Span α)}
    (sorted : Sorted lo (span :: rest)) :
    {i | lookup (span :: rest) i ≠ none} =
      Set.Icc span.start span.stop ∪ {i | lookup rest i ≠ none} := by
  obtain ⟨_, nonempty, length, _⟩ := sorted
  ext i
  have outside := get_eq_none nonempty length i
  simp only [lookup, ne_eq, Option.or_eq_none_iff, not_and_or, outside, Set.mem_ofPred_eq, Set.mem_union,
    Set.mem_Icc]
  exact or_congr (by omega) Iff.rfl

theorem positions_finite {lo : Nat} {spans : List (Span α)} (sorted : Sorted lo spans) :
    {i | lookup spans i ≠ none}.Finite := by
  induction spans generalizing lo with
  | nil => simp [lookup]
  | cons span rest ih =>
      rw [positions_cons sorted]
      exact (Set.finite_Icc _ _).union (ih sorted.2.2.2)

theorem size_eq_ncard {lo : Nat} {spans : List (Span α)} (sorted : Sorted lo spans) :
    size spans = {i | lookup spans i ≠ none}.ncard := by
  induction spans generalizing lo with
  | nil => simp [lookup, size]
  | cons span rest ih =>
      have tail := sorted.2.2.2
      have disjoint : Disjoint (Set.Icc span.start span.stop) {i | lookup rest i ≠ none} := by
        rw [Set.disjoint_left]
        intro i inside stored
        exact stored (lookup_below tail (by have := inside.2; omega))
      have interval : (Set.Icc span.start span.stop).ncard = span.items.length := by
        rw [← Finset.coe_Icc, Set.ncard_coe_finset, Nat.card_Icc, sorted.2.2.1]
      rw [positions_cons sorted, Set.ncard_union_eq disjoint (Set.finite_Icc _ _) (positions_finite tail),
        interval, ← ih tail, size_cons]

end Span

end Shared
