import Sponge.ReassemblerRefinement

set_option autoImplicit false

namespace Sponge

open Shared

namespace StreamReassembler

-- A push of `stream[first..last)`; only one that reaches the end of the stream may carry `eof`.
structure Excerpt (stream : Bytes) where
  first : Nat
  last : Nat
  eof : Bool
  ordered : first ≤ last
  inside : last ≤ stream.length
  final : eof = true → last = stream.length

variable {stream : Bytes}

def Excerpt.data (e : Excerpt stream) : Bytes := (stream.drop e.first).take (e.last - e.first)

def Excerpt.op (e : Excerpt stream) : Op := .push e.data e.first e.eof

def Excerpt.covers (e : Excerpt stream) (q : Nat) : Prop := e.first ≤ q ∧ q < e.last

def Covered (pushes : List (Excerpt stream)) (q : Nat) : Prop := ∃ e ∈ pushes, e.covers q

theorem Excerpt.data_length (e : Excerpt stream) : e.data.length = e.last - e.first := by
  have := e.inside
  simp only [Excerpt.data, List.length_take, List.length_drop]
  omega

theorem Excerpt.data_prefix (e : Excerpt stream) : e.data <+: stream.drop e.first := List.take_prefix _ _

theorem covered_concat (pushes : List (Excerpt stream)) (e : Excerpt stream) (q : Nat) :
    Covered (pushes ++ [e]) q ↔ Covered pushes q ∨ e.covers q := by
  simp [Covered, or_and_right, exists_or]

open Classical in
structure Settled (capacity : Nat) (pushes : List (Excerpt stream)) (a : ByteReassembler) : Prop where
  copies : a.Copies stream
  held : ∀ i, a.Held i ↔ i < capacity ∧ Covered pushes i
  gap : ∀ i ≤ a.out.length, a.stored i = none
  unread : a.bytesRead = 0
  eofAt : a.eofAt = if ∃ e ∈ pushes, e.eof then some stream.length else none
  ended : a.ended = true ↔ (∃ e ∈ pushes, e.eof) ∧ a.out.length = stream.length

theorem settled_new (stream : Bytes) (capacity : Nat) :
    Settled capacity ([] : List (Excerpt stream)) ByteReassembler.new := by
  refine ⟨ByteReassembler.copies_new stream, ?_, ?_, ?_, ?_, ?_⟩ <;>
    simp [ByteReassembler.new, ByteReassembler.Held, Covered]

section Settled

variable {capacity : Nat} {pushes : List (Excerpt stream)} {a : ByteReassembler}

open Classical in
theorem Settled.mark (settled : Settled capacity pushes a) (e : Excerpt stream) :
    (a.mark e.data e.first e.eof).eofAt = if ∃ x ∈ pushes ++ [e], x.eof then some stream.length else none := by
  cases flag : e.eof with
  | false => simp [ByteReassembler.mark, flag, settled.eofAt]
  | true =>
      have last := e.final flag
      have ordered := e.ordered
      have length := e.data_length
      simp only [ByteReassembler.mark, if_true, List.mem_append, List.mem_singleton]
      rw [if_pos ⟨e, Or.inr rfl, flag⟩]
      exact congrArg some (by omega)

theorem Settled.atHand (settled : Settled capacity pushes a) (e : Excerpt stream) (i : Nat) :
    a.AtHand capacity e.data e.first i ↔ i < capacity ∧ Covered (pushes ++ [e]) i := by
  have length := e.data_length
  have ordered := e.ordered
  rw [ByteReassembler.atHand_iff, covered_concat, Excerpt.covers, and_or_left, ← settled.held]
  constructor
  · rintro (old | ⟨inside, offered⟩)
    · exact Or.inl old
    · exact Or.inr ⟨inside.2, by omega⟩
  · rintro (old | ⟨inside, offered⟩)
    · exact Or.inl old
    · by_cases released : i < a.out.length
      · exact Or.inl (Or.inl released)
      · exact Or.inr ⟨by omega, by omega⟩

theorem Settled.push (settled : Settled capacity pushes a) (e : Excerpt stream) :
    Settled capacity (pushes ++ [e]) (a.push capacity e.data e.first e.eof) := by
  have marked := settled.mark e
  have known : (a.mark e.data e.first e.eof).eofAt ≠ none ↔ ∃ x ∈ pushes ++ [e], x.eof := by
    rw [marked]
    split <;> simp_all
  have sound : ∀ k, (a.mark e.data e.first e.eof).eofAt = some k → k = stream.length := by
    rw [marked]
    split <;> simp
  obtain ⟨_, missing, _, old⟩ := a.push_atHand capacity e.data e.first e.eof settled.copies.finite
  constructor
  · exact settled.copies.push capacity e.eof e.data_prefix
  · intro i
    rw [settled.copies.push_held_iff capacity e.data_prefix sound, settled.atHand]
  · intro i low
    by_contra present
    obtain ⟨high, stored⟩ := old i present
    exact missing (Or.inr (by rwa [Nat.le_antisymm high low]))
  · rw [ByteReassembler.push_bytesRead, settled.unread]
  · rw [ByteReassembler.push_eofAt, marked]
  · rw [← known]
    refine settled.copies.push_ended_iff capacity e.data_prefix sound fun already => ?_
    obtain ⟨⟨x, member, flag⟩, full⟩ := settled.ended.mp already
    exact ⟨known.mpr ⟨x, by simp [member], flag⟩, full⟩

end Settled

theorem run_settled (capacity : Nat) (pushes : List (Excerpt stream)) :
    Settled capacity pushes (ByteReassembler.run capacity (pushes.map Excerpt.op)) := by
  induction pushes using List.reverseRecOn with
  | nil => exact settled_new stream capacity
  | append_singleton pushes e ih =>
      rw [List.map_append, List.map_singleton, ByteReassembler.run_concat, Excerpt.op, ByteReassembler.step,
        ih.unread, Nat.zero_add]
      exact ih.push e

def observe (r : StreamReassembler) : Bytes × Bool × Nat :=
  (r.streamOut.buffer, r.streamOut.inputEnded, r.unassembledBytes)

theorem run_corresponds {capacity : Nat} (positive : 1 ≤ capacity) (word : capacity < 2 ^ 64)
    (length : stream.length < 2 ^ 64) (pushes : List (Excerpt stream)) :
    Corresponds (run capacity (pushes.map Excerpt.op))
      (ByteReassembler.run capacity (pushes.map Excerpt.op)) := by
  have unread (l : List (Excerpt stream)) : (run capacity (l.map Excerpt.op)).output.bytesRead = 0 := by
    induction l using List.reverseRecOn with
    | nil => rfl
    | append_singleton l e ih =>
        rw [List.map_append, List.map_singleton, run_concat]
        simpa [step, Excerpt.op, pushSubstring_bytesRead] using ih
  refine (run_relates capacity positive _ ?_ (by rw [unread]; omega)).corresponds
  intro op member
  obtain ⟨e, _, rfl⟩ := List.mem_map.mp member
  have := e.inside
  have := e.ordered
  have := e.data_length
  simp only [Excerpt.op, Op.inWord]
  omega

section Observed

variable {capacity : Nat} {pushes : List (Excerpt stream)} {a : ByteReassembler}

theorem Settled.greatest (settled : Settled capacity pushes a) :
    IsGreatest {p | p ≤ capacity ∧ ∀ q, q < p → Covered pushes q} a.out.length := by
  have released (q : Nat) (early : q < a.out.length) := (settled.held q).mp (Or.inl early)
  refine ⟨⟨?_, fun q early => (released q early).2⟩, ?_⟩
  · by_contra beyond
    have := (released (a.out.length - 1) (by omega)).1
    omega
  · intro p longer
    by_contra beyond
    have next := (settled.held a.out.length).mpr ⟨by have := longer.1; omega, longer.2 _ (by omega)⟩
    rcases next with early | present
    · omega
    · exact present (settled.gap _ le_rfl)

theorem Settled.storedCount (settled : Settled capacity pushes a) :
    a.storedCount = {q | a.out.length < q ∧ q < capacity ∧ Covered pushes q}.ncard := by
  have same : {i | a.stored i ≠ none} = {q | a.out.length < q ∧ q < capacity ∧ Covered pushes q} := by
    ext i
    simp only [Set.mem_ofPred_eq, ← settled.held]
    constructor
    · intro present
      refine ⟨?_, Or.inr present⟩
      by_contra low
      exact present (settled.gap i (by omega))
    · rintro ⟨high, early | present⟩
      · omega
      · exact present
  rw [ByteReassembler.storedCount, same]

end Observed

theorem run_observed {capacity : Nat} (positive : 1 ≤ capacity) (word : capacity < 2 ^ 64)
    (length : stream.length < 2 ^ 64) (pushes : List (Excerpt stream)) :
    ∃ p, IsGreatest {p | p ≤ capacity ∧ ∀ q, q < p → Covered pushes q} p ∧
      (run capacity (pushes.map Excerpt.op)).streamOut.buffer = stream.take p ∧
      (run capacity (pushes.map Excerpt.op)).unassembledBytes =
        {q | p < q ∧ q < capacity ∧ Covered pushes q}.ncard ∧
      ((run capacity (pushes.map Excerpt.op)).streamOut.inputEnded = true ↔
        (∃ e ∈ pushes, e.eof) ∧ p = stream.length) := by
  have settled := run_settled capacity pushes
  have same := run_corresponds positive word length pushes
  refine ⟨_, settled.greatest, ?_, ?_, ?_⟩
  · rw [same.buffered, settled.unread, List.drop_zero]
    exact List.prefix_iff_eq_take.mp settled.copies.out
  · rw [same.unassembledBytes, settled.storedCount]
  · rw [same.inputEnded, settled.ended]

theorem reassembly_order_independent (capacity : Nat) (positive : 1 ≤ capacity) (word : capacity < 2 ^ 64)
    (stream : Bytes) (length : stream.length < 2 ^ 64) (pushes : List (Excerpt stream)) :
    (∃ p, IsGreatest {p | p ≤ capacity ∧ ∀ q, q < p → Covered pushes q} p ∧
      (run capacity (pushes.map Excerpt.op)).streamOut.buffer = stream.take p ∧
      (run capacity (pushes.map Excerpt.op)).unassembledBytes =
        {q | p < q ∧ q < capacity ∧ Covered pushes q}.ncard ∧
      ((run capacity (pushes.map Excerpt.op)).streamOut.inputEnded = true ↔
        (∃ e ∈ pushes, e.eof) ∧ p = stream.length)) ∧
    ∀ others : List (Excerpt stream), (∀ e, e ∈ others ↔ e ∈ pushes) →
      observe (run capacity (others.map Excerpt.op)) = observe (run capacity (pushes.map Excerpt.op)) := by
  refine ⟨run_observed positive word length pushes, ?_⟩
  intro others same
  have covered (q : Nat) : Covered others q ↔ Covered pushes q := by simp only [Covered, same]
  obtain ⟨p, greatest, buffer, count, ended⟩ := run_observed positive word length pushes
  obtain ⟨p', greatest', buffer', count', ended'⟩ := run_observed positive word length others
  simp only [covered, same] at greatest' count' ended'
  obtain rfl := greatest.unique greatest'
  rw [observe, observe, buffer, buffer', count, count', Bool.eq_iff_iff.mpr (ended'.trans ended.symm)]

def samplePushes : List (Excerpt [10, 20, 30, 40]) :=
  [⟨2, 4, true, by decide, by decide, by decide⟩, ⟨0, 1, false, by decide, by decide, by decide⟩,
    ⟨2, 4, true, by decide, by decide, by decide⟩]

theorem reassembly_order_independent_sample :
    (1 ≤ 3 ∧ observe (run 3 (samplePushes.map Excerpt.op)) = ([10], false, 1)) ∧
    observe (run 3 (samplePushes.reverse.map Excerpt.op)) = observe (run 3 (samplePushes.map Excerpt.op)) :=
  ⟨by decide, (reassembly_order_independent 3 (by decide) (by decide) [10, 20, 30, 40] (by decide)
    samplePushes).2 samplePushes.reverse (fun _ => List.mem_reverse)⟩

end StreamReassembler

end Sponge
