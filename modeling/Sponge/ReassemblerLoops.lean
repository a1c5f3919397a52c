import Sponge.StreamReassembler

set_option autoImplicit false

namespace Sponge

open Shared

namespace StreamReassembler

section Place

variable {data : Bytes} {index : Nat}

theorem lookup_piece {tempStart tempMaxEnd : Nat} (from_index : index ≤ tempStart)
    (word : tempMaxEnd < 2 ^ 64) (i : Nat) :
    Span.lookup (piece data index tempStart tempMaxEnd) i =
      (Slots.offer index data).clip tempStart (tempMaxEnd + 1) i := by
  unfold piece
  split
  next nonempty =>
    rw [sub64_of_le from_index (by omega)]
    simp only [Span.lookup, Span.get, Slots.offer, Slots.clip, Option.or_none]
    by_cases low : tempStart ≤ i
    · by_cases high : i < tempMaxEnd + 1
      · have shifted : tempStart - index + (i - tempStart) = i - index := by omega
        have inside : i - tempStart < tempMaxEnd - tempStart + 1 := by omega
        simp [low, high, show index ≤ i by omega, inside, shifted]
      · have outside : ¬ i - tempStart < tempMaxEnd - tempStart + 1 := by omega
        simp [low, high, outside]
    · simp [low]
  next nothing =>
    have outside : ¬ (tempStart ≤ i ∧ i < tempMaxEnd + 1) := by omega
    simp only [Span.lookup, Slots.clip, if_neg outside]

theorem size_piece {tempStart tempMaxEnd : Nat} (from_index : index ≤ tempStart)
    (word : tempMaxEnd < 2 ^ 64) (inside : tempMaxEnd < index + data.length) :
    Span.size (piece data index tempStart tempMaxEnd) = substringLength tempStart tempMaxEnd := by
  unfold piece substringLength
  split
  next nonempty =>
    rw [sub64_of_le from_index (by omega)]
    simp only [Span.size_cons, Span.size_nil, List.length_take, List.length_drop]
    omega
  next nothing => simp only [Span.size_nil]; omega

theorem sorted_piece_append {lo tempStart tempMaxEnd : Nat} {rest : List Staged}
    (low : lo ≤ tempStart) (from_index : index ≤ tempStart) (word : tempMaxEnd < 2 ^ 64)
    (inside : tempMaxEnd < index + data.length)
    (sorted : Span.Sorted (max lo (tempMaxEnd + 1)) rest) :
    Span.Sorted lo (piece data index tempStart tempMaxEnd ++ rest) := by
  unfold piece
  split
  next nonempty =>
    rw [sub64_of_le from_index (by omega)]
    refine ⟨low, nonempty, ?_, sorted.weaken (le_max_right _ _)⟩
    simp only [List.length_take, List.length_drop]
    omega
  next nothing => exact sorted.weaken (le_max_left _ _)

theorem lookup_split {iter : Staged} {rest : List Staged} (nonempty : iter.start ≤ iter.stop)
    (length : iter.items.length = iter.stop + 1 - iter.start)
    (tail : Span.Sorted (iter.stop + 1) rest) (i : Nat) :
    (i < iter.start ∧ iter.get i = none ∧ Span.lookup rest i = none) ∨
      ((iter.start ≤ i ∧ i ≤ iter.stop) ∧ ∃ byte, iter.get i = some byte) ∨
        (iter.stop < i ∧ iter.get i = none) := by
  have gap := Span.get_eq_none nonempty length i
  by_cases left : i < iter.start
  · exact Or.inl ⟨left, gap.mpr (Or.inl left), Span.lookup_below tail (by omega)⟩
  · by_cases right : iter.stop < i
    · exact Or.inr (Or.inr ⟨right, gap.mpr (Or.inr right)⟩)
    · have present : iter.get i ≠ none := fun none => by
        have := gap.mp none
        omega
      exact Or.inr (Or.inl ⟨by omega, Option.ne_none_iff_exists'.mp present⟩)

-- What the walk owes: still in order, and exactly the missing positions of `data` from `tempStart` up to `stop`
-- are added. `lo` is where the spans met so far end.
structure Placed (data : Bytes) (index lo tempStart stop : Nat) (spans : List Staged) (size : Nat)
    (result : List Staged × Nat) : Prop where
  sorted : Span.Sorted lo result.1
  lookup : Span.lookup result.1 = (Span.lookup spans).merge ((Slots.offer index data).clip tempStart stop)
  size : result.2 + Span.size spans = size + Span.size result.1

theorem placed_last {lo tempStart tempEnd : Nat} (maxIndex size : Nat) (low : lo ≤ tempStart)
    (from_index : index ≤ tempStart) (inside : tempEnd < index + data.length) (word : tempEnd < 2 ^ 64) :
    Placed data index lo tempStart (min tempEnd maxIndex + 1) [] size
      (place data index maxIndex tempStart tempEnd [] size) where
  sorted := by
    have single : Span.Sorted lo (piece data index tempStart (min tempEnd maxIndex) ++ []) :=
      sorted_piece_append low from_index (by omega) (by omega) trivial
    simpa [place] using single
  lookup := by
    funext i
    simp [place, lookup_piece from_index (show min tempEnd maxIndex < 2 ^ 64 by omega), Slots.merge, Span.lookup]
  size := by
    simp [place, size_piece from_index (show min tempEnd maxIndex < 2 ^ 64 by omega)
      (show min tempEnd maxIndex < index + data.length by omega)]

section Span

variable {lo tempStart tempEnd maxIndex size : Nat} {iter : Staged} {rest : List Staged}

theorem placed_before (sorted : Span.Sorted lo (iter :: rest)) (low : lo ≤ tempStart)
    (from_index : index ≤ tempStart) (inside : tempEnd < index + data.length) (word : tempEnd < 2 ^ 64)
    (before : tempStart < iter.start) (covered : tempEnd < iter.stop + 1) :
    let tempMaxEnd := min (min tempEnd (iter.start - 1)) maxIndex
    Placed data index lo tempStart (min tempEnd maxIndex + 1) (iter :: rest) size
      (piece data index tempStart tempMaxEnd ++ iter :: rest, size + substringLength tempStart tempMaxEnd) := by
  intro tempMaxEnd
  obtain ⟨start, nonempty, length, tail⟩ := sorted
  constructor
  · exact sorted_piece_append low from_index (by omega) (by omega) ⟨by omega, nonempty, length, tail⟩
  · funext i
    simp only [Span.lookup_append, lookup_piece from_index (show tempMaxEnd < 2 ^ 64 by omega), Span.lookup,
      Slots.merge]
    rcases lookup_split nonempty length tail i with ⟨left, absent, below⟩ | ⟨within, byte, present⟩ | ⟨right, absent⟩
    · rw [absent, below, Option.or_none, Option.or_none, Option.none_or]
      exact Slots.clip_congr (by omega)
    · rw [Slots.clip_outside (by omega), Option.none_or]
      simp only [present, Option.some_or]
    · rw [Slots.clip_outside (by omega), Slots.clip_outside (by omega), Option.none_or, Option.or_none]
  · simp only [Span.size_append, size_piece from_index (show tempMaxEnd < 2 ^ 64 by omega)
      (show tempMaxEnd < index + data.length by omega)]
    omega

theorem placed_around {walk : List Staged × Nat} (sorted : Span.Sorted lo (iter :: rest)) (low : lo ≤ tempStart)
    (from_index : index ≤ tempStart) (inside : tempEnd < index + data.length) (word : tempEnd < 2 ^ 64)
    (before : tempStart < iter.start) (more : ¬ tempEnd < iter.stop + 1)
    (placed : Placed data index (iter.stop + 1) (iter.stop + 1) (min tempEnd maxIndex + 1) rest
      (size + substringLength tempStart (min (min tempEnd (iter.start - 1)) maxIndex)) walk) :
    Placed data index lo tempStart (min tempEnd maxIndex + 1) (iter :: rest) size
      (piece data index tempStart (min (min tempEnd (iter.start - 1)) maxIndex) ++ iter :: walk.1, walk.2) := by
  obtain ⟨start, nonempty, length, tail⟩ := sorted
  have walked := placed.size
  constructor
  · exact sorted_piece_append low from_index (by omega) (by omega) ⟨by omega, nonempty, length, placed.sorted⟩
  · funext i
    simp only [Span.lookup_append, lookup_piece from_index
      (show min (min tempEnd (iter.start - 1)) maxIndex < 2 ^ 64 by omega), Span.lookup, placed.lookup, Slots.merge]
    rcases lookup_split nonempty length tail i with ⟨left, absent, below⟩ | ⟨within, byte, present⟩ | ⟨right, absent⟩
    · have missing : (Slots.offer index data).clip (iter.stop + 1) (min tempEnd maxIndex + 1) i = none :=
        Slots.clip_outside (by omega)
      simp only [absent, below, missing, Option.or_none, Option.none_or]
      exact Slots.clip_congr (by omega)
    · rw [Slots.clip_outside (by omega), Option.none_or]
      simp only [present, Option.some_or]
    · rw [Slots.clip_outside (by omega), Option.none_or, absent, Option.none_or, Option.none_or]
      exact congrArg _ (Slots.clip_congr (by omega))
  · simp only [Span.size_append, Span.size_cons, size_piece from_index
      (show min (min tempEnd (iter.start - 1)) maxIndex < 2 ^ 64 by omega)
      (show min (min tempEnd (iter.start - 1)) maxIndex < index + data.length by omega)]
    omega

theorem placed_inside (sorted : Span.Sorted lo (iter :: rest)) (after : ¬ tempStart < iter.start)
    (covered : tempEnd ≤ iter.stop) :
    Placed data index lo tempStart (min tempEnd maxIndex + 1) (iter :: rest) size (iter :: rest, size) := by
  obtain ⟨start, nonempty, length, tail⟩ := sorted
  refine ⟨⟨start, nonempty, length, tail⟩, ?_, rfl⟩
  funext i
  simp only [Slots.merge, Span.lookup]
  rcases lookup_split nonempty length tail i with ⟨left, absent⟩ | ⟨within, byte, present⟩ | ⟨right, absent⟩
  · rw [Slots.clip_outside (by omega), Option.or_none]
  · simp only [present, Option.some_or]
  · rw [Slots.clip_outside (by omega), Option.or_none]

theorem placed_after {walk : List Staged × Nat} (sorted : Span.Sorted lo (iter :: rest))
    (after : ¬ tempStart < iter.start)
    (placed : Placed data index (iter.stop + 1) (max (iter.stop + 1) tempStart) (min tempEnd maxIndex + 1) rest size
      walk) :
    Placed data index lo tempStart (min tempEnd maxIndex + 1) (iter :: rest) size (iter :: walk.1, walk.2) := by
  obtain ⟨start, nonempty, length, tail⟩ := sorted
  have walked := placed.size
  refine ⟨⟨start, nonempty, length, placed.sorted⟩, ?_, ?_⟩
  · funext i
    simp only [Span.lookup, placed.lookup, Slots.merge]
    rcases lookup_split nonempty length tail i with ⟨left, absent, below⟩ | ⟨within, byte, present⟩ | ⟨right, absent⟩
    · rw [Slots.clip_outside (by omega), Slots.clip_outside (by omega), Option.or_none, Option.or_none]
    · simp only [present, Option.some_or]
    · rw [Option.or_assoc]
      exact congrArg _ (congrArg _ (Slots.clip_congr (by omega)))
  · simp only [Span.size_cons]
    omega

end Span

-- The whole walk, by induction on the list; the cases are the branches of the loop body.
theorem place_spec (data : Bytes) (index maxIndex : Nat) {lo tempStart tempEnd : Nat}
    {spans : List Staged} (size : Nat)
    (sorted : Span.Sorted lo spans) (words : ∀ span ∈ spans, span.stop + 1 < 2 ^ 64)
    (low : lo ≤ tempStart) (from_index : index ≤ tempStart)
    (inside : tempEnd < index + data.length) (word : tempEnd < 2 ^ 64) :
    Placed data index lo tempStart (min tempEnd maxIndex + 1) spans size
      (place data index maxIndex tempStart tempEnd spans size) := by
  induction spans generalizing lo tempStart size with
  | nil => exact placed_last maxIndex size low from_index inside word
  | cons iter rest ih =>
      have nonempty := sorted.2.1
      have tail := sorted.2.2.2
      have next : add64 iter.stop 1 = iter.stop + 1 := add64_of_lt (words iter (by simp))
      have restWords : ∀ span ∈ rest, span.stop + 1 < 2 ^ 64 :=
        fun span member => words span (by simp [member])
      rw [place, next]
      by_cases before : tempStart < iter.start
      · rw [if_pos before]
        by_cases covered : tempEnd < iter.stop + 1
        · rw [if_pos covered]
          exact placed_before sorted low from_index inside word before covered
        · rw [if_neg covered]
          exact placed_around sorted low from_index inside word before covered
            (ih _ tail restWords le_rfl (by omega))
      · rw [if_neg before]
        by_cases covered : tempEnd ≤ iter.stop
        · rw [if_pos covered]
          exact placed_inside sorted before covered
        · rw [if_neg covered]
          exact placed_after sorted before (ih size tail restWords (le_max_left _ _) (by omega))

-- Every piece starts inside `data`, as long as the walk never wraps below `index`.
theorem placeExcept_ok (data : Bytes) (index maxIndex : Nat) {lo tempStart tempEnd : Nat} {spans : List Staged}
    (size : Nat) (sorted : Span.Sorted lo spans) (words : ∀ span ∈ spans, span.stop + 1 < 2 ^ 64)
    (from_index : index ≤ tempStart) (inside : tempEnd < index + data.length) (word : tempEnd < 2 ^ 64) :
    (placeExcept data index maxIndex tempStart tempEnd spans size).2.2 = .ok () := by
  have starts {tempStart tempMaxEnd : Nat} (from_index : index ≤ tempStart) (low : tempMaxEnd ≤ tempEnd) :
      ¬SubstrFails data index tempStart tempMaxEnd := by
    rintro ⟨nonempty, fails⟩
    rw [sub64_of_le from_index (by omega)] at fails
    omega
  induction spans generalizing lo tempStart size with
  | nil =>
      rw [placeExcept, if_neg (starts from_index (by omega))]
  | cons iter rest ih =>
      obtain ⟨-, nonempty, -, tail⟩ := sorted
      have next : add64 iter.stop 1 = iter.stop + 1 := add64_of_lt (words iter (by simp))
      have restWords : ∀ span ∈ rest, span.stop + 1 < 2 ^ 64 :=
        fun span member => words span (by simp [member])
      rw [placeExcept, next]
      by_cases before : tempStart < iter.start
      · rw [if_pos before, if_neg (starts from_index (by omega))]
        split
        next => rfl
        next => exact ih _ tail restWords (by omega)
      · rw [if_neg before]
        split
        next => rfl
        next => exact ih _ tail restWords (by omega)

end Place

structure Flushed (spans : List Staged) (r : StreamReassembler) (bytes : Bytes)
    (r' : StreamReassembler) : Prop where
  start : r'.unassembledStartIndex = r.unassembledStartIndex + bytes.length
  buffer : r'.output.buffer = r.output.buffer ++ bytes
  written : r'.output.writtenLength = r.output.writtenLength + bytes.length
  ended : r'.output.isEnded = r.output.isEnded
  outputCapacity : r'.output.capacity = r.output.capacity
  capacity : r'.capacity = r.capacity
  haveEof : r'.haveEof = r.haveEof
  eofIndex : r'.eofIndex = r.eofIndex
  filled : ∀ k, k < bytes.length → Span.lookup spans (r.unassembledStartIndex + k) = bytes[k]?
  gap : Span.lookup spans (r.unassembledStartIndex + bytes.length) = none
  stored : Span.lookup r'.stagingList =
    (Span.lookup spans).dropBelow (r.unassembledStartIndex + bytes.length)
  size : r'.stagingSize = Span.size r'.stagingList
  sorted : Span.Sorted (r.unassembledStartIndex + bytes.length + 1) r'.stagingList

theorem flushed_nothing {spans : List Staged} {r : StreamReassembler}
    (sorted : Span.Sorted (r.unassembledStartIndex + 1) spans) (size : r.stagingSize = Span.size spans) :
    Flushed spans r [] { r with stagingList := spans } where
  start := rfl
  buffer := (List.append_nil _).symm
  written := rfl
  ended := rfl
  outputCapacity := rfl
  capacity := rfl
  haveEof := rfl
  eofIndex := rfl
  filled := by simp
  gap := Span.lookup_below sorted (by simp)
  stored := by
    funext i
    unfold Slots.dropBelow
    split
    next below => exact Span.lookup_below sorted (by simp at below; omega)
    next => rfl
  size := size
  sorted := sorted

def flushOne (iter : Staged) (r : StreamReassembler) : StreamReassembler :=
  { r with
    output := r.output.append iter.items
    unassembledStartIndex := iter.stop + 1
    stagingSize := r.stagingSize - (iter.stop - iter.start + 1) }

theorem Flushed.cons {iter : Staged} {rest : List Staged} {r r' : StreamReassembler} {bytes : Bytes}
    (first : iter.start = r.unassembledStartIndex) (nonempty : iter.start ≤ iter.stop)
    (length : iter.items.length = iter.stop + 1 - iter.start)
    (room : iter.stop < r.unassembledStartIndex + r.output.remainingCapacity)
    (flushed : Flushed rest (flushOne iter r) bytes r') :
    Flushed (iter :: rest) r (iter.items ++ bytes) r' := by
  obtain ⟨buffer, written, _⟩ := r.output.append_of_room iter.items (by omega)
  have total : r.unassembledStartIndex + (iter.items ++ bytes).length = iter.stop + 1 + bytes.length := by
    simp only [List.length_append]
    omega
  have past (i : Nat) (above : iter.stop < i) : Span.lookup (iter :: rest) i = Span.lookup rest i := by
    simp only [Span.lookup, (Span.get_eq_none nonempty length i).mpr (Or.inr above), Option.none_or]
  constructor
  case start => rw [total]; exact flushed.start
  case buffer =>
    have whole := flushed.buffer
    simp only [flushOne, buffer] at whole
    rw [whole, List.append_assoc]
  case written =>
    have whole := flushed.written
    simp only [flushOne, written] at whole
    rw [whole, List.length_append]
    omega
  case ended => exact flushed.ended
  case outputCapacity => exact flushed.outputCapacity
  case capacity => exact flushed.capacity
  case haveEof => exact flushed.haveEof
  case eofIndex => exact flushed.eofIndex
  case size => exact flushed.size
  case sorted => rw [total]; exact flushed.sorted
  case gap => rw [total, past _ (by omega)]; exact flushed.gap
  case filled =>
    intro k within
    by_cases early : k < iter.items.length
    · have byte := Span.get_start iter k
      rw [first] at byte
      simp only [Span.lookup, byte, List.getElem?_append_left early, List.getElem?_eq_getElem early,
        Option.some_or]
    · have shifted : r.unassembledStartIndex + k = iter.stop + 1 + (k - iter.items.length) := by omega
      simp only [List.length_append] at within
      rw [past _ (by omega), shifted, List.getElem?_append_right (by omega)]
      exact flushed.filled _ (by omega)
  case stored =>
    have whole := flushed.stored
    simp only [flushOne] at whole
    rw [total, whole]
    funext i
    unfold Slots.dropBelow
    split
    next => rfl
    next above => rw [past i (by omega)]

theorem flush_spec {spans : List Staged} {r : StreamReassembler}
    (sorted : Span.Sorted r.unassembledStartIndex spans)
    (words : ∀ span ∈ spans, span.stop + 1 < 2 ^ 64)
    (room : ∀ span ∈ spans, span.stop < r.unassembledStartIndex + r.output.remainingCapacity)
    (size : r.stagingSize = Span.size spans) :
    ∃ bytes, Flushed spans r bytes (flush spans r) := by
  induction spans generalizing r with
  | nil => exact ⟨[], flushed_nothing trivial size⟩
  | cons iter rest ih =>
      obtain ⟨start, nonempty, length, tail⟩ := sorted
      have iterRoom := room iter (by simp)
      have next : add64 iter.stop 1 = iter.stop + 1 := add64_of_lt (words iter (by simp))
      by_cases first : iter.start = r.unassembledStartIndex
      · have remaining := (r.output.append_of_room iter.items (by omega)).2.2
        have restRoom : ∀ span ∈ rest,
            span.stop < (flushOne iter r).unassembledStartIndex +
              (flushOne iter r).output.remainingCapacity := by
          intro span member
          have := room span (by simp [member])
          simp only [flushOne, remaining]
          omega
        have restSize : (flushOne iter r).stagingSize = Span.size rest := by
          simp only [flushOne, size, Span.size_cons]
          omega
        have step : flush (iter :: rest) r = flush rest (flushOne iter r) := by
          simp only [flush, if_pos first, next, flushOne, ByteStream.write_snd]
        obtain ⟨bytes, flushed⟩ := ih tail (fun span member => words span (by simp [member])) restRoom restSize
        rw [step]
        exact ⟨_, flushed.cons first nonempty length iterRoom⟩
      · refine ⟨[], ?_⟩
        rw [flush, if_neg first]
        exact flushed_nothing ⟨by omega, nonempty, length, tail⟩ size

end StreamReassembler

end Sponge
