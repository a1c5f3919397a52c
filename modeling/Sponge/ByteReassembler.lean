import Sponge.StreamReassembler

set_option autoImplicit false

namespace Sponge

open Shared

-- What a reassembler is for, one byte at a time: `out` is everything released so far, so that its
-- length is the first position still missing.
structure ByteReassembler where
  out : Bytes
  bytesRead : Nat
  stored : Slots UInt8
  eofAt : Option Nat
  ended : Bool

namespace ByteReassembler

def new : ByteReassembler where
  out := []
  bytesRead := 0
  stored := fun _ => none
  eofAt := none
  ended := false

def mark (a : ByteReassembler) (data : Bytes) (index : Nat) (eof : Bool) : ByteReassembler :=
  if eof then { a with eofAt := some (index + data.length) } else a

def store (a : ByteReassembler) (limit : Nat) (data : Bytes) (index : Nat) : ByteReassembler :=
  { a with stored := a.stored.merge ((Slots.offer index data).clip a.out.length limit) }

noncomputable def release (a : ByteReassembler) : ByteReassembler :=
  let bytes := a.stored.run a.out.length
  { a with out := a.out ++ bytes, stored := a.stored.dropBelow (a.out.length + bytes.length) }

def complete (a : ByteReassembler) : Bool :=
  match a.eofAt with
  | none => false
  | some position => decide (position ≤ a.out.length)

def finish (a : ByteReassembler) : ByteReassembler :=
  if a.complete then { a with ended := true, stored := fun _ => none } else a

noncomputable def push (a : ByteReassembler) (limit : Nat) (data : Bytes) (index : Nat) (eof : Bool) :
    ByteReassembler :=
  (((a.mark data index eof).store limit data index).release).finish

def pop (a : ByteReassembler) (len : Nat) : ByteReassembler :=
  if a.out.length - a.bytesRead < len then a else { a with bytesRead := a.bytesRead + len }

noncomputable def storedCount (a : ByteReassembler) : Nat := {i | a.stored i ≠ none}.ncard

section Fields

variable (a : ByteReassembler) (limit index len : Nat) (data : Bytes) (eof : Bool)

@[simp] theorem mark_out : (a.mark data index eof).out = a.out := by unfold mark; split <;> rfl
@[simp] theorem mark_bytesRead : (a.mark data index eof).bytesRead = a.bytesRead := by
  unfold mark; split <;> rfl
@[simp] theorem mark_stored : (a.mark data index eof).stored = a.stored := by unfold mark; split <;> rfl
@[simp] theorem mark_ended : (a.mark data index eof).ended = a.ended := by unfold mark; split <;> rfl

@[simp] theorem store_out : (a.store limit data index).out = a.out := rfl
@[simp] theorem store_bytesRead : (a.store limit data index).bytesRead = a.bytesRead := rfl
@[simp] theorem store_eofAt : (a.store limit data index).eofAt = a.eofAt := rfl
@[simp] theorem store_ended : (a.store limit data index).ended = a.ended := rfl

@[simp] theorem release_bytesRead : a.release.bytesRead = a.bytesRead := rfl
@[simp] theorem release_eofAt : a.release.eofAt = a.eofAt := rfl
@[simp] theorem release_ended : a.release.ended = a.ended := rfl

@[simp] theorem finish_out : a.finish.out = a.out := by unfold finish; split <;> rfl
@[simp] theorem finish_bytesRead : a.finish.bytesRead = a.bytesRead := by unfold finish; split <;> rfl
@[simp] theorem finish_eofAt : a.finish.eofAt = a.eofAt := by unfold finish; split <;> rfl

@[simp] theorem pop_out : (a.pop len).out = a.out := by unfold pop; split <;> rfl
@[simp] theorem pop_stored : (a.pop len).stored = a.stored := by unfold pop; split <;> rfl
@[simp] theorem pop_eofAt : (a.pop len).eofAt = a.eofAt := by unfold pop; split <;> rfl
@[simp] theorem pop_ended : (a.pop len).ended = a.ended := by unfold pop; split <;> rfl

@[simp] theorem push_bytesRead : (a.push limit data index eof).bytesRead = a.bytesRead := by
  simp [push]

@[simp] theorem push_eofAt : (a.push limit data index eof).eofAt = (a.mark data index eof).eofAt := by
  simp [push]

end Fields

theorem release_eq {a : ByteReassembler} (bytes : Bytes)
    (filled : ∀ k, k < bytes.length → a.stored (a.out.length + k) = bytes[k]?)
    (gap : a.stored (a.out.length + bytes.length) = none) :
    a.release =
      { a with out := a.out ++ bytes, stored := a.stored.dropBelow (a.out.length + bytes.length) } := by
  simp only [release, Slots.run_eq filled gap]

theorem release_self {a : ByteReassembler} (gap : ∀ i, i ≤ a.out.length → a.stored i = none) :
    a.release = a := by
  rw [release_eq [] (by simp) (gap _ (by simp))]
  have same : a.stored.dropBelow (a.out.length + ([] : Bytes).length) = a.stored := by
    funext i
    unfold Slots.dropBelow
    split
    next below => exact (gap i (by simp at below; omega)).symm
    next => rfl
  rw [same, List.append_nil]

theorem store_self {a : ByteReassembler} {limit index : Nat} {data : Bytes}
    (old : data.length = 0 ∨ index + data.length ≤ a.out.length) : a.store limit data index = a := by
  have nothing : a.stored.merge ((Slots.offer index data).clip a.out.length limit) = a.stored := by
    funext i
    have missing : (Slots.offer index data).clip a.out.length limit i = none := by
      by_cases inside : a.out.length ≤ i ∧ i < limit
      · rw [Slots.clip, if_pos inside, Slots.offer_eq_none]
        omega
      · exact Slots.clip_outside inside
    simp only [Slots.merge, missing, Option.or_none]
  simp only [store, nothing]

theorem push_spec (a : ByteReassembler) (limit : Nat) (data : Bytes) (index : Nat) (eof : Bool)
    (finite : ∃ hi, ∀ i, hi ≤ i → a.stored i = none) :
    ∃ bytes : Bytes,
      (∀ k, k < bytes.length → (a.store limit data index).stored (a.out.length + k) = bytes[k]?) ∧
      (a.store limit data index).stored (a.out.length + bytes.length) = none ∧
      a.push limit data index eof =
        { a.mark data index eof with
          out := a.out ++ bytes
          stored := (a.store limit data index).stored.dropBelow (a.out.length + bytes.length) }.finish := by
  obtain ⟨hi, none⟩ := finite
  have gap : ∃ n, (a.store limit data index).stored (a.out.length + n) = Option.none := by
    refine ⟨max hi limit, ?_⟩
    simp only [store, Slots.merge, none _ (show hi ≤ a.out.length + max hi limit by omega),
      Slots.clip_outside (show ¬ (a.out.length ≤ a.out.length + max hi limit ∧
        a.out.length + max hi limit < limit) by omega), Option.or_none]
  obtain ⟨bytes, filled, gap⟩ := Slots.exists_run gap
  have stored : ((a.mark data index eof).store limit data index).stored =
      (a.store limit data index).stored := by
    simp [store]
  refine ⟨bytes, filled, gap, ?_⟩
  rw [push, release_eq bytes (by simpa [stored] using filled) (by simpa [stored] using gap)]
  simp [store]

theorem out_prefix_push (a : ByteReassembler) (limit : Nat) (data : Bytes) (index : Nat) (eof : Bool) :
    a.out <+: (a.push limit data index eof).out := by
  simp [push, release]

def Held (a : ByteReassembler) (i : Nat) : Prop := i < a.out.length ∨ a.stored i ≠ none

def AtHand (a : ByteReassembler) (limit : Nat) (data : Bytes) (index i : Nat) : Prop :=
  i < a.out.length ∨ (a.store limit data index).stored i ≠ none

theorem atHand_iff (a : ByteReassembler) (limit : Nat) (data : Bytes) (index i : Nat) :
    a.AtHand limit data index i ↔
      a.Held i ∨ (a.out.length ≤ i ∧ i < limit) ∧ index ≤ i ∧ i < index + data.length := by
  simp only [AtHand, Held, store, Slots.merge, ne_eq, Option.or_eq_none_iff, Slots.clip, or_assoc]
  refine or_congr Iff.rfl ?_
  split_ifs with inside
  · rw [Slots.offer_eq_none, not_and_or]
    simp only [inside, and_self, true_and]
    exact or_congr Iff.rfl (by omega)
  · simp [inside]

theorem push_atHand (a : ByteReassembler) (limit : Nat) (data : Bytes) (index : Nat) (eof : Bool)
    (finite : ∃ hi, ∀ i, hi ≤ i → a.stored i = none) :
    (∀ i < (a.push limit data index eof).out.length, a.AtHand limit data index i) ∧
      ¬ a.AtHand limit data index (a.push limit data index eof).out.length ∧
      ((a.push limit data index eof).complete = false → ∀ i, (a.push limit data index eof).out.length ≤ i →
        (a.push limit data index eof).stored i = (a.store limit data index).stored i) ∧
      ∀ i, (a.push limit data index eof).stored i ≠ none →
        (a.push limit data index eof).out.length ≤ i ∧ (a.store limit data index).stored i ≠ none := by
  obtain ⟨bytes, filled, gap, pushed⟩ := a.push_spec limit data index eof finite
  rw [pushed]
  simp only [finish_out, List.length_append]
  refine ⟨?_, ?_, ?_, ?_⟩
  · intro i low
    by_cases old : i < a.out.length
    · exact Or.inl old
    · have byte := filled (i - a.out.length) (by omega)
      rw [Nat.add_sub_cancel' (by omega), List.getElem?_eq_getElem (by omega)] at byte
      exact Or.inr (by rw [byte]; simp)
  · rintro (low | present)
    · omega
    · exact present gap
  · intro running i high
    simp only [complete, finish_eofAt, finish_out] at running
    rw [finish, if_neg (by simp only [complete, running, Bool.false_eq_true, not_false_eq_true])]
    simp only [Slots.dropBelow, if_neg (Nat.not_lt.mpr high)]
  · intro i present
    unfold finish at present
    split at present
    next => exact absurd rfl present
    next =>
      simp only [Slots.dropBelow] at present
      split at present
      next => exact absurd rfl present
      next high => exact ⟨by omega, present⟩

theorem push_held (a : ByteReassembler) (limit : Nat) (data : Bytes) (index : Nat) (open_ : a.eofAt = none)
    (finite : ∃ hi, ∀ i, hi ≤ i → a.stored i = none) (i : Nat) :
    (a.push limit data index false).Held i ↔
      a.Held i ∨ (a.out.length ≤ i ∧ i < limit) ∧ index ≤ i ∧ i < index + data.length := by
  obtain ⟨released, _, kept, _⟩ := a.push_atHand limit data index false finite
  have running : (a.push limit data index false).complete = false := by
    simp [complete, mark, open_]
  have grown := (a.out_prefix_push limit data index false).length_le
  rw [← atHand_iff]
  by_cases early : i < (a.push limit data index false).out.length
  · exact iff_of_true (Or.inl early) (released i early)
  · simp only [Held, AtHand, early, false_or, kept running i (by omega), show ¬ i < a.out.length by omega]

structure Copies (stream : Bytes) (a : ByteReassembler) : Prop where
  out : a.out <+: stream
  stored : ∀ i byte, a.stored i = some byte → stream[i]? = some byte

theorem copies_new (stream : Bytes) : new.Copies stream where
  out := List.nil_prefix
  stored := by simp [new]

section Copies

variable {stream : Bytes} {a : ByteReassembler}

theorem Copies.extend {longer : Bytes} (copies : a.Copies stream) (grown : stream <+: longer) :
    a.Copies longer where
  out := copies.out.trans grown
  stored i byte present := by
    obtain ⟨inside, same⟩ := List.getElem?_eq_some_iff.mp (copies.stored i byte present)
    rw [← same]
    exact List.prefix_iff_getElem?.mp grown i inside

theorem Copies.beyond (copies : a.Copies stream) {i : Nat} (above : stream.length ≤ i) : a.stored i = none := by
  cases present : a.stored i with
  | none => rfl
  | some byte =>
      have := copies.stored i byte present
      rw [List.getElem?_eq_none above] at this
      cases this

theorem Copies.finite (copies : a.Copies stream) : ∃ hi, ∀ i, hi ≤ i → a.stored i = none :=
  ⟨stream.length, fun _ above => copies.beyond above⟩

theorem Copies.store (copies : a.Copies stream) (limit : Nat) {data : Bytes} {index : Nat}
    (excerpt : data <+: stream.drop index) : (a.store limit data index).Copies stream where
  out := copies.out
  stored i byte present := by
    simp only [ByteReassembler.store, Slots.merge, Option.or_eq_some_iff] at present
    rcases present with old | ⟨_, fresh⟩
    · exact copies.stored i byte old
    · unfold Slots.clip at fresh
      split at fresh
      next =>
        unfold Slots.offer at fresh
        split at fresh
        next low =>
          obtain ⟨inside, same⟩ := List.getElem?_eq_some_iff.mp fresh
          have offered := List.prefix_iff_getElem?.mp excerpt (i - index) inside
          rwa [List.getElem?_drop, Nat.add_sub_cancel' low, same] at offered
        next => cases fresh
      next => cases fresh

theorem Copies.push (copies : a.Copies stream) (limit : Nat) {data : Bytes} {index : Nat} (eof : Bool)
    (excerpt : data <+: stream.drop index) : (a.push limit data index eof).Copies stream := by
  have stored := copies.store limit excerpt
  obtain ⟨bytes, filled, gap, pushed⟩ := a.push_spec limit data index eof copies.finite
  have out : a.out ++ bytes <+: stream := by
    apply prefix_extend copies.out
    intro k inside
    have byte := filled k inside
    rw [List.getElem?_eq_getElem inside] at byte ⊢
    exact (stored.stored _ _ byte).symm
  rw [pushed]
  constructor
  · simpa using out
  · intro i byte present
    unfold finish at present
    split at present
    next => cases present
    next =>
      simp only [Slots.dropBelow] at present
      split at present
      next => cases present
      next => exact stored.stored i byte present

end Copies

section End

variable {stream : Bytes} {a : ByteReassembler} {limit index : Nat} {data : Bytes} {eof : Bool}

theorem complete_iff (copies : a.Copies stream) (sound : ∀ e, a.eofAt = some e → e = stream.length) :
    a.complete = true ↔ a.eofAt ≠ none ∧ a.out.length = stream.length := by
  have := copies.out.length_le
  unfold complete
  cases eofAt : a.eofAt with
  | none => simp
  | some e =>
      have := sound e eofAt
      simp only [decide_eq_true_eq, ne_eq, reduceCtorEq, not_false_eq_true, true_and]
      omega

theorem push_ended : (a.push limit data index eof).ended = (a.ended || (a.push limit data index eof).complete) := by
  have frame : (a.push limit data index eof).complete =
      (((a.mark data index eof).store limit data index).release).complete := by
    simp only [push, complete, finish_eofAt, finish_out]
  rw [frame, push, finish]
  split <;> simp_all

theorem Copies.push_ended_iff (copies : a.Copies stream) (limit : Nat)
    (excerpt : data <+: stream.drop index) (sound : ∀ e, (a.mark data index eof).eofAt = some e → e = stream.length)
    (before : a.ended = true → (a.mark data index eof).eofAt ≠ none ∧ a.out.length = stream.length) :
    (a.push limit data index eof).ended = true ↔
      (a.mark data index eof).eofAt ≠ none ∧ (a.push limit data index eof).out.length = stream.length := by
  have after := copies.push limit eof excerpt
  have grown := (a.out_prefix_push limit data index eof).length_le
  have whole := after.out.length_le
  rw [push_ended, Bool.or_eq_true, complete_iff after (by simpa using sound), push_eofAt]
  constructor
  · rintro (already | now)
    · obtain ⟨marked, full⟩ := before already
      exact ⟨marked, by omega⟩
    · exact now
  · exact Or.inr

-- Everything at hand is held after the push, also when the stream is complete and nothing stays stored.
theorem Copies.push_held_iff (copies : a.Copies stream) (limit : Nat)
    (excerpt : data <+: stream.drop index) (sound : ∀ e, (a.mark data index eof).eofAt = some e → e = stream.length)
    (i : Nat) : (a.push limit data index eof).Held i ↔ a.AtHand limit data index i := by
  have after := copies.push limit eof excerpt
  have grown := (a.out_prefix_push limit data index eof).length_le
  obtain ⟨released, _, kept, old⟩ := a.push_atHand limit data index eof copies.finite
  by_cases early : i < (a.push limit data index eof).out.length
  · exact iff_of_true (Or.inl early) (released i early)
  · simp only [Held, AtHand, early, false_or, show ¬ i < a.out.length by omega]
    refine ⟨fun present => (old i present).2, fun present => ?_⟩
    cases complete : (a.push limit data index eof).complete with
    | false => rwa [kept complete i (by omega)]
    | true =>
        have full := ((complete_iff after (by simpa using sound)).mp complete).2
        exact absurd ((copies.store limit excerpt).beyond (by omega)) present

theorem Copies.push_stuck_iff (copies : a.Copies stream) (limit : Nat) (eof : Bool)
    (excerpt : data <+: stream.drop index) (sound : ∀ e, (a.mark data index eof).eofAt = some e → e = stream.length) :
    ((a.push limit data index eof).out.length < stream.length ∧
        ∀ i, (a.push limit data index eof).stored i = none) ↔
      ∃ m < stream.length, ∀ i < stream.length, (a.AtHand limit data index i ↔ i < m) := by
  have after := copies.push limit eof excerpt
  have whole := after.out.length_le
  obtain ⟨released, missing, kept, old⟩ := a.push_atHand limit data index eof copies.finite
  constructor
  · rintro ⟨unfinished, nothing⟩
    have running : (a.push limit data index eof).complete = false := by
      by_contra complete
      rw [Bool.not_eq_false, complete_iff after (by simpa using sound)] at complete
      omega
    refine ⟨_, unfinished, fun i _ => ⟨fun here => ?_, released i⟩⟩
    by_contra high
    rcases here with low | present
    · have := (a.out_prefix_push limit data index eof).length_le
      omega
    · exact present (by rw [← kept running i (by omega), nothing i])
  · rintro ⟨m, below, exactly⟩
    have stop : (a.push limit data index eof).out.length = m := by
      rcases Nat.lt_trichotomy (a.push limit data index eof).out.length m with less | same | more
      · exact absurd ((exactly _ (by omega)).mpr less) missing
      · exact same
      · have := (exactly m below).mp (released m more)
        omega
    refine ⟨by omega, fun i => ?_⟩
    by_contra present
    obtain ⟨high, stored⟩ := old i present
    have := (exactly i (by by_contra beyond; exact present (after.beyond (by omega)))).mp (Or.inr stored)
    omega

end End

end ByteReassembler

end Sponge
