import Sponge.ByteReassembler
import Sponge.ReassemblerLoops

set_option autoImplicit false

namespace Sponge

open Shared

namespace StreamReassembler

-- The interval list against the per-byte store. Between the two loops of `pushSubstring` a span
-- may start at the first missing position (`slack` 0); at rest none does (`slack` 1).
structure Relates (slack : Nat) (r : StreamReassembler) (a : ByteReassembler) : Prop where
  buffer : r.output.buffer = a.out.drop a.bytesRead
  read : a.bytesRead ≤ a.out.length
  written : r.output.writtenLength = a.out.length
  start : r.unassembledStartIndex = a.out.length
  ended : r.output.isEnded = a.ended
  eof : a.eofAt = if r.haveEof then some r.eofIndex else none
  stored : a.stored = Span.lookup r.stagingList
  size : r.stagingSize = Span.size r.stagingList
  sorted : Span.Sorted (a.out.length + slack) r.stagingList
  word : ∀ span ∈ r.stagingList, span.stop + 1 < 2 ^ 64
  window : ∀ span ∈ r.stagingList, span.stop < a.bytesRead + r.capacity
  outWord : a.out.length < 2 ^ 64
  outWindow : a.out.length ≤ a.bytesRead + r.capacity
  outputCapacity : r.output.capacity = r.capacity

theorem relates_new (capacity : Nat) : Relates 1 (new capacity) ByteReassembler.new := by
  constructor <;>
    simp [new, ByteReassembler.new, Span.size, Span.Sorted, Span.lookup]

namespace Relates

variable {slack : Nat} {r : StreamReassembler} {a : ByteReassembler}

theorem bytesRead (rel : Relates slack r a) : r.output.bytesRead = a.bytesRead := by
  have := rel.read
  simp only [ByteStream.bytesRead, ByteStream.bytesWritten, ByteStream.bufferSize, rel.written, rel.buffer,
    List.length_drop]
  omega

theorem remainingCapacity (rel : Relates slack r a) :
    r.output.remainingCapacity = a.bytesRead + r.capacity - a.out.length := by
  have := rel.read
  simp only [ByteStream.remainingCapacity, ByteStream.bufferSize, rel.outputCapacity, rel.buffer,
    List.length_drop]
  omega

theorem unassembledMaxIndex (rel : Relates slack r a) :
    r.unassembledMaxIndex = add64 a.bytesRead (sub64 r.capacity 1) := by
  have := rel.read
  have := rel.outWord
  rw [StreamReassembler.unassembledMaxIndex, rel.start, ByteStream.bufferSize, rel.buffer, List.length_drop,
    sub64_of_le (by omega) (by omega)]
  congr 1
  omega

theorem unassembledMaxIndex_lt (rel : Relates slack r a) (positive : 1 ≤ r.capacity) :
    r.unassembledMaxIndex < a.bytesRead + r.capacity := by
  have sum := add64_le a.bytesRead (sub64 r.capacity 1)
  have difference := sub64_le positive
  rw [rel.unassembledMaxIndex]
  omega

theorem mark (rel : Relates slack r a) (data : Bytes) (index : Nat) (eof : Bool)
    (word : index + data.length < 2 ^ 64) :
    Relates slack (r.markEof data index eof) (a.mark data index eof) := by
  cases eof with
  | false => exact rel
  | true => exact { rel with eof := by simp [markEof, ByteReassembler.mark, add64_of_lt word] }

-- `tempEnd` is where the data ends, reduced to 64 bits: what is staged is part of the data all the same.
theorem stage_stored (rel : Relates 1 r a) (positive : 1 ≤ r.capacity) {data : Bytes} {index tempEnd : Nat}
    (reduced : sub64 (add64 index data.length) 1 = tempEnd) (inside : tempEnd < index + data.length)
    (fits : min (index + data.length) (r.unassembledMaxIndex + 1) < 2 ^ 64) :
    Relates 0 (r.stage data index) { a with stored := Span.lookup (r.stage data index).stagingList } ∧
      Span.lookup (r.stage data index).stagingList = (Span.lookup r.stagingList).merge
        ((Slots.offer index data).clip (max a.out.length index) (min tempEnd r.unassembledMaxIndex + 1)) := by
  have below := rel.unassembledMaxIndex_lt positive
  have word : tempEnd < 2 ^ 64 := by
    rw [← reduced]
    exact sub64_lt _ _
  obtain ⟨sorted, lookup, size⟩ := place_spec data index r.unassembledMaxIndex r.stagingSize
    (rel.sorted.weaken (Nat.le_add_right a.out.length 1)) rel.word
    (le_max_left a.out.length index) (le_max_right a.out.length index) inside word
  have placed : place data index r.unassembledMaxIndex (max a.out.length index) tempEnd r.stagingList
      r.stagingSize = ((r.stage data index).stagingList, (r.stage data index).stagingSize) := by
    simp only [StreamReassembler.stage, rel.start, reduced]
  rw [placed] at sorted lookup size
  dsimp only at sorted lookup size
  have bounded (hi : Nat) (old : ∀ span ∈ r.stagingList, span.stop < hi)
      (new : min (index + data.length) (r.unassembledMaxIndex + 1) ≤ hi) :
      ∀ span ∈ (r.stage data index).stagingList, span.stop < hi := by
    apply sorted.stop_lt
    intro i above
    simp only [lookup, Slots.merge, Span.lookup_bound rel.sorted old above, Option.none_or, Slots.clip]
    split
    next within => exact (Slots.offer_eq_none index data i).mpr (by omega)
    next => rfl
  have words := bounded (2 ^ 64 - 1) (fun span member => by have := rel.word span member; omega) (by omega)
  refine ⟨?_, lookup⟩
  exact
    { rel with
      stored := rfl
      sorted := sorted
      size := by
        have := rel.size
        omega
      word := fun span member => by have := words span member; omega
      window := bounded (a.bytesRead + r.capacity) rel.window (by omega) }

theorem stage (rel : Relates 1 r a) (positive : 1 ≤ r.capacity) {data : Bytes} {index : Nat}
    (nonempty : data.length ≠ 0) (word : index + data.length < 2 ^ 64) :
    Relates 0 (r.stage data index) (a.store (r.unassembledMaxIndex + 1) data index) := by
  have reduced : sub64 (add64 index data.length) 1 = index + data.length - 1 := by
    rw [add64_of_lt word, sub64_of_le (by omega) word]
  obtain ⟨staged, lookup⟩ := rel.stage_stored positive reduced (by omega) (by omega)
  have stored : (a.store (r.unassembledMaxIndex + 1) data index).stored =
      Span.lookup (r.stage data index).stagingList := by
    simp only [lookup, ByteReassembler.store, rel.stored]
    funext i
    refine congrArg (Span.lookup r.stagingList i).or ?_
    by_cases offered : index ≤ i ∧ i < index + data.length
    · exact Slots.clip_congr (by omega)
    · have missing := (Slots.offer_eq_none index data i).mpr (by omega)
      simp [Slots.clip, missing]
  rw [← stored] at staged
  exact staged

theorem release (rel : Relates 0 r a) : Relates 1 (flush r.stagingList r) a.release := by
  have room := rel.remainingCapacity
  have sorted := rel.sorted
  rw [← rel.start] at sorted
  obtain ⟨bytes, flushed⟩ := flush_spec sorted rel.word
    (fun span member => by
      have := rel.window span member
      have := rel.outWindow
      rw [rel.start, room]
      omega) rel.size
  have released : a.release =
      { a with out := a.out ++ bytes, stored := a.stored.dropBelow (a.out.length + bytes.length) } := by
    apply ByteReassembler.release_eq
    · simpa only [rel.stored, rel.start] using flushed.filled
    · simpa only [rel.stored, rel.start] using flushed.gap
  have stored : Span.lookup (flush r.stagingList r).stagingList = a.release.stored := by
    rw [flushed.stored, released, rel.stored, rel.start]
  have bounded (hi : Nat) (old : ∀ span ∈ r.stagingList, span.stop < hi) :
      ∀ span ∈ (flush r.stagingList r).stagingList, span.stop < hi := by
    apply flushed.sorted.stop_lt
    intro i above
    rw [flushed.stored]
    unfold Slots.dropBelow
    split
    next => rfl
    next => exact Span.lookup_bound rel.sorted old above
  have reach (hi : Nat) (old : ∀ span ∈ r.stagingList, span.stop < hi) (base : a.out.length ≤ hi) :
      a.out.length + bytes.length ≤ hi := by
    by_contra beyond
    have last := flushed.filled (bytes.length - 1) (by omega)
    rw [rel.start, Span.lookup_bound rel.sorted old (by omega), List.getElem?_eq_getElem (by omega)] at last
    cases last
  have wordLimit : ∀ span ∈ r.stagingList, span.stop < 2 ^ 64 - 1 := fun span member => by
    have := rel.word span member
    omega
  have outWord := reach (2 ^ 64 - 1) wordLimit (by have := rel.outWord; omega)
  rw [released] at stored ⊢
  constructor
  case stored => exact stored.symm
  case sorted => simpa only [rel.start, List.length_append] using flushed.sorted
  case size => exact flushed.size
  case word => exact fun span member => by have := bounded (2 ^ 64 - 1) wordLimit span member; omega
  case window => simpa only [flushed.capacity] using bounded _ rel.window
  case buffer =>
    rw [flushed.buffer, rel.buffer, List.drop_append_of_le_length rel.read]
  case read => simp only [List.length_append]; have := rel.read; omega
  case written => simp only [flushed.written, rel.written, List.length_append]
  case start => simp only [flushed.start, rel.start, List.length_append]
  case ended => rw [flushed.ended]; exact rel.ended
  case eof => simp only [flushed.haveEof, flushed.eofIndex]; exact rel.eof
  case outWord => simp only [List.length_append]; omega
  case outWindow =>
    simpa only [List.length_append, flushed.capacity] using reach _ rel.window rel.outWindow
  case outputCapacity => rw [flushed.outputCapacity, flushed.capacity]; exact rel.outputCapacity

theorem complete (rel : Relates slack r a) :
    a.complete = (r.haveEof && decide (r.eofIndex ≤ r.unassembledStartIndex)) := by
  rw [ByteReassembler.complete, rel.eof, rel.start]
  cases r.haveEof <;> rfl

theorem finish (rel : Relates slack r a) : Relates slack r.eofProcess a.finish := by
  rw [eofProcess, ByteReassembler.finish, rel.complete]
  split
  next =>
    exact
      { rel with
        ended := rfl
        stored := rfl
        size := rfl
        sorted := trivial
        word := by simp
        window := by simp }
  next => exact rel

theorem push (rel : Relates 1 r a) (positive : 1 ≤ r.capacity) (data : Bytes) (index : Nat) (eof : Bool)
    (word : index + data.length < 2 ^ 64) :
    Relates 1 (r.pushSubstring data index eof) (a.push (r.unassembledMaxIndex + 1) data index eof) := by
  have marked := rel.mark data index eof word
  have quiet : ∀ i, i ≤ (a.mark data index eof).out.length → (a.mark data index eof).stored i = none := by
    intro i low
    rw [marked.stored]
    exact Span.lookup_below marked.sorted (by omega)
  have edge : (r.markEof data index eof).unassembledMaxIndex = r.unassembledMaxIndex := by
    cases eof <;> rfl
  have capacity : (r.markEof data index eof).capacity = r.capacity := by cases eof <;> rfl
  have early (old : data.length = 0 ∨ index + data.length ≤ a.out.length) :
      Relates 1 (r.markEof data index eof).eofProcess (a.push (r.unassembledMaxIndex + 1) data index eof) := by
    have idle : a.push (r.unassembledMaxIndex + 1) data index eof = (a.mark data index eof).finish := by
      rw [ByteReassembler.push, ByteReassembler.store_self (by simpa using old),
        ByteReassembler.release_self quiet]
    rw [idle]
    exact marked.finish
  unfold pushSubstring
  dsimp only
  by_cases nonempty : data.length = 0
  · rw [if_pos nonempty]
    exact early (Or.inl nonempty)
  · rw [if_neg nonempty, add64_of_lt word, marked.start, ByteReassembler.mark_out]
    by_cases assembled : index + data.length < a.out.length
    · rw [if_pos assembled]
      exact early (Or.inr (by omega))
    · rw [if_neg assembled, ByteReassembler.push, ← edge]
      exact (marked.stage (by rw [capacity]; exact positive) nonempty word).release.finish

-- A push of any data at any index keeps to some per-byte store, as long as the window stays inside 64 bits.
theorem push_any (rel : Relates 1 r a) (positive : 1 ≤ r.capacity) (window : a.bytesRead + r.capacity < 2 ^ 64)
    (data : Bytes) (index : Nat) (eof : Bool) : ∃ a', Relates 1 (r.pushSubstring data index eof) a' := by
  have marked : ∃ a', Relates 1 (r.markEof data index eof) a' ∧ a'.bytesRead = a.bytesRead := by
    cases eof with
    | false => exact ⟨a, rel, rfl⟩
    | true =>
        refine ⟨{ a with eofAt := some (add64 index data.length) }, ?_, rfl⟩
        exact { rel with eof := by simp [markEof] }
  obtain ⟨a', marked, read⟩ := marked
  unfold pushSubstring
  dsimp only
  split_ifs with nothing assembled
  · exact ⟨_, marked.finish⟩
  · exact ⟨_, marked.finish⟩
  · have capacity : (r.markEof data index eof).capacity = r.capacity := markEof_capacity ..
    have edge := marked.unassembledMaxIndex_lt (by rw [capacity]; exact positive)
    rw [read, capacity] at edge
    obtain ⟨tempEnd, reduced⟩ : ∃ tempEnd, sub64 (add64 index data.length) 1 = tempEnd := ⟨_, rfl⟩
    have inside : tempEnd < index + data.length := by
      simp only [sub64, add64] at reduced
      omega
    obtain ⟨staged, _⟩ := marked.stage_stored (by rw [capacity]; exact positive) reduced inside (by omega)
    exact ⟨_, staged.release.finish⟩

theorem push_returns (rel : Relates 1 r a) (data : Bytes) (index : Nat) (eof : Bool) :
    r.pushSubstringExcept data index eof = (r.pushSubstring data index eof, .ok ()) := by
  refine (r.pushSubstringExcept_cases data index eof).resolve_left ?_
  rintro ⟨list, size, thrown⟩
  have marked : (r.markEof data index eof).stagingList = r.stagingList ∧
      (r.markEof data index eof).unassembledStartIndex = r.unassembledStartIndex := by cases eof <;> exact ⟨rfl, rfl⟩
  have result := congrArg Prod.snd thrown
  unfold pushSubstringExcept at result
  dsimp only at result
  split_ifs at result with nothing assembled
  have inside : sub64 (add64 index data.length) 1 < index + data.length := by
    simp only [sub64, add64]
    omega
  have returns : ((r.markEof data index eof).stageExcept data index).2 = .ok () := by
    unfold stageExcept
    dsimp only
    rw [marked.1, marked.2]
    exact placeExcept_ok data index _ _ rel.sorted rel.word (le_max_right _ _) inside (sub64_lt _ _)
  generalize (r.markEof data index eof).stageExcept data index = staged at result returns
  obtain ⟨after, outcome⟩ := staged
  obtain rfl : outcome = .ok () := returns
  cases result

theorem pop (rel : Relates slack r a) (len : Nat) : Relates slack (r.popOutput len) (a.pop len) := by
  have buffered : r.output.bufferSize = a.out.length - a.bytesRead := by
    rw [ByteStream.bufferSize, rel.buffer, List.length_drop]
  have read := rel.read
  have outWindow := rel.outWindow
  unfold StreamReassembler.popOutput ByteReassembler.pop
  rw [← buffered]
  by_cases short : r.output.bufferSize < len
  · rw [if_pos short]
    exact
      { rel with
        buffer := by simpa [short] using rel.buffer
        written := by simpa using rel.written
        ended := by simpa using rel.ended
        outputCapacity := by simpa using rel.outputCapacity }
  · rw [if_neg short]
    exact
      { rel with
        buffer := by simp [short, rel.buffer, List.drop_drop]
        read := by dsimp only; omega
        written := by simpa using rel.written
        ended := by simpa using rel.ended
        window := fun span member => by have := rel.window span member; dsimp only at this ⊢; omega
        outWindow := by dsimp only at outWindow ⊢; omega
        outputCapacity := by simpa using rel.outputCapacity }

end Relates

inductive Op
  | push (data : Bytes) (index : Nat) (eof : Bool)
  | read (len : Nat)
  | popOutput (len : Nat)
  deriving DecidableEq

def step (r : StreamReassembler) : Op → StreamReassembler
  | .push data index eof => r.pushSubstring data index eof
  | .read len => { r with output := (r.output.read len).2 }
  | .popOutput len => r.popOutput len

def run (capacity : Nat) (ops : List Op) : StreamReassembler := ops.foldl step (new capacity)

def Op.inWord : Op → Prop
  | .push data index _ => index + data.length ≤ 2 ^ 64 - 1
  | _ => True

end StreamReassembler

namespace ByteReassembler

noncomputable def step (capacity : Nat) (a : ByteReassembler) : StreamReassembler.Op → ByteReassembler
  | .push data index eof => a.push (a.bytesRead + capacity) data index eof
  | .read len | .popOutput len => a.pop len

noncomputable def run (capacity : Nat) (ops : List StreamReassembler.Op) : ByteReassembler :=
  ops.foldl (step capacity) new

theorem run_concat (capacity : Nat) (ops : List StreamReassembler.Op) (op : StreamReassembler.Op) :
    run capacity (ops ++ [op]) = (run capacity ops).step capacity op := by
  simp [run]

end ByteReassembler

namespace StreamReassembler

@[simp] theorem step_capacity (r : StreamReassembler) (op : Op) : (r.step op).capacity = r.capacity := by
  cases op <;> simp [step, popOutput, pushSubstring_capacity]

theorem step_bytesRead (r : StreamReassembler) (op : Op) :
    r.output.bytesRead ≤ (r.step op).output.bytesRead := by
  cases op <;>
    simp [step, popOutput, pushSubstring_bytesRead, ByteStream.read_snd, ByteStream.bytesRead_popOutput]

theorem run_concat (capacity : Nat) (ops : List Op) (op : Op) :
    run capacity (ops ++ [op]) = (run capacity ops).step op := by
  simp [run]

@[simp] theorem run_capacity (capacity : Nat) (ops : List Op) : (run capacity ops).capacity = capacity := by
  induction ops using List.reverseRecOn with
  | nil => rfl
  | append_singleton ops op ih => rw [run_concat, step_capacity, ih]

structure Corresponds (r : StreamReassembler) (a : ByteReassembler) : Prop where
  buffered : r.streamOut.buffer = a.out.drop a.bytesRead
  bytesRead : r.streamOut.bytesRead = a.bytesRead
  bytesWritten : r.streamOut.bytesWritten = a.out.length
  firstMissing : r.unassembledStartIndex = a.out.length
  inputEnded : r.streamOut.inputEnded = a.ended
  eofAt : (if r.haveEof then some r.eofIndex else none) = a.eofAt
  stored : Span.lookup r.stagingList = a.stored
  unassembledBytes : r.unassembledBytes = a.storedCount
  disjoint : r.stagingList.Pairwise (fun before after => before.stop < after.start)
  strings : ∀ span ∈ r.stagingList,
    r.unassembledStartIndex < span.start ∧ span.start ≤ span.stop ∧
      span.items.length = span.stop - span.start + 1

theorem Relates.corresponds {r : StreamReassembler} {a : ByteReassembler} (rel : Relates 1 r a) :
    Corresponds r a where
  buffered := rel.buffer
  bytesRead := rel.bytesRead
  bytesWritten := rel.written
  firstMissing := rel.start
  inputEnded := rel.ended
  eofAt := rel.eof.symm
  stored := rel.stored.symm
  unassembledBytes := by
    rw [StreamReassembler.unassembledBytes, rel.size, ByteReassembler.storedCount, rel.stored]
    exact Span.size_eq_ncard rel.sorted
  disjoint := rel.sorted.pairwise.1
  strings := by
    intro span member
    obtain ⟨low, nonempty, length⟩ := rel.sorted.pairwise.2 span member
    rw [rel.start]
    exact ⟨by omega, nonempty, by omega⟩

theorem Relates.step {r : StreamReassembler} {a : ByteReassembler} (rel : Relates 1 r a)
    (positive : 1 ≤ r.capacity) (window : a.bytesRead + r.capacity ≤ 2 ^ 64 - 1) (op : Op)
    (word : op.inWord) : Relates 1 (r.step op) (a.step r.capacity op) := by
  cases op with
  | push data index eof =>
      have edge : r.unassembledMaxIndex + 1 = a.bytesRead + r.capacity := by
        rw [rel.unassembledMaxIndex, sub64_of_le positive (by omega), add64_of_lt (by omega)]
        omega
      have next := rel.push positive data index eof (by simp only [Op.inWord] at word; omega)
      rwa [edge] at next
  | read len =>
      have next := rel.pop len
      rwa [popOutput, ← ByteStream.read_snd] at next
  | popOutput len => exact rel.pop len

theorem run_relates (capacity : Nat) (positive : 1 ≤ capacity) (ops : List Op)
    (words : ∀ op ∈ ops, op.inWord)
    (window : (run capacity ops).output.bytesRead + capacity ≤ 2 ^ 64 - 1) :
    Relates 1 (run capacity ops) (ByteReassembler.run capacity ops) := by
  induction ops using List.reverseRecOn with
  | nil => exact relates_new capacity
  | append_singleton ops op ih =>
      have mono := step_bytesRead (run capacity ops) op
      rw [run_concat] at window
      have before : (run capacity ops).output.bytesRead + capacity ≤ 2 ^ 64 - 1 := by omega
      have rel := ih (fun op member => words op (by simp [member])) before
      have next := rel.step (by simpa using positive) (by simpa [← rel.bytesRead] using before) op
        (words op (by simp))
      rwa [run_capacity, ← run_concat, ← ByteReassembler.run_concat] at next

theorem reassembler_refines_bytes (capacity : Nat) (positive : 1 ≤ capacity) (ops : List Op)
    (words : ∀ op ∈ ops, op.inWord)
    (window : (run capacity ops).streamOut.bytesRead + capacity ≤ 2 ^ 64 - 1) :
    Corresponds (run capacity ops) (ByteReassembler.run capacity ops) :=
  (run_relates capacity positive ops words window).corresponds

def sampleOps : List Op :=
  [.push [1, 2, 3] 1 false, .push [9, 9, 9, 9] 0 false, .read 2, .push [7, 7] 4 true]

theorem reassembler_refines_bytes_sample :
    (run 4 sampleOps).streamOut.buffer = [2, 3, 7, 7] ∧
      Corresponds (run 4 sampleOps) (ByteReassembler.run 4 sampleOps) :=
  ⟨by decide, reassembler_refines_bytes 4 (by decide) sampleOps
    (by simp [sampleOps, Op.inWord]) (by decide)⟩

end StreamReassembler

end Sponge
