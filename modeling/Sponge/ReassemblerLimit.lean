import Sponge.ReassemblerRefinement
import Sponge.Shared.Runs

set_option autoImplicit false

namespace Sponge.StreamReassembler

open Shared

/-- The documented limit: what is buffered and what waits behind a hole fit into the capacity together, and the output
has taken every byte that the reassembler counts as assembled. -/
structure WithinLimit (r : StreamReassembler) : Prop where
  memory : r.streamOut.bufferSize + r.unassembledBytes ≤ r.capacity
  taken : r.streamOut.bytesWritten = r.unassembledStartIndex

theorem Relates.withinLimit {r : StreamReassembler} {a : ByteReassembler} (rel : Relates 1 r a) : r.WithinLimit where
  memory := by
    have read := rel.read
    have outWindow := rel.outWindow
    have size := rel.sorted.size_le rel.window
    rw [streamOut, ByteStream.bufferSize, rel.buffer, List.length_drop, unassembledBytes, rel.size]
    omega
  taken := rel.written.trans rel.start.symm

theorem Relates.step_positive {r : StreamReassembler} {a : ByteReassembler} (rel : Relates 1 r a)
    (positive : 1 ≤ r.capacity) {op : Op} (word : op.inWord) : ∃ a', Relates 1 (r.step op) a' := by
  cases op with
  | push data index eof =>
      simp only [Op.inWord] at word
      exact ⟨_, rel.push positive data index eof (by omega)⟩
  | read len =>
      have next := rel.pop len
      rw [popOutput, ← ByteStream.read_snd] at next
      exact ⟨_, next⟩
  | popOutput len => exact ⟨_, rel.pop len⟩

theorem withinLimit_of_positive {capacity : Nat} (positive : 1 ≤ capacity) (ops : List Op)
    (words : ∀ op ∈ ops, op.inWord) : (run capacity ops).WithinLimit := by
  have related : ∃ a, Relates 1 (run capacity ops) a := by
    induction ops using List.reverseRecOn with
    | nil => exact ⟨_, relates_new capacity⟩
    | append_singleton ops op ih =>
        obtain ⟨a, rel⟩ := ih fun op member => words op (by simp [member])
        rw [run_concat]
        exact rel.step_positive (by simpa using positive) (words op (by simp))
  obtain ⟨a, rel⟩ := related
  exact rel.withinLimit

structure Blank (r : StreamReassembler) : Prop where
  stagingList : r.stagingList = []
  stagingSize : r.stagingSize = 0
  start : r.unassembledStartIndex = 0
  capacity : r.capacity = 0
  buffer : r.output.buffer = []
  written : r.output.writtenLength = 0
  outputCapacity : r.output.capacity = 0

theorem blank_new : (new 0).Blank := ⟨rfl, rfl, rfl, rfl, rfl, rfl, rfl⟩

-- Without capacity the edge of the window is the largest index: `_capacity - 1` wraps. A push is then harmless
-- if it brings no byte, or none at the first index while the stream is known to be empty.
def Harmless (r : StreamReassembler) : Op → Prop
  | .push data index eof => data = [] ∨ r.haveEof = true ∧ r.eofIndex = 0 ∧ 0 < index ∧ eof = false
  | _ => True

instance (r : StreamReassembler) : (op : Op) → Decidable (r.Harmless op)
  | .push _ _ _ => inferInstanceAs (Decidable (_ ∨ _))
  | .read _ | .popOutput _ => inferInstanceAs (Decidable True)

namespace Blank

variable {r : StreamReassembler}

theorem withinLimit (blank : r.Blank) : r.WithinLimit where
  memory := by simp [streamOut, ByteStream.bufferSize, unassembledBytes, blank.buffer, blank.stagingSize]
  taken := blank.written.trans blank.start.symm

theorem markEof (blank : r.Blank) (data : Bytes) (index : Nat) (eof : Bool) : (r.markEof data index eof).Blank := by
  cases eof with
  | false => exact blank
  | true => exact { blank with }

theorem eofProcess (blank : r.Blank) : r.eofProcess.Blank := by
  unfold StreamReassembler.eofProcess
  split
  next => exact { blank with stagingList := rfl, stagingSize := rfl }
  next => exact blank

theorem popOutput (blank : r.Blank) (len : Nat) : (r.popOutput len).Blank :=
  { blank with
    buffer := by simp [StreamReassembler.popOutput, blank.buffer]
    written := by simp [StreamReassembler.popOutput, blank.written]
    outputCapacity := by simp [StreamReassembler.popOutput, blank.outputCapacity] }

theorem stage (blank : r.Blank) {data : Bytes} {index : Nat} (nonempty : data ≠ [])
    (word : index + data.length ≤ 2 ^ 64 - 1) :
    r.stage data index =
      { r with stagingList := [⟨index, index + data.length - 1, data⟩], stagingSize := data.length } := by
  have positive := List.length_pos_iff.mpr nonempty
  have edge : r.unassembledMaxIndex = 2 ^ 64 - 1 := by
    rw [unassembledMaxIndex, blank.start, blank.capacity, ByteStream.bufferSize, blank.buffer]
    rfl
  have tempEnd : sub64 (add64 index data.length) 1 = index + data.length - 1 := by
    rw [add64_of_lt (by omega), sub64_of_le (by omega) (by omega)]
  have whole : index + data.length - 1 - index + 1 = data.length := by omega
  have size : 0 + (index + data.length - 1 + 1 - index) = data.length := by omega
  simp only [StreamReassembler.stage, tempEnd, edge, blank.start, blank.stagingList, blank.stagingSize, Nat.zero_max,
    place, Nat.min_eq_left (show index + data.length - 1 ≤ 2 ^ 64 - 1 by omega), piece,
    if_pos (show index ≤ index + data.length - 1 by omega), sub64_of_le le_rfl (show index < 2 ^ 64 by omega),
    Nat.sub_self, List.drop_zero, whole, List.take_length, substringLength, size]

theorem push_first (blank : r.Blank) {data : Bytes} (nonempty : data ≠ []) (word : data.length ≤ 2 ^ 64 - 1)
    (eof : Bool) : ¬ (r.pushSubstring data 0 eof).WithinLimit := by
  have positive := List.length_pos_iff.mpr nonempty
  have marked := blank.markEof data 0 eof
  have staged : (r.markEof data 0 eof).stage data 0 = _ := marked.stage nonempty (by omega)
  have written : ((r.markEof data 0 eof).output.append data).writtenLength = 0 := by
    rw [ByteStream.append_writtenLength, marked.written, ByteStream.appendLength, ByteStream.remainingCapacity,
      marked.outputCapacity]
    simp
  have start : add64 (0 + data.length - 1) 1 = data.length := by
    rw [add64_of_lt (by omega)]
    omega
  intro within
  have taken := within.taken
  simp only [pushSubstring] at taken
  rw [if_neg (by omega), if_neg (by rw [marked.start]; omega), staged] at taken
  simp only [flush, marked.start, if_pos] at taken
  revert taken
  simp only [start, ByteStream.write_snd]
  unfold StreamReassembler.eofProcess
  split
  all_goals
    simp only [streamOut, ByteStream.bytesWritten, ByteStream.endInput_writtenLength, written]
    omega

theorem push_later (blank : r.Blank) {data : Bytes} {index : Nat} (nonempty : data ≠ []) (later : 0 < index)
    (word : index + data.length ≤ 2 ^ 64 - 1) (eof : Bool) :
    r.pushSubstring data index eof =
      { r.markEof data index eof with
        stagingList := [⟨index, index + data.length - 1, data⟩], stagingSize := data.length }.eofProcess := by
  have positive := List.length_pos_iff.mpr nonempty
  have marked := blank.markEof data index eof
  simp only [pushSubstring]
  rw [if_neg (by omega), if_neg (by rw [marked.start]; omega), marked.stage nonempty word]
  simp only [flush, marked.start]
  rw [if_neg (by omega)]

theorem push_later_cleared (blank : r.Blank) {data : Bytes} {index : Nat} (nonempty : data ≠ []) (later : 0 < index)
    (word : index + data.length ≤ 2 ^ 64 - 1) (known : r.haveEof = true) (zero : r.eofIndex = 0) :
    (r.pushSubstring data index false).Blank := by
  have ended : (r.haveEof && decide (r.eofIndex ≤ r.unassembledStartIndex)) = true := by simp [known, zero]
  rw [blank.push_later nonempty later word false, StreamReassembler.eofProcess, if_pos (by exact ended)]
  exact { blank with stagingList := rfl, stagingSize := rfl }

theorem push_later_held (blank : r.Blank) {data : Bytes} {index : Nat} (nonempty : data ≠ []) (later : 0 < index)
    (word : index + data.length ≤ 2 ^ 64 - 1) {eof : Bool}
    (open_ : ¬ (r.haveEof = true ∧ r.eofIndex = 0 ∧ eof = false)) :
    ¬ (r.pushSubstring data index eof).WithinLimit := by
  have positive := List.length_pos_iff.mpr nonempty
  have marked := blank.markEof data index eof
  have waiting : ¬ ((r.markEof data index eof).haveEof &&
      decide ((r.markEof data index eof).eofIndex ≤ (r.markEof data index eof).unassembledStartIndex)) = true := by
    rw [marked.start]
    cases eof with
    | false => simpa [StreamReassembler.markEof] using open_
    | true =>
        have past : ¬ add64 index data.length ≤ 0 := by
          rw [add64_of_lt (by omega)]
          omega
        simp [StreamReassembler.markEof, past]
  intro within
  have memory := within.memory
  rw [blank.push_later nonempty later word eof, StreamReassembler.eofProcess, if_neg (by exact waiting)] at memory
  simp only [unassembledBytes, marked.capacity] at memory
  omega

theorem step_harmless (blank : r.Blank) {op : Op} (word : op.inWord) (harmless : r.Harmless op) :
    (r.step op).Blank := by
  cases op with
  | push data index eof =>
      by_cases nothing : data = []
      · subst nothing
        exact (blank.markEof [] index eof).eofProcess
      · obtain ⟨known, zero, later, rfl⟩ := harmless.resolve_left nothing
        exact blank.push_later_cleared nothing later word known zero
  | read len =>
      have popped := blank.popOutput len
      rwa [StreamReassembler.popOutput, ← ByteStream.read_snd] at popped
  | popOutput len => exact blank.popOutput len

theorem step_harmful (blank : r.Blank) {op : Op} (word : op.inWord) (harmful : ¬ r.Harmless op) :
    ¬ (r.step op).WithinLimit := by
  cases op with
  | push data index eof =>
      rw [Harmless, not_or] at harmful
      obtain ⟨nonempty, open_⟩ := harmful
      simp only [Op.inWord] at word
      rcases Nat.eq_zero_or_pos index with rfl | later
      · exact blank.push_first nonempty (by omega) eof
      · exact blank.push_later_held nonempty later word fun ended => open_ ⟨ended.1, ended.2.1, later, ended.2.2⟩
  | read len => exact absurd trivial harmful
  | popOutput len => exact absurd trivial harmful

-- A whole run without capacity, by induction on its operations: the first harmful one breaks the limit.
theorem run_iff (blank : r.Blank) (ops : List Op) (words : ∀ op ∈ ops, op.inWord) :
    (∀ front, front <+: ops → (front.foldl StreamReassembler.step r).WithinLimit) ↔
      AllAllowed StreamReassembler.step Harmless r ops := by
  induction ops generalizing r with
  | nil =>
      refine iff_of_true (fun front start => ?_) trivial
      rw [List.prefix_nil.mp start]
      exact blank.withinLimit
  | cons op ops ih =>
      have word := words op (by simp)
      have rest (harmless : r.Harmless op) :=
        ih (blank.step_harmless word harmless) fun later member => words later (by simp [member])
      constructor
      · intro within
        have harmless : r.Harmless op := by
          by_contra harmful
          exact blank.step_harmful word harmful (within [op] (by simp))
        refine ⟨harmless, (rest harmless).mp fun front start => within (op :: front) ?_⟩
        exact (List.prefix_cons_inj op).mpr start
      · rintro ⟨harmless, later⟩ front start
        cases front with
        | nil => exact blank.withinLimit
        | cons first front =>
            obtain ⟨rfl, tail⟩ := List.cons_prefix_cons.mp start
            exact (rest harmless).mpr later front tail

end Blank

theorem memory_limit_iff (capacity : Nat) (ops : List Op) (words : ∀ op ∈ ops, op.inWord) :
    (∀ front, front <+: ops → (run capacity front).WithinLimit) ↔
      1 ≤ capacity ∨ AllAllowed step Harmless (new capacity) ops := by
  rcases Nat.eq_zero_or_pos capacity with rfl | positive
  · rw [or_iff_right (by omega)]
    exact blank_new.run_iff ops words
  · refine iff_of_true (fun front start => ?_) (Or.inl positive)
    exact withinLimit_of_positive positive front fun op member => words op (start.subset member)

theorem memory_limit_iff_sample : (run 4 sampleOps).WithinLimit ∧ (run 4 (sampleOps.take 2)).WithinLimit := by
  have limit := (memory_limit_iff 4 sampleOps (by simp [sampleOps, Op.inWord])).mpr (Or.inl (by decide))
  exact ⟨limit _ List.prefix_rfl, limit _ (List.take_prefix 2 _)⟩

theorem limit_broken_without_capacity :
    ((run 0 [.push [1] 0 false]).streamOut.bytesWritten, (run 0 [.push [1] 0 false]).unassembledStartIndex) = (0, 1) ∧
      (run 0 [.push [1] 5 false]).unassembledBytes = 1 ∧ ¬ (run 0 [.push [1] 0 false]).WithinLimit ∧
      ¬ (run 0 [.push [1] 5 false]).WithinLimit :=
  ⟨by decide, by decide, fun within => absurd within.taken (by decide),
    fun within => absurd within.memory (by decide)⟩

end Sponge.StreamReassembler
