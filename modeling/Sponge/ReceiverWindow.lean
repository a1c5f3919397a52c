import Sponge.ReassemblerRefinement
import Sponge.Shared.Runs
import Sponge.TCPReceiver

set_option autoImplicit false

namespace Sponge

open Shared

namespace StreamReassembler

-- Positions past the window, as an index that wrapped below zero gives them, are never placed.
theorem place_beyond {data : Bytes} {index maxIndex tempStart tempEnd : Nat} {spans : List Staged} {size : Nat}
    (before : ∀ span ∈ spans, span.start ≤ tempStart ∧ span.stop + 1 ≤ tempStart)
    (word : tempStart < 2 ^ 64) (beyond : min tempEnd maxIndex < tempStart) :
    place data index maxIndex tempStart tempEnd spans size = (spans, size) := by
  induction spans with
  | nil =>
      simp only [place, piece, substringLength, if_neg (Nat.not_le.mpr beyond)]
      congr 1
      omega
  | cons iter rest ih =>
      obtain ⟨low, stop⟩ := before iter (by simp)
      have rest := ih fun span member => before span (by simp [member])
      simp only [place, if_neg (Nat.not_lt.mpr low)]
      split_ifs
      · rfl
      · rw [add64_of_lt (by omega), max_eq_right stop, rest]

theorem Relates.stage_beyond {r : StreamReassembler} {a : ByteReassembler} (rel : Relates 1 r a) {data : Bytes}
    {tempEnd : Nat} (reduced : sub64 (add64 (2 ^ 64 - 1) data.length) 1 = tempEnd)
    (late : min tempEnd r.unassembledMaxIndex < 2 ^ 64 - 1) : r.stage data (2 ^ 64 - 1) = r := by
  have outWord := rel.outWord
  have tempStart : max r.unassembledStartIndex (2 ^ 64 - 1) = 2 ^ 64 - 1 := by
    rw [rel.start]
    omega
  have before : ∀ span ∈ r.stagingList, span.start ≤ 2 ^ 64 - 1 ∧ span.stop + 1 ≤ 2 ^ 64 - 1 := by
    intro span member
    have := (rel.sorted.pairwise.2 span member).2.1
    have := rel.word span member
    omega
  simp only [StreamReassembler.stage, tempStart, reduced, place_beyond before (by omega) late]

theorem Relates.flush_idle {r : StreamReassembler} {a : ByteReassembler} (rel : Relates 1 r a) :
    flush r.stagingList r = r := by
  cases spans : r.stagingList with
  | nil => rw [flush, ← spans]
  | cons iter rest =>
      have sorted := rel.sorted
      rw [spans] at sorted
      have := sorted.1
      have := rel.start
      rw [flush, if_neg (by omega), ← spans]

theorem Relates.push_beyond {r : StreamReassembler} {a : ByteReassembler} (rel : Relates 1 r a)
    (idle : r.eofProcess = r) {data : Bytes}
    (late : ∀ tempEnd, sub64 (add64 (2 ^ 64 - 1) data.length) 1 = tempEnd →
      r.unassembledStartIndex ≤ add64 (2 ^ 64 - 1) data.length → min tempEnd r.unassembledMaxIndex < 2 ^ 64 - 1) :
    r.pushSubstring data (2 ^ 64 - 1) false = r := by
  unfold pushSubstring markEof
  simp only [Bool.false_eq_true, if_false]
  split_ifs with nothing assembled
  · exact idle
  · exact idle
  · rw [rel.stage_beyond rfl (late _ rfl (by omega)), rel.flush_idle, idle]

theorem Relates.finite {slack : Nat} {r : StreamReassembler} {a : ByteReassembler} (rel : Relates slack r a) :
    ∃ hi, ∀ i, hi ≤ i → a.stored i = none := by
  refine ⟨a.bytesRead + r.capacity, fun i above => ?_⟩
  rw [rel.stored]
  exact Span.lookup_bound rel.sorted rel.window above

end StreamReassembler

namespace TCPReceiver

def Held (r : TCPReceiver) (p : Nat) : Prop :=
  p < r.streamOut.bytesWritten ∨ (Span.lookup r.reassembler.stagingList p).isSome = true

instance (r : TCPReceiver) (p : Nat) : Decidable (r.Held p) := inferInstanceAs (Decidable (_ ∨ _))

def leftEdge (r : TCPReceiver) : Nat := 1 + r.streamOut.bytesWritten

def rightEdge (r : TCPReceiver) : Nat := r.leftEdge + r.windowSize

def WindowAgrees (r : TCPReceiver) (seg : TCPSegment) : Prop :=
  ∀ k, k < seg.payload.length → r.leftEdge ≤ r.position seg + k →
    ((r.segmentReceived seg).Held (r.position seg + k - 1) ↔ r.position seg + k < r.rightEdge)

-- The two sums of the reassembler that stay inside 64 bits: the window's edge and the data's end.
def InWord (r : TCPReceiver) : Op → Prop
  | .segment seg =>
      r.streamOut.bytesRead + r.capacity ≤ 2 ^ 64 ∧
        (seg.header.syn ≠ r.haveSYN → r.position seg + seg.payload.length ≤ 2 ^ 64)
  | _ => r.streamOut.bytesRead + r.capacity ≤ 2 ^ 64

instance (r : TCPReceiver) : (op : Op) → Decidable (r.InWord op)
  | .segment _ => inferInstanceAs (Decidable (_ ∧ _))
  | .read _ | .popOutput _ => inferInstanceAs (Decidable (_ ≤ _))

def Op.finless : Op → Prop
  | .segment seg => seg.header.fin = false
  | _ => True

instance : (op : Op) → Decidable op.finless
  | .segment _ => inferInstanceAs (Decidable (_ = _))
  | .read _ | .popOutput _ => inferInstanceAs (Decidable True)

structure Tracks (capacity : Nat) (r : TCPReceiver) (a : ByteReassembler) : Prop where
  rel : StreamReassembler.Relates 1 r.reassembler a
  outer : r.capacity = capacity
  inner : r.reassembler.capacity = capacity
  noFin : r.haveFIN = false
  open_ : a.eofAt = none

theorem tracks_new (capacity : Nat) : Tracks capacity (new capacity) ByteReassembler.new where
  rel := StreamReassembler.relates_new capacity
  outer := rfl
  inner := rfl
  noFin := rfl
  open_ := rfl

namespace Tracks

variable {capacity : Nat} {r : TCPReceiver} {a : ByteReassembler}

theorem haveEof (tracks : Tracks capacity r a) : r.reassembler.haveEof = false := by
  have eof := tracks.rel.eof
  rw [tracks.open_] at eof
  by_contra flag
  simp [flag] at eof

theorem edge (tracks : Tracks capacity r a) (positive : 1 ≤ capacity)
    (window : r.streamOut.bytesRead + r.capacity ≤ 2 ^ 64) :
    r.reassembler.unassembledMaxIndex + 1 = a.bytesRead + capacity := by
  have read : r.streamOut.bytesRead = a.bytesRead := tracks.rel.bytesRead
  rw [read, tracks.outer] at window
  rw [tracks.rel.unassembledMaxIndex, tracks.inner]
  simp only [add64, sub64]
  omega

theorem held (tracks : Tracks capacity r a) (p : Nat) : r.Held p ↔ a.Held p := by
  have written : r.streamOut.bytesWritten = a.out.length := tracks.rel.written
  rw [TCPReceiver.Held, ByteReassembler.Held, written, tracks.rel.stored, Option.isSome_iff_ne_none]

theorem rightEdge (tracks : Tracks capacity r a) :
    r.rightEdge = 1 + a.bytesRead + capacity ∧ r.windowSize ≤ capacity ∧
      r.streamOut.bytesWritten - r.streamOut.bytesRead ≤ r.capacity := by
  have written : r.streamOut.bytesWritten = a.out.length := tracks.rel.written
  have read : r.streamOut.bytesRead = a.bytesRead := tracks.rel.bytesRead
  have outWindow := tracks.rel.outWindow
  have := tracks.rel.read
  rw [tracks.inner] at outWindow
  simp only [TCPReceiver.rightEdge, TCPReceiver.leftEdge, TCPReceiver.windowSize, written, read, tracks.outer]
  omega

theorem pop (tracks : Tracks capacity r a) (len : Nat) : Tracks capacity (r.popOutput len) (a.pop len) where
  rel := tracks.rel.pop len
  outer := tracks.outer
  inner := tracks.inner
  noFin := tracks.noFin
  open_ := by simpa using tracks.open_

noncomputable def after (r : TCPReceiver) (a : ByteReassembler) (capacity : Nat) (seg : TCPSegment) :
    ByteReassembler :=
  if 1 ≤ r.position seg then
    a.push (a.bytesRead + capacity) seg.payload (r.position seg - 1) false
  else a

theorem segment (tracks : Tracks capacity r a) (positive : 1 ≤ capacity) (word : capacity < 2 ^ 64)
    {seg : TCPSegment} (differ : seg.header.syn ≠ r.haveSYN) (finless : seg.header.fin = false)
    (window : r.streamOut.bytesRead + r.capacity ≤ 2 ^ 64)
    (fits : r.position seg + seg.payload.length ≤ 2 ^ 64) :
    Tracks capacity (r.segmentReceived seg) (after r a capacity seg) := by
  have edge := tracks.edge positive window
  have pushed : StreamReassembler.Relates 1 (r.pushed seg) (after r a capacity seg) := by
    unfold after TCPReceiver.pushed
    rw [finless]
    split_ifs with located
    · have index : sub64 (r.position seg) 1 = r.position seg - 1 := by
        unfold sub64
        omega
      have next := tracks.rel.push (by rw [tracks.inner]; exact positive) seg.payload
        (r.position seg - 1) false (by omega)
      rwa [index, ← edge]
    · have index : sub64 (r.position seg) 1 = 2 ^ 64 - 1 := by
        unfold sub64
        omega
      have idle : r.reassembler.eofProcess = r.reassembler := by simp [StreamReassembler.eofProcess, tracks.haveEof]
      have start := tracks.rel.start
      have read := tracks.rel.read
      rw [index, tracks.rel.push_beyond idle]
      · exact tracks.rel
      · intro tempEnd reduced reached
        simp only [add64, sub64] at reduced reached
        omega
  have received := segmentReceived_accepted differ
  rw [tracks.noFin, finless, Bool.false_or, Bool.false_and, if_neg (by simp)] at received
  rw [received]
  exact
    { rel := pushed
      outer := by
        unfold opened
        split <;> exact tracks.outer
      inner := by simp [TCPReceiver.pushed, StreamReassembler.pushSubstring_capacity, tracks.inner]
      noFin := rfl
      open_ := by
        unfold after
        split <;> simp [ByteReassembler.mark, tracks.open_] }

end Tracks

theorem Tracks.step {capacity : Nat} (positive : 1 ≤ capacity) (word : capacity < 2 ^ 64)
    {r : TCPReceiver} {a : ByteReassembler} (tracks : Tracks capacity r a) (op : Op)
    (inWord : r.InWord op) (finless : op.finless) :
    ∃ a', Tracks capacity (r.step op) a' ∧ a.bytesRead ≤ a'.bytesRead ∧ a.out.length ≤ a'.out.length := by
  have popped (len : Nat) : ∃ a', Tracks capacity (r.popOutput len) a' ∧
      a.bytesRead ≤ a'.bytesRead ∧ a.out.length ≤ a'.out.length := by
    refine ⟨a.pop len, tracks.pop len, ?_, by simp⟩
    unfold ByteReassembler.pop
    split <;> simp
  cases op with
  | segment seg =>
      by_cases same : seg.header.syn = r.haveSYN
      · refine ⟨a, ?_, le_rfl, le_rfl⟩
        rwa [TCPReceiver.step, segmentReceived_ignored same]
      · refine ⟨_, tracks.segment positive word same finless inWord.1 (inWord.2 same), ?_⟩
        unfold after
        split
        next => exact ⟨by simp, (ByteReassembler.out_prefix_push ..).length_le⟩
        next => exact ⟨le_rfl, le_rfl⟩
  | read len => simpa using popped len
  | popOutput len => exact popped len

def Quiet (r : TCPReceiver) (op : Op) : Prop := r.InWord op ∧ op.finless

instance (r : TCPReceiver) (op : Op) : Decidable (r.Quiet op) := inferInstanceAs (Decidable (_ ∧ _))

theorem reaches_tracks {capacity : Nat} (positive : 1 ≤ capacity) (word : capacity < 2 ^ 64)
    {r r' : TCPReceiver} {a : ByteReassembler} (tracks : Tracks capacity r a) (run : Reaches step Quiet r r') :
    ∃ a', Tracks capacity r' a' ∧ a.bytesRead ≤ a'.bytesRead ∧ a.out.length ≤ a'.out.length := by
  apply run.invariant (fun r' => ∃ a', Tracks capacity r' a' ∧ a.bytesRead ≤ a'.bytesRead ∧
    a.out.length ≤ a'.out.length) ⟨a, tracks, le_rfl, le_rfl⟩
  rintro state op ⟨b, tracks, read, out⟩ ⟨inWord, finless⟩
  obtain ⟨b', tracks', read', out'⟩ := tracks.step positive word op inWord finless
  exact ⟨b', tracks', le_trans read read', le_trans out out'⟩

theorem Tracks.windowAgrees {capacity : Nat} (positive : 1 ≤ capacity) (word : capacity < 2 ^ 64)
    {r : TCPReceiver} {a : ByteReassembler} (tracks : Tracks capacity r a) {seg : TCPSegment}
    (differ : seg.header.syn ≠ r.haveSYN) (finless : seg.header.fin = false)
    (located : 1 ≤ r.position seg) (inWord : r.InWord (.segment seg)) : r.WindowAgrees seg := by
  intro k inside beyond
  have next := tracks.segment positive word differ finless inWord.1 (inWord.2 differ)
  have written : r.streamOut.bytesWritten = a.out.length := tracks.rel.written
  have limit (p : Nat) (late : a.out.length ≤ p) (held : a.Held p) : p < a.bytesRead + capacity := by
    rcases held with early | stored
    · omega
    · by_contra above
      have none := Span.lookup_bound tracks.rel.sorted tracks.rel.window
        (show a.bytesRead + r.reassembler.capacity ≤ p by rw [tracks.inner]; omega)
      exact stored (by rw [tracks.rel.stored, none])
  rw [leftEdge, written] at beyond
  rw [next.held, after, if_pos located,
    ByteReassembler.push_held _ _ _ _ tracks.open_ tracks.rel.finite, tracks.rightEdge.1]
  constructor
  · rintro (held | ⟨fresh, _⟩)
    · have := limit _ (by omega) held
      omega
    · omega
  · intro below
    exact Or.inr (by omega)

theorem window_agrees_without_overflow (capacity : Nat) (positive : 1 ≤ capacity) (word : capacity < 2 ^ 64)
    (r : TCPReceiver) (run : Reaches step Quiet (new capacity) r) :
    (r.haveSYN = true → ∀ seg : TCPSegment, seg.header.syn = false → seg.header.fin = false →
      1 ≤ r.position seg → r.InWord (.segment seg) → r.WindowAgrees seg) ∧
    (∀ r', Reaches step Quiet r r' → r.leftEdge ≤ r'.leftEdge ∧ r.rightEdge ≤ r'.rightEdge) ∧
    r.windowSize ≤ capacity ∧ r.streamOut.bytesWritten - r.streamOut.bytesRead ≤ r.capacity := by
  obtain ⟨a, tracks, _⟩ := reaches_tracks positive word (tracks_new capacity) run
  refine ⟨?_, ?_, tracks.rightEdge.2⟩
  · intro opened seg plain finless located inWord
    exact tracks.windowAgrees positive word (by rw [plain, opened]; simp) finless located inWord
  · intro r' later
    obtain ⟨a', tracks', read, out⟩ := reaches_tracks positive word tracks later
    have written : r.streamOut.bytesWritten = a.out.length := tracks.rel.written
    have written' : r'.streamOut.bytesWritten = a'.out.length := tracks'.rel.written
    rw [tracks.rightEdge.1, tracks'.rightEdge.1, leftEdge, leftEdge, written, written']
    omega

def sampleSyn : TCPSegment := { header := { seqno := ⟨4294967295⟩, syn := true } }

def sampleData (start : Nat) (payload : Bytes) : TCPSegment :=
  { header := { seqno := wrap start ⟨4294967295⟩ }, payload := payload }

def sampleOps : List Op :=
  [.segment sampleSyn, .segment (sampleData 1 [1, 2, 3]), .read 3, .segment (sampleData 6 [6])]

theorem window_agrees_without_overflow_sample :
    ((sampleOps.foldl step (new 4)).leftEdge, (sampleOps.foldl step (new 4)).rightEdge) = (4, 8) ∧
      (sampleOps.foldl step (new 4)).WindowAgrees (sampleData 5 [5, 5, 7, 8]) := by
  refine ⟨by decide +kernel, ?_⟩
  exact (window_agrees_without_overflow 4 (by decide) (by decide) _
    (Reaches.start.foldl (by decide +kernel))).1 (by decide +kernel) _ rfl rfl (by decide +kernel)
    ⟨by decide +kernel, fun _ => by decide +kernel⟩

-- With the largest capacity the window's edge wraps to 0 once two bytes have been read.
def overflowed : TCPReceiver :=
  [Op.segment sampleSyn, .segment (sampleData 1 [1, 2]), .read 2].foldl step (new (2 ^ 64 - 1))

theorem window_disagrees_at_largest_capacity :
    Reaches step (fun _ op => op.finless) (new (2 ^ 64 - 1)) overflowed ∧ overflowed.haveSYN = true ∧
      overflowed.position (sampleData 3 [3]) = 3 ∧ overflowed.streamOut.bytesWritten = 2 ∧
      overflowed.windowSize = 2 ^ 64 - 1 ∧ ¬ overflowed.WindowAgrees (sampleData 3 [3]) := by
  refine ⟨Reaches.start.foldl (by decide +kernel), ?_, ?_, ?_, ?_, ?_⟩
  · decide +kernel
  · decide +kernel
  · decide +kernel
  · decide +kernel
  · intro agrees
    have kept := (agrees 0 (by decide) (by decide +kernel)).mpr (by decide +kernel)
    revert kept
    decide +kernel

end TCPReceiver

end Sponge
