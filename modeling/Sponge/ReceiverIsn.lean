import Sponge.ReceiverWindow

set_option autoImplicit false

namespace Sponge

open Shared

namespace StreamReassembler

structure EndNoticed (r : StreamReassembler) : Prop where
  done : r.haveEof = true → r.eofIndex ≤ r.unassembledStartIndex →
    r.output.isEnded = true ∧ r.stagingList = [] ∧ r.stagingSize = 0

theorem EndNoticed.eofProcess {r : StreamReassembler} (noticed : r.EndNoticed) : r.eofProcess = r := by
  unfold StreamReassembler.eofProcess
  split
  next ended =>
    simp only [Bool.and_eq_true, decide_eq_true_eq] at ended
    obtain ⟨closed, list, size⟩ := noticed.done ended.1 ended.2
    rw [← list, ← size, ByteStream.endInput, ← closed]
  next => rfl

theorem endNoticed_eofProcess (r : StreamReassembler) : r.eofProcess.EndNoticed := by
  unfold StreamReassembler.eofProcess
  split
  next => exact ⟨fun _ _ => ⟨rfl, rfl, rfl⟩⟩
  next open_ =>
    refine ⟨fun known reached => ?_⟩
    simp [known, reached] at open_

theorem pushSubstring_endNoticed (r : StreamReassembler) (data : Bytes) (index : Nat) (eof : Bool) :
    (r.pushSubstring data index eof).EndNoticed := by
  unfold pushSubstring
  dsimp only
  split_ifs <;> exact endNoticed_eofProcess _

end StreamReassembler

namespace TCPReceiver

theorem segmentReceived_related {r : TCPReceiver} {a : ByteReassembler}
    (rel : StreamReassembler.Relates 1 r.reassembler a) (positive : 1 ≤ r.reassembler.capacity)
    (window : r.streamOut.bytesWritten + r.reassembler.capacity < 2 ^ 64) (seg : TCPSegment) :
    ∃ a', StreamReassembler.Relates 1 (r.segmentReceived seg).reassembler a' := by
  by_cases same : seg.header.syn = r.haveSYN
  · rw [segmentReceived_ignored same]
    exact ⟨a, rel⟩
  · have read := rel.read
    have length : r.streamOut.bytesWritten = a.out.length := rel.written
    obtain ⟨a', pushed⟩ : ∃ a', StreamReassembler.Relates 1 (r.pushed seg) a' :=
      rel.push_any positive (by omega) _ _ _
    rw [segmentReceived_accepted same]
    dsimp only
    split
    next => exact ⟨{ a' with ended := true }, { pushed with ended := rfl }⟩
    next => exact ⟨a', pushed⟩

/-- A receiver between two calls: its interval list stands for some bytes, and neither the reassembler nor the
receiver itself has an end of stream left to notice. -/
structure AtRest (capacity : Nat) (r : TCPReceiver) : Prop where
  related : ∃ a, StreamReassembler.Relates 1 r.reassembler a
  capacity : r.reassembler.capacity = capacity
  noticed : r.reassembler.EndNoticed
  closed : r.haveFIN = true → r.reassembler.empty = true → r.streamOut.isEnded = true

theorem atRest_new (capacity : Nat) : AtRest capacity (new capacity) where
  related := ⟨_, StreamReassembler.relates_new capacity⟩
  capacity := rfl
  noticed := ⟨by simp [new, StreamReassembler.new]⟩
  closed := by simp [new]

namespace AtRest

variable {capacity : Nat} {r : TCPReceiver}

theorem popOutput (rest : AtRest capacity r) (len : Nat) : AtRest capacity (r.popOutput len) where
  related := by
    obtain ⟨a, rel⟩ := rest.related
    exact ⟨_, rel.pop len⟩
  capacity := rest.capacity
  noticed := ⟨by simpa [TCPReceiver.popOutput, StreamReassembler.popOutput] using rest.noticed.done⟩
  closed := by
    simpa [TCPReceiver.popOutput, StreamReassembler.popOutput, streamOut, StreamReassembler.streamOut,
      StreamReassembler.empty] using rest.closed

theorem segment (rest : AtRest capacity r) (positive : 1 ≤ capacity) (small : capacity < 2 ^ 31)
    (written : r.streamOut.bytesWritten < 2 ^ 31) (seg : TCPSegment) : AtRest capacity (r.segmentReceived seg) := by
  by_cases same : seg.header.syn = r.haveSYN
  · rwa [segmentReceived_ignored same]
  · obtain ⟨a, rel⟩ := rest.related
    have related := segmentReceived_related rel (by rw [rest.capacity]; exact positive)
      (by rw [rest.capacity]; omega) seg
    have noticed : (r.pushed seg).EndNoticed := StreamReassembler.pushSubstring_endNoticed ..
    have inner : (r.pushed seg).capacity = capacity := by
      rw [TCPReceiver.pushed, StreamReassembler.pushSubstring_capacity, rest.capacity]
    rw [segmentReceived_accepted same] at related ⊢
    generalize r.pushed seg = after at related noticed inner ⊢
    by_cases ends : ((r.haveFIN || seg.header.fin) && after.empty) = true
    · rw [if_pos ends] at related ⊢
      exact ⟨related, inner, ⟨fun known reached => ⟨rfl, (noticed.done known reached).2⟩⟩, fun _ _ => rfl⟩
    · rw [if_neg ends] at related ⊢
      exact ⟨related, inner, noticed, fun fin empty => absurd (Bool.and_eq_true_iff.mpr ⟨fin, empty⟩) ends⟩

end AtRest

-- What has been written is never unwritten, so the bound on it holds all along the run.
theorem reaches_atRest {capacity : Nat} (positive : 1 ≤ capacity) (small : capacity < 2 ^ 31) {r : TCPReceiver}
    (run : Reaches step (fun _ _ => True) (new capacity) r) (written : r.streamOut.bytesWritten < 2 ^ 31) :
    AtRest capacity r := by
  have popped (r : TCPReceiver) (len : Nat) : (r.popOutput len).streamOut.bytesWritten = r.streamOut.bytesWritten :=
    ByteStream.popOutput_writtenLength ..
  have along : r.streamOut.bytesWritten < 2 ^ 31 → AtRest capacity r := by
    apply run.invariant fun r => r.streamOut.bytesWritten < 2 ^ 31 → AtRest capacity r
    · exact fun _ => atRest_new capacity
    · intro r op before _ after
      cases op with
      | segment seg =>
          have earlier : r.streamOut.bytesWritten < 2 ^ 31 :=
            lt_of_le_of_lt (r.segmentReceived_fed seg).writtenLength_le after
          exact (before earlier).segment positive small earlier seg
      | read len =>
          rw [step_read, popped] at after
          rw [step_read]
          exact (before after).popOutput len
      | popOutput len =>
          rw [step, popped] at after
          exact (before after).popOutput len
  exact along written

theorem AtRest.segment_at_isn {capacity : Nat} {r : TCPReceiver} (rest : AtRest capacity r) (positive : 1 ≤ capacity)
    (small : capacity < 2 ^ 31) (opened : r.haveSYN = true) (written : r.streamOut.bytesWritten < 2 ^ 31)
    {seg : TCPSegment} (more : seg.header.fin = false) (first : seg.header.seqno = r.icn) :
    r.pushed seg = r.reassembler := by
  obtain ⟨a, rel⟩ := rest.related
  have edge := rel.unassembledMaxIndex_lt (by rw [rest.capacity]; exact positive)
  have read := rel.read
  have length : r.streamOut.bytesWritten = a.out.length := rel.written
  -- The number of the SYN is 0, and one before it is the largest index.
  have position : r.position seg = 0 := by
    rw [TCPReceiver.position, if_pos opened, first]
    have near := unwrap_wrap_near 0 r.streamOut.bytesWritten r.icn (by omega) (by omega)
    rwa [wrap_zero] at near
  have index : sub64 0 1 = 2 ^ 64 - 1 := rfl
  rw [pushed, position, index, more]
  apply rel.push_beyond rest.noticed.eofProcess
  intro tempEnd _ _
  rw [rest.capacity] at edge
  omega

theorem syn_number_carries_nothing (capacity : Nat) (positive : 1 ≤ capacity) (small : capacity < 2 ^ 31)
    (r : TCPReceiver) (run : Reaches step (fun _ _ => True) (new capacity) r) (opened : r.haveSYN = true)
    (written : r.streamOut.bytesWritten < 2 ^ 31) (seg : TCPSegment) (plain : seg.header.syn = false)
    (more : seg.header.fin = false) (first : seg.header.seqno = r.icn) : r.segmentReceived seg = r := by
  have rest := reaches_atRest positive small run written
  have pushed := rest.segment_at_isn positive small opened written more first
  have closed := rest.closed
  rw [segmentReceived_accepted (by rw [plain, opened]; simp), pushed, more, Bool.or_false, TCPReceiver.opened,
    if_pos opened]
  split
  next ends =>
    obtain ⟨fin, empty⟩ := Bool.and_eq_true_iff.mp ends
    have ended : r.reassembler.output.endInput = r.reassembler.output := by
      rw [ByteStream.endInput, ← closed fin empty]
      rfl
    rw [ended]
  next => rfl

def holeOps : List Op :=
  [.segment sampleSyn, .segment (sampleData 3 [3]),
    .segment { header := { seqno := wrap 4 ⟨4294967295⟩, fin := true } }]

theorem syn_number_carries_nothing_sample :
    (holeOps.foldl step (new 4)).unassembledBytes = 1 ∧
      (holeOps.foldl step (new 4)).segmentReceived (sampleData 0 [9, 9, 9]) = holeOps.foldl step (new 4) :=
  ⟨by decide +kernel,
    syn_number_carries_nothing 4 (by decide) (by decide) _ (Reaches.start.foldl (by decide +kernel))
      (by decide +kernel) (by decide +kernel) (sampleData 0 [9, 9, 9]) rfl rfl (by decide +kernel)⟩

end TCPReceiver

end Sponge
