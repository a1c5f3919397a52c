import Sponge.ReceiverWindow

set_option autoImplicit false

namespace Sponge

open Shared

inductive Carried (isn : WrappingInt32) (stream : Bytes) (seg : TCPSegment) : Prop
  | syn (opening : seg.header.syn = true) (seqno : seg.header.seqno = isn)
      (bare : seg.payload = []) (more : seg.header.fin = false)
  | data (i : Nat) (plain : seg.header.syn = false) (seqno : seg.header.seqno = wrap (1 + i) isn)
      (inside : i ≤ stream.length) (excerpt : seg.payload <+: stream.drop i)
      (last : seg.header.fin = true → i + seg.payload.length = stream.length)
  -- Acknowledgments and resets: no sequence number of their own, so any `seqno` will do.
  | empty (plain : seg.header.syn = false) (bare : seg.payload = []) (more : seg.header.fin = false)

namespace StreamReassembler

theorem Relates.empty_iff {r : StreamReassembler} {a : ByteReassembler} (rel : Relates 1 r a) :
    r.empty = true ↔ ∀ i, a.stored i = none := by
  rw [StreamReassembler.empty, beq_iff_eq, rel.size, Span.size_eq_ncard rel.sorted,
    Set.ncard_eq_zero (Span.positions_finite rel.sorted), Set.eq_empty_iff_forall_notMem, rel.stored]
  simp

theorem Relates.endInput {r : StreamReassembler} {a : ByteReassembler} (rel : Relates 1 r a) :
    Relates 1 { r with output := r.output.endInput } { a with ended := true } :=
  { rel with ended := rfl }

end StreamReassembler

namespace TCPReceiver

structure Follows (isn : WrappingInt32) (stream : Bytes) (r : TCPReceiver) (a : ByteReassembler) : Prop where
  rel : StreamReassembler.Relates 1 r.reassembler a
  positive : 1 ≤ r.reassembler.capacity
  copies : a.Copies stream
  icn : r.haveSYN = true → r.icn = isn
  silent : r.haveSYN = false → a.out = [] ∧ r.haveFIN = false

theorem follows_new (isn : WrappingInt32) (stream : Bytes) {capacity : Nat} (positive : 1 ≤ capacity) :
    Follows isn stream (new capacity) ByteReassembler.new where
  rel := StreamReassembler.relates_new capacity
  positive := positive
  copies := ByteReassembler.copies_new stream
  icn := by simp [new]
  silent := by simp [new, ByteReassembler.new]

noncomputable def received (r : TCPReceiver) (a : ByteReassembler) (seg : TCPSegment) : ByteReassembler :=
  a.push (r.reassembler.unassembledMaxIndex + 1) seg.payload (sub64 (r.position seg) 1) seg.header.fin

theorem opened_icn {isn : WrappingInt32} {stream : Bytes} {r : TCPReceiver} {seg : TCPSegment}
    (carried : Carried isn stream seg) (differ : seg.header.syn ≠ r.haveSYN)
    (icn : r.haveSYN = true → r.icn = isn) : (r.opened seg).haveSYN = true ∧ (r.opened seg).icn = isn := by
  unfold TCPReceiver.opened
  split
  next already => exact ⟨already, icn already⟩
  next silent =>
    cases carried with
    | syn _ seqno _ _ => exact ⟨rfl, seqno⟩
    | data _ plain _ _ _ _ => simp_all
    | empty plain _ _ => simp_all

namespace Follows

variable {isn : WrappingInt32} {stream : Bytes} {r : TCPReceiver} {a : ByteReassembler} {seg : TCPSegment}

theorem written (follows : Follows isn stream r a) : r.streamOut.bytesWritten = a.out.length :=
  follows.rel.written

theorem extend {longer : Bytes} (follows : Follows isn stream r a) (grown : stream <+: longer) :
    Follows isn longer r a :=
  { follows with copies := follows.copies.extend grown }

theorem pop (follows : Follows isn stream r a) (len : Nat) : Follows isn stream (r.popOutput len) (a.pop len) where
  rel := follows.rel.pop len
  positive := follows.positive
  copies := ⟨by simpa using follows.copies.out, by simpa using follows.copies.stored⟩
  icn := follows.icn
  silent := by simpa [TCPReceiver.popOutput] using follows.silent

theorem index (follows : Follows isn stream r a) (short : stream.length < 2 ^ 31 - 2)
    (carried : Carried isn stream seg) (differ : seg.header.syn ≠ r.haveSYN) :
    seg.payload <+: stream.drop (sub64 (r.position seg) 1) ∧
      sub64 (r.position seg) 1 + seg.payload.length < 2 ^ 64 ∧
      (seg.payload ≠ [] → r.position seg = sub64 (r.position seg) 1 + 1) ∧
      (seg.header.fin = true → sub64 (r.position seg) 1 + seg.payload.length = stream.length) := by
  have word (bare : seg.payload = []) : sub64 (r.position seg) 1 + seg.payload.length < 2 ^ 64 := by
    rw [bare, List.length_nil, Nat.add_zero]
    exact sub64_lt (r.position seg) 1
  cases carried with
  | syn opening seqno bare more => exact ⟨by simp [bare], word bare, by simp [bare], by simp [more]⟩
  | empty plain bare more => exact ⟨by simp [bare], word bare, by simp [bare], by simp [more]⟩
  | data i plain seqno inside excerpt last =>
      have opened : r.haveSYN = true := by simpa [plain] using differ.symm
      have out := follows.copies.out.length_le
      have position : r.position seg = 1 + i := by
        rw [position, if_pos opened, seqno, follows.icn opened, follows.written]
        exact unwrap_wrap_near _ _ _ (by omega) (by omega)
      have index : sub64 (r.position seg) 1 = i := by
        rw [position, sub64_of_le (by omega) (by omega)]
        omega
      have length := excerpt.length_le
      rw [List.length_drop] at length
      rw [index, position]
      exact ⟨excerpt, by omega, fun _ => by omega, last⟩

theorem pushed (follows : Follows isn stream r a) (short : stream.length < 2 ^ 31 - 2)
    (carried : Carried isn stream seg) (differ : seg.header.syn ≠ r.haveSYN) :
    StreamReassembler.Relates 1 (r.pushed seg) (r.received a seg) :=
  follows.rel.push follows.positive _ _ _ (follows.index short carried differ).2.1

theorem segment (follows : Follows isn stream r a) (short : stream.length < 2 ^ 31 - 2)
    (carried : Carried isn stream seg) (differ : seg.header.syn ≠ r.haveSYN) :
    Follows isn stream (r.segmentReceived seg)
      (if (r.haveFIN || seg.header.fin) && (r.pushed seg).empty then { r.received a seg with ended := true }
        else r.received a seg) := by
  have pushed := follows.pushed short carried differ
  have copies : (r.received a seg).Copies stream :=
    follows.copies.push _ _ (follows.index short carried differ).1
  have capacity : (r.pushed seg).capacity = r.reassembler.capacity :=
    StreamReassembler.pushSubstring_capacity ..
  obtain ⟨opened, icn⟩ := opened_icn carried differ follows.icn
  rw [segmentReceived_accepted differ]
  split
  next => exact ⟨pushed.endInput, by simpa [capacity] using follows.positive, ⟨copies.out, copies.stored⟩,
    fun _ => icn, by simp [opened]⟩
  next => exact ⟨pushed, by simpa [capacity] using follows.positive, copies, fun _ => icn, by simp [opened]⟩

end Follows

def Available (r : TCPReceiver) (seg : TCPSegment) (p : Nat) : Prop :=
  r.Held p ∨ (r.streamOut.bytesWritten ≤ p ∧ p ≤ r.reassembler.unassembledMaxIndex) ∧
    r.position seg ≤ p + 1 ∧ p + 1 < r.position seg + seg.payload.length

instance (r : TCPReceiver) (seg : TCPSegment) (p : Nat) : Decidable (r.Available seg p) :=
  inferInstanceAs (Decidable (_ ∨ _))

/-- The FIN is known, yet the bytes at hand are a proper prefix of the stream: nothing waits behind a hole, which is
all that `segmentReceived` looks at before it ends the stream. -/
def CutShort (stream : Bytes) (r : TCPReceiver) (seg : TCPSegment) : Prop :=
  (r.haveFIN = true ∨ seg.header.fin = true) ∧
    ∃ m < stream.length, ∀ p < stream.length, (r.Available seg p ↔ p < m)

instance (stream : Bytes) (r : TCPReceiver) (seg : TCPSegment) : Decidable (CutShort stream r seg) :=
  inferInstanceAs (Decidable (_ ∧ _))

structure Ends (stream : Bytes) (r : TCPReceiver) (a : ByteReassembler) : Prop where
  eofAt : a.eofAt = if r.haveFIN then some stream.length else none
  ended : a.ended = true ↔ r.haveFIN = true ∧ a.out.length = stream.length

namespace Follows

variable {isn : WrappingInt32} {stream : Bytes} {r : TCPReceiver} {a : ByteReassembler} {seg : TCPSegment}

theorem available (follows : Follows isn stream r a) (short : stream.length < 2 ^ 31 - 2)
    (carried : Carried isn stream seg) (differ : seg.header.syn ≠ r.haveSYN) (p : Nat) :
    r.Available seg p ↔
      a.AtHand (r.reassembler.unassembledMaxIndex + 1) seg.payload (sub64 (r.position seg) 1) p := by
  have held : r.Held p ↔ a.Held p := by
    rw [TCPReceiver.Held, ByteReassembler.Held, follows.written, follows.rel.stored, Option.isSome_iff_ne_none]
  obtain ⟨_, _, located, _⟩ := follows.index short carried differ
  rw [ByteReassembler.atHand_iff, Available, held, follows.written]
  by_cases nothing : seg.payload = []
  · simp only [nothing, List.length_nil]
    exact or_congr Iff.rfl (by omega)
  · have := located nothing
    exact or_congr Iff.rfl (by omega)

theorem eofAt_received (follows : Follows isn stream r a) (short : stream.length < 2 ^ 31 - 2)
    (ends : Ends stream r a) (carried : Carried isn stream seg) (differ : seg.header.syn ≠ r.haveSYN) :
    (r.received a seg).eofAt = if r.haveFIN || seg.header.fin then some stream.length else none := by
  rw [received, ByteReassembler.push_eofAt, ByteReassembler.mark]
  split
  next fin => simp [fin, (follows.index short carried differ).2.2.2 fin]
  next more => simp [more, ends.eofAt]

theorem ended_received (follows : Follows isn stream r a) (short : stream.length < 2 ^ 31 - 2)
    (ends : Ends stream r a) (carried : Carried isn stream seg) (differ : seg.header.syn ≠ r.haveSYN) :
    (r.received a seg).ended = true ↔
      (r.haveFIN || seg.header.fin) = true ∧ (r.received a seg).out.length = stream.length := by
  have eofAt := follows.eofAt_received short ends carried differ
  rw [received, ByteReassembler.push_eofAt] at eofAt
  have known : (a.mark seg.payload (sub64 (r.position seg) 1) seg.header.fin).eofAt ≠ none ↔
      (r.haveFIN || seg.header.fin) = true := by
    rw [eofAt]
    split <;> simp_all
  rw [received, ← known]
  refine follows.copies.push_ended_iff _ (follows.index short carried differ).1 (by rw [eofAt]; split <;> simp) ?_
  rw [known, ends.ended]
  rintro ⟨fin, all⟩
  exact ⟨by simp [fin], all⟩

theorem cutShort_iff (follows : Follows isn stream r a) (short : stream.length < 2 ^ 31 - 2)
    (ends : Ends stream r a) (carried : Carried isn stream seg) (differ : seg.header.syn ≠ r.haveSYN) :
    CutShort stream r seg ↔ (r.haveFIN || seg.header.fin) = true ∧ (r.pushed seg).empty = true ∧
      (r.received a seg).out.length < stream.length := by
  have eofAt := follows.eofAt_received short ends carried differ
  rw [received, ByteReassembler.push_eofAt] at eofAt
  have stuck := follows.copies.push_stuck_iff (r.reassembler.unassembledMaxIndex + 1) seg.header.fin
    (follows.index short carried differ).1 (by rw [eofAt]; split <;> simp)
  rw [← received] at stuck
  rw [CutShort, Bool.or_eq_true, (follows.pushed short carried differ).empty_iff, and_comm (a := ∀ i, _), stuck]
  simp only [follows.available short carried differ]

theorem segment_safe (follows : Follows isn stream r a) (short : stream.length < 2 ^ 31 - 2)
    (ends : Ends stream r a) (carried : Carried isn stream seg) (differ : seg.header.syn ≠ r.haveSYN)
    (safe : ¬ CutShort stream r seg) :
    Follows isn stream (r.segmentReceived seg) (r.received a seg) ∧
      Ends stream (r.segmentReceived seg) (r.received a seg) := by
  have ended := follows.ended_received short ends carried differ
  have whole : (r.received a seg).out.length ≤ stream.length :=
    (follows.copies.push _ _ (follows.index short carried differ).1).out.length_le
  have next := follows.segment short carried differ
  rw [follows.cutShort_iff short ends carried differ] at safe
  have same : (if (r.haveFIN || seg.header.fin) && (r.pushed seg).empty then { r.received a seg with ended := true }
        else r.received a seg) = r.received a seg := by
    split
    next closing =>
      rw [Bool.and_eq_true] at closing
      have already := ended.mpr ⟨closing.1, by by_contra less; exact safe ⟨closing.1, closing.2, by omega⟩⟩
      rw [← already]
    next => rfl
  rw [same] at next
  have haveFIN : (r.segmentReceived seg).haveFIN = (r.haveFIN || seg.header.fin) := by
    rw [segmentReceived_accepted differ]
  exact ⟨next, by rw [haveFIN]; exact follows.eofAt_received short ends carried differ, by rw [haveFIN]; exact ended⟩

end Follows

end TCPReceiver

end Sponge
