import Sponge.SenderTiling
import Sponge.Shared.Runs

set_option autoImplicit false

namespace Sponge.TCPSender

open Shared

inductive Op
  | write (data : Bytes)
  | endInput
  | fillWindow
  | ack (ackno : WrappingInt32) (windowSize : UInt16)
  | tick (msSinceLastTick : Nat)
  deriving DecidableEq

def step (s : TCPSender) : Op → TCPSender
  | .write data => { s with stream := (s.stream.write data).2 }
  | .endInput => { s with stream := s.stream.endInput }
  | .fillWindow => s.fillWindow
  | .ack ackno windowSize => s.ackReceived ackno windowSize
  | .tick ms => s.tick ms

def newlyEmitted (s : TCPSender) : List TCPSegment := s.fillWindow.segmentsOut.drop s.segmentsOut.length

/-- A sender with the history its properties speak of: the bytes its stream took in, the segments `fillWindow` made,
and the furthest number that an acceptable acknowledgment and its window allowed. -/
structure Trace where
  sender : TCPSender
  accepted : Bytes
  fresh : List TCPSegment
  reach : Nat
  deriving DecidableEq

namespace Trace

def new (capacity : Nat) (retxTimeout : UInt16) (fixedIsn : Option WrappingInt32)
    (randomIsn : WrappingInt32) : Trace where
  sender := .new capacity retxTimeout fixedIsn randomIsn
  accepted := []
  fresh := []
  reach := 1

def step (t : Trace) (op : Op) : Trace :=
  let after := { t with sender := t.sender.step op }
  match op with
  | .write data => { after with accepted := t.accepted ++ data.take (t.sender.stream.write data).1 }
  | .fillWindow => { after with fresh := t.fresh ++ t.sender.newlyEmitted }
  | .ack ackno windowSize =>
      let absolute := unwrap ackno t.sender.isn t.sender.nextAckno
      if t.sender.nextAckno ≤ absolute ∧ absolute ≤ t.sender.nextSeqno then
        { after with reach := max t.reach (absolute + max windowSize.toNat 1) }
      else after
  | _ => after

def Legal (t : Trace) : Op → Prop
  | .write _ => t.sender.stream.inputEnded = false
  | _ => True

instance (t : Trace) : (op : Op) → Decidable (t.Legal op)
  | .write _ => inferInstanceAs (Decidable (_ = _))
  | .endInput | .fillWindow | .ack _ _ | .tick _ => inferInstanceAs (Decidable True)

@[simp] theorem step_sender (t : Trace) (op : Op) : (t.step op).sender = t.sender.step op := by
  cases op <;> simp only [step]
  split <;> rfl

end Trace

theorem Emits.newlyEmitted {new : List TCPSegment} {s : TCPSender} (emits : Emits new s s.fillWindow) :
    s.newlyEmitted = new := by
  rw [TCPSender.newlyEmitted, emits.out, List.drop_left]

def Trace.Tiled (t : Trace) (acked : List TCPSegment) : Prop :=
  TCPSender.Tiled t.accepted acked t.sender ∧ t.fresh = acked ++ t.sender.trackingSegments.reverse

def Trace.Timely (t : Trace) : Op → Prop
  | .write data =>
      data = [] ∨ t.sender.stream.remainingCapacity = 0 ∨
        t.sender.nextSeqnoAbsolute ≠ t.sender.stream.bytesWritten + 2
  | _ => True

instance (t : Trace) : (op : Op) → Decidable (t.Timely op)
  | .write _ => inferInstanceAs (Decidable (_ ∨ _))
  | .endInput | .fillWindow | .ack _ _ | .tick _ => inferInstanceAs (Decidable True)

theorem Trace.Tiled.step_timely {t : Trace} {acked : List TCPSegment} (tiled : t.Tiled acked) {op : Op}
    (timely : t.Timely op) : ∃ acked', (t.step op).Tiled acked' := by
  obtain ⟨tiled, fresh⟩ := tiled
  cases op with
  | write data =>
      by_cases sent : t.sender.nextSeqno = t.accepted.length + 2
      · have nothing : t.sender.stream.appendLength data = 0 := by
          have bounds := t.sender.stream.appendLength_le data
          have written := tiled.written
          rcases timely with rfl | full | late
          · simpa using bounds.2
          · omega
          · exact absurd (sent.trans (by rw [ByteStream.bytesWritten, written])) late
        have same : t.step (.write data) = t := by
          simp [Trace.step, TCPSender.step, ByteStream.write, ByteStream.append_of_full nothing, nothing]
        rw [same]
        exact ⟨acked, tiled, fresh⟩
      · exact ⟨acked, tiled.write_unsent sent data, fresh⟩
  | endInput => exact ⟨acked, tiled.endInput, fresh⟩
  | fillWindow =>
      obtain ⟨new, emits, after⟩ := tiled.fillWindow
      refine ⟨acked, after, ?_⟩
      simp [Trace.step, TCPSender.step, emits.newlyEmitted, emits.tracking, fresh]
  | ack ackno windowSize =>
      obtain ⟨older, after, kept⟩ := tiled.ackReceived ackno windowSize
      refine ⟨acked ++ older, ?_⟩
      have same : (t.step (.ack ackno windowSize)).accepted = t.accepted ∧
          (t.step (.ack ackno windowSize)).fresh = t.fresh := by
        simp only [Trace.step]
        split <;> exact ⟨rfl, rfl⟩
      rw [Trace.Tiled, Trace.step_sender, same.1, same.2, fresh, ← kept, List.append_assoc]
      exact ⟨after, rfl⟩
  | tick ms =>
      refine ⟨acked, tiled.tick ms, ?_⟩
      simp only [Trace.step, TCPSender.step]
      rw [tick_frame]
      exact fresh

theorem Trace.Tiled.step {t : Trace} {acked : List TCPSegment} (tiled : t.Tiled acked) {op : Op}
    (legal : t.Legal op) : ∃ acked', (t.step op).Tiled acked' := by
  apply tiled.step_timely
  cases op with
  | write data =>
      refine Or.inr (Or.inr fun sent => ?_)
      have ended := tiled.1.closed (by rw [← tiled.1.written]; exact sent)
      rw [Trace.Legal, ByteStream.inputEnded, ended] at legal
      contradiction
  | _ => trivial

theorem Trace.reaches_tiled {capacity : Nat} {retxTimeout : UInt16} {fixedIsn : Option WrappingInt32}
    {randomIsn : WrappingInt32} {t : Trace}
    (run : Reaches Trace.step Trace.Legal (Trace.new capacity retxTimeout fixedIsn randomIsn) t) :
    ∃ acked, t.Tiled acked := by
  apply run.invariant (fun t => ∃ acked, t.Tiled acked)
  · exact ⟨[], tiled_new capacity retxTimeout fixedIsn randomIsn, rfl⟩
  · rintro t op ⟨acked, tiled⟩ legal
    exact tiled.step legal

section Tiles

variable {isn : WrappingInt32} {accepted : Bytes} {ended : Bool}

theorem SentAt.not_past_end {seg : TCPSegment} (sent : SentAt isn accepted ended (accepted.length + 2) seg) :
    False := by
  have := sent.inside
  omega

theorem payloads_of_tiles {start stop : Nat} {segs : List TCPSegment}
    (tiles : Tiles isn accepted ended start segs stop) (positive : 1 ≤ start) :
    (segs.map TCPSegment.payload).flatten = (accepted.drop (start - 1)).take (stop - start) := by
  induction tiles with
  | nil => simp
  | @cons start stop seg rest sent tail ih =>
      have later := tail.le
      have excerpt := List.prefix_iff_eq_take.mp sent.excerpt
      have length : seg.lengthInSequenceSpace = seg.payload.length + if seg.header.fin then 1 else 0 := by
        simp [TCPSegment.lengthInSequenceSpace, sent.plain (by omega)]
      rw [List.map_cons, List.flatten_cons, ih (by omega)]
      by_cases fin : seg.header.fin = true
      · have stop_ := sent.stop_of_fin fin
        have whole := (sent.closing fin).1
        rw [if_pos fin] at length
        rw [stop_, List.drop_eq_nil_of_le (by omega), List.take_nil, List.append_nil,
          List.take_of_length_le (by rw [List.length_drop]; omega)]
        rw [excerpt]
        exact List.take_of_length_le (by rw [List.length_drop]; omega)
      · rw [if_neg fin] at length
        have count : stop - start = seg.payload.length + (stop - (start + seg.lengthInSequenceSpace)) := by omega
        rw [count, List.take_add, ← excerpt, List.drop_drop]
        congr 3
        omega

end Tiles

structure Trace.TilesSequenceSpace (t : Trace) : Prop where
  opening : ∀ seg, t.fresh[0]? = some seg →
    seg.header.syn = true ∧ seg.header.ack = false ∧ seg.header.fin = false ∧ seg.payload = []
  seqno : ∀ (k : Nat) (seg : TCPSegment), t.fresh[k]? = some seg →
    seg.header.seqno = wrap (sequenceLength (t.fresh.take k)) t.sender.isn
  plain : ∀ (k : Nat) (seg : TCPSegment), t.fresh[k]? = some seg → k ≠ 0 → seg.header.syn = false
  short : ∀ seg ∈ t.fresh, seg.payload.length ≤ 1000
  payloads : (t.fresh.map TCPSegment.payload).flatten = t.accepted.take t.sender.stream.bytesRead
  closing : ∀ (k : Nat) (seg : TCPSegment), t.fresh[k]? = some seg → seg.header.fin = true →
    k + 1 = t.fresh.length ∧ t.sender.stream.bytesRead = t.accepted.length ∧ t.sender.stream.inputEnded = true
  total : t.sender.nextSeqnoAbsolute = sequenceLength t.fresh

namespace Trace

variable {t : Trace} {acked : List TCPSegment}

theorem Tiled.fresh_tiles (tiled : t.Tiled acked) :
    Tiles t.sender.isn t.accepted t.sender.stream.isEnded 0 t.fresh t.sender.nextSeqno := by
  rw [tiled.2]
  exact tiled.1.retired.append tiled.1.outstanding

theorem Tiled.sent (tiled : t.Tiled acked) {k : Nat} {seg : TCPSegment} (here : t.fresh[k]? = some seg) :
    SentAt t.sender.isn t.accepted t.sender.stream.isEnded (sequenceLength (t.fresh.take k)) seg := by
  simpa [sequenceLength] using tiled.fresh_tiles.getElem? here

theorem Tiled.bytesRead (tiled : t.Tiled acked) :
    t.sender.stream.bytesRead = min t.accepted.length (t.sender.nextSeqno - 1) := by
  rw [ByteStream.bytesRead, ByteStream.bytesWritten, tiled.1.written, tiled.1.bufferSize]
  omega

theorem Tiled.payloads (tiled : t.Tiled acked) :
    (t.fresh.map TCPSegment.payload).flatten = t.accepted.take t.sender.stream.bytesRead := by
  have tiles := tiled.fresh_tiles
  have taken (n : Nat) : t.accepted.take (min t.accepted.length n) = t.accepted.take n := by
    rw [Nat.min_comm, ← List.take_take, List.take_length]
  rw [tiled.bytesRead, taken]
  cases segs : t.fresh with
  | nil =>
      have total := tiles.total
      simp only [segs, List.map_nil, List.sum_nil] at total
      simp [← total]
  | cons first rest =>
      rw [segs] at tiles
      cases tiles with
      | cons head tail =>
          obtain ⟨syn, bare, more⟩ := head.opening rfl
          have length : first.lengthInSequenceSpace = 1 := by
            simp [TCPSegment.lengthInSequenceSpace, syn, bare, more]
          rw [length] at tail
          simpa [bare] using payloads_of_tiles tail le_rfl

theorem Tiled.first_of_start (tiled : t.Tiled acked) {k : Nat} {seg : TCPSegment}
    (here : t.fresh[k]? = some seg) (start : sequenceLength (t.fresh.take k) = 0) : k = 0 := by
  cases k with
  | zero => rfl
  | succ k =>
      have tiles := tiled.fresh_tiles
      cases segs : t.fresh with
      | nil => simp [segs] at here
      | cons first rest =>
          rw [segs] at tiles start
          cases tiles with
          | cons head _ =>
              have := head.occupies
              simp only [sequenceLength, List.take_succ_cons, List.map_cons, List.sum_cons] at start
              omega

theorem Tiled.last_of_fin (tiled : t.Tiled acked) {k : Nat} {seg : TCPSegment}
    (here : t.fresh[k]? = some seg) (fin : seg.header.fin = true) :
    k + 1 = t.fresh.length ∧ t.sender.nextSeqno = t.accepted.length + 2 := by
  have total := tiled.fresh_tiles.total
  have inside := (List.getElem?_eq_some_iff.mp here).1
  have next : sequenceLength (t.fresh.take (k + 1)) = t.accepted.length + 2 := by
    rw [List.take_add_one, here]
    simpa [sequenceLength] using (tiled.sent here).stop_of_fin fin
  have last : k + 1 = t.fresh.length := by
    by_contra more
    have later : t.fresh[k + 1]? = some (t.fresh.get ⟨k + 1, by omega⟩) := by simp
    have beyond := tiled.sent later
    rw [next] at beyond
    exact beyond.not_past_end
  rw [last, List.take_length, sequenceLength] at next
  exact ⟨last, by omega⟩

end Trace

theorem fresh_segments_tile (capacity : Nat) (retxTimeout : UInt16) (fixedIsn : Option WrappingInt32)
    (randomIsn : WrappingInt32) (t : Trace)
    (run : Reaches Trace.step Trace.Legal (Trace.new capacity retxTimeout fixedIsn randomIsn) t) :
    t.TilesSequenceSpace := by
  obtain ⟨acked, tiled⟩ := Trace.reaches_tiled run
  have tiles := tiled.fresh_tiles
  constructor
  case opening =>
    intro seg here
    have sent := tiled.sent here
    obtain ⟨syn, bare, more⟩ := sent.opening rfl
    exact ⟨syn, by rw [sent.flags.1, more], more, bare⟩
  case seqno => exact fun k seg here => (tiled.sent here).seqno
  case plain =>
    intro k seg here later
    exact (tiled.sent here).plain fun start => later (tiled.first_of_start here start)
  case short =>
    intro seg member
    obtain ⟨_, _, _, sent⟩ := tiles.position member
    exact sent.short
  case payloads => exact tiled.payloads
  case closing =>
    intro k seg here fin
    obtain ⟨last, stop⟩ := tiled.last_of_fin here fin
    refine ⟨last, ?_, ((tiled.sent here).closing fin).2⟩
    rw [tiled.bytesRead]
    omega
  case total =>
    have total := tiles.total
    rw [nextSeqnoAbsolute, sequenceLength]
    omega

def sampleIsn : WrappingInt32 := ⟨4294967294⟩

def sampleOps : List Op :=
  [.fillWindow, .ack (wrap 1 sampleIsn) 8, .write [1, 2], .fillWindow, .ack (wrap 2 sampleIsn) 3, .tick 2000,
    .write [3], .endInput, .fillWindow]

theorem fresh_segments_tile_sample :
    (sampleOps.foldl Trace.step (Trace.new 8 1000 (some sampleIsn) ⟨0⟩)).fresh.length = 3 ∧
      (sampleOps.foldl Trace.step (Trace.new 8 1000 (some sampleIsn) ⟨0⟩)).TilesSequenceSpace :=
  ⟨by decide +kernel,
    fresh_segments_tile 8 1000 (some sampleIsn) ⟨0⟩ _ (Reaches.start.foldl (by decide +kernel))⟩

structure Trace.Outstanding (t : Trace) : Prop where
  contiguous : ∀ (k : Nat) (seg : TCPSegment), t.sender.trackingSegments.reverse[k]? = some seg →
    seg.header.seqno =
        wrap (t.sender.nextAckno + sequenceLength (t.sender.trackingSegments.reverse.take k)) t.sender.isn ∧
      1 ≤ seg.lengthInSequenceSpace
  reaches : t.sender.nextAckno + sequenceLength t.sender.trackingSegments = t.sender.nextSeqno
  count : t.sender.bytesInFlight = sequenceLength t.sender.trackingSegments ∧
    t.sender.bytesInFlight = t.sender.nextSeqno - t.sender.nextAckno
  nonempty : t.sender.bytesInFlight ≠ 0 → t.sender.trackingSegments ≠ []
  retransmits : ∀ ms, (t.sender.tick ms).segmentsOut = t.sender.segmentsOut ∨
    ∃ k oldest, (t.sender.tick ms).segmentsOut = t.sender.segmentsOut ++ [oldest] ∧
      t.sender.trackingSegments.getLast? = some oldest ∧ t.fresh[k]? = some oldest ∧
      sequenceLength (t.fresh.take k) = t.sender.nextAckno

theorem outstanding_segments_contiguous (capacity : Nat) (retxTimeout : UInt16)
    (fixedIsn : Option WrappingInt32) (randomIsn : WrappingInt32) (t : Trace)
    (run : Reaches Trace.step Trace.Legal (Trace.new capacity retxTimeout fixedIsn randomIsn) t) :
    t.Outstanding := by
  obtain ⟨acked, tiled, fresh⟩ := Trace.reaches_tiled run
  have total : t.sender.nextAckno + sequenceLength t.sender.trackingSegments = t.sender.nextSeqno := by
    rw [← sequenceLength_reverse]
    exact tiled.outstanding.total
  have count := tiled.count
  have retired : sequenceLength acked = t.sender.nextAckno := by
    simpa [sequenceLength] using tiled.retired.total
  constructor
  case contiguous =>
    intro k seg here
    have sent := tiled.outstanding.getElem? here
    exact ⟨sent.seqno, sent.occupies⟩
  case reaches => exact total
  case count => exact ⟨by rw [bytesInFlight]; omega, by rw [bytesInFlight]; omega⟩
  case nonempty =>
    intro flight nothing
    rw [nothing] at total
    rw [bytesInFlight] at flight
    simp only [sequenceLength, List.map_nil, List.sum_nil] at total
    omega
  case retransmits =>
    intro ms
    rcases tiled.tick_out ms with same | ⟨oldest, last, sent⟩
    · exact Or.inl same
    · refine Or.inr ⟨acked.length, oldest, sent, last, ?_, ?_⟩
      · rw [fresh, List.getElem?_append_right le_rfl, Nat.sub_self, ← List.head?_eq_getElem?, List.head?_reverse,
          last]
      · rw [fresh, List.take_left, retired]

theorem outstanding_segments_contiguous_sample :
    (sampleOps.foldl Trace.step (Trace.new 8 1000 (some sampleIsn) ⟨0⟩)).sender.bytesInFlight = 4 ∧
      (sampleOps.foldl Trace.step (Trace.new 8 1000 (some sampleIsn) ⟨0⟩)).Outstanding :=
  ⟨by decide +kernel,
    outstanding_segments_contiguous 8 1000 (some sampleIsn) ⟨0⟩ _ (Reaches.start.foldl (by decide +kernel))⟩

end Sponge.TCPSender
