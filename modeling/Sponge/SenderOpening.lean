import Sponge.SenderRuns

set_option autoImplicit false

namespace Sponge.TCPSender

open Shared

structure OpensOnce (start : Trace) (ops : List Op) : Prop where
  first : ∀ front back, ops = front ++ .fillWindow :: back → .fillWindow ∉ front →
    ∃ seg : TCPSegment, seg.header.syn = true ∧ ((front ++ [Op.fillWindow]).foldl Trace.step start).fresh = [seg]
  once : ∀ (k : Nat) (seg : TCPSegment), (ops.foldl Trace.step start).fresh[k]? = some seg →
    seg.header.syn = true → k = 0
  resent : ∀ seg ∈ (ops.foldl Trace.step start).sender.segmentsOut, seg.header.syn = true →
    (ops.foldl Trace.step start).fresh[0]? = some seg

theorem Trace.step_unfilled (t : Trace) {op : Op} (other : op ≠ .fillWindow) :
    (t.step op).sender.nextSeqno = t.sender.nextSeqno ∧ (t.step op).fresh = t.fresh := by
  rw [Trace.step_sender]
  cases op with
  | write data => exact ⟨rfl, rfl⟩
  | endInput => exact ⟨rfl, rfl⟩
  | fillWindow => exact absurd rfl other
  | ack ackno windowSize =>
      refine ⟨(t.sender.ackReceived_frame ackno windowSize).2.2.2, ?_⟩
      simp only [Trace.step]
      split <;> rfl
  | tick ms =>
      refine ⟨?_, rfl⟩
      simp only [TCPSender.step]
      rw [tick_frame]

theorem Trace.foldl_unfilled (t : Trace) {ops : List Op} (others : .fillWindow ∉ ops) :
    (ops.foldl Trace.step t).sender.nextSeqno = t.sender.nextSeqno ∧ (ops.foldl Trace.step t).fresh = t.fresh := by
  induction ops generalizing t with
  | nil => exact ⟨rfl, rfl⟩
  | cons op ops ih =>
      rw [List.mem_cons, not_or] at others
      obtain ⟨nextSeqno, fresh⟩ := t.step_unfilled (Ne.symm others.1)
      obtain ⟨nextSeqno', fresh'⟩ := ih (t.step op) others.2
      exact ⟨nextSeqno'.trans nextSeqno, fresh'.trans fresh⟩

theorem newlyEmitted_fresh {s : TCPSender} (fresh : s.nextSeqno = 0) : s.newlyEmitted = [s.synSegment] := by
  have syn : s.fillWindow = s.sendSyn := by simp [fillWindow, currentState, nextSeqnoAbsolute, fresh]
  exact Emits.newlyEmitted (by rw [syn]; exact s.sendSyn_emits)

def Trace.Made (t : Trace) : Prop := ∀ seg ∈ t.sender.segmentsOut, seg ∈ t.fresh

theorem Trace.Tiled.made_step {t : Trace} {acked : List TCPSegment} (tiled : t.Tiled acked) (made : t.Made) (op : Op) :
    (t.step op).Made := by
  intro seg queued
  rw [Trace.step_sender] at queued
  cases op with
  | write data => exact made seg queued
  | endInput => exact made seg queued
  | fillWindow =>
      obtain ⟨new, emits, _⟩ := tiled.1.fillWindow
      simp only [TCPSender.step, emits.out, List.mem_append] at queued
      simp only [Trace.step, emits.newlyEmitted, List.mem_append]
      exact queued.imp_left (made seg)
  | ack ackno windowSize =>
      rw [(t.step_unfilled (by simp)).2]
      simp only [TCPSender.step, (t.sender.ackReceived_frame ackno windowSize).2.2.1] at queued
      exact made seg queued
  | tick ms =>
      rw [(t.step_unfilled (by simp)).2]
      rcases tiled.1.tick_out ms with same | ⟨oldest, last, sent⟩
      · simp only [TCPSender.step, same] at queued
        exact made seg queued
      · simp only [TCPSender.step, sent, List.mem_append, List.mem_singleton] at queued
        rcases queued with queued | rfl
        · exact made seg queued
        · rw [tiled.2, List.mem_append, List.mem_reverse]
          exact Or.inr (List.mem_of_getLast? last)

theorem Trace.Tiled.syn_first {t : Trace} {acked : List TCPSegment} (tiled : t.Tiled acked) {k : Nat} {seg : TCPSegment}
    (here : t.fresh[k]? = some seg) (syn : seg.header.syn = true) : k = 0 := by
  apply tiled.first_of_start here
  by_contra later
  simp [(tiled.sent here).plain later] at syn

theorem Trace.first_fill (t : Trace) {ops : List Op} (fresh : t.sender.nextSeqno = 0) (none : t.fresh = [])
    (others : .fillWindow ∉ ops) :
    ∃ seg : TCPSegment, seg.header.syn = true ∧ ((ops ++ [Op.fillWindow]).foldl Trace.step t).fresh = [seg] := by
  obtain ⟨nextSeqno, made⟩ := t.foldl_unfilled others
  refine ⟨(ops.foldl Trace.step t).sender.synSegment, rfl, ?_⟩
  simp only [List.foldl_append, List.foldl_cons, List.foldl_nil, Trace.step, made, none,
    newlyEmitted_fresh (nextSeqno.trans fresh), List.nil_append]

-- Once the FIN is out, a byte more in the stream gets a FIN of its own, and a sender past its own end is taken for one
-- that never sent a SYN.
theorem opens_once (capacity : Nat) (retxTimeout : UInt16) (fixedIsn : Option WrappingInt32)
    (randomIsn : WrappingInt32) (ops : List Op)
    (timely : AllAllowed Trace.step Trace.Timely (Trace.new capacity retxTimeout fixedIsn randomIsn) ops) :
    OpensOnce (Trace.new capacity retxTimeout fixedIsn randomIsn) ops := by
  have run := Reaches.start.foldl timely
  obtain ⟨⟨acked, tiled⟩, made⟩ := run.invariant (fun t => (∃ acked, t.Tiled acked) ∧ t.Made)
    ⟨⟨[], tiled_new capacity retxTimeout fixedIsn randomIsn, rfl⟩, by simp [Trace.Made, Trace.new, new]⟩
    (by
      rintro t op ⟨⟨acked, tiled⟩, made⟩ timely
      exact ⟨tiled.step_timely timely, tiled.made_step made op⟩)
  constructor
  case first => exact fun front back _ others => Trace.first_fill _ rfl rfl others
  case once => exact fun k seg here syn => tiled.syn_first here syn
  case resent =>
    intro seg queued syn
    obtain ⟨k, here⟩ := List.mem_iff_getElem?.mp (made seg queued)
    rw [← tiled.syn_first here syn]
    exact here

theorem opens_once_sample :
    let ops := [.fillWindow, .tick 1000, .endInput, .write [7], .ack (wrap 1 sampleIsn) 8, .fillWindow]
    (ops.foldl Trace.step (Trace.new 8 1000 (some sampleIsn) ⟨0⟩)).sender.segmentsOut.length = 3 ∧
      OpensOnce (Trace.new 8 1000 (some sampleIsn) ⟨0⟩) ops :=
  ⟨by decide +kernel, opens_once 8 1000 (some sampleIsn) ⟨0⟩ _ (by decide +kernel)⟩

-- The FIN is acknowledged, a byte is written and leaves with a second FIN, and the next call opens the stream again.
theorem late_write_opens_again :
    ¬OpensOnce (Trace.new 8 1000 (some sampleIsn) ⟨0⟩)
      [.fillWindow, .ack (wrap 1 sampleIsn) 8, .endInput, .fillWindow, .ack (wrap 2 sampleIsn) 8, .write [7],
        .fillWindow, .fillWindow] := by
  intro opens
  have again : ([Op.fillWindow, .ack (wrap 1 sampleIsn) 8, .endInput, .fillWindow, .ack (wrap 2 sampleIsn) 8,
      .write [7], .fillWindow, .fillWindow].foldl Trace.step (Trace.new 8 1000 (some sampleIsn) ⟨0⟩)).fresh[3]?.map
        (fun seg => seg.header.syn) = some true := by
    decide +kernel
  obtain ⟨seg, here, syn⟩ := Option.map_eq_some_iff.mp again
  exact absurd (opens.once 3 seg here syn) (by decide)

end Sponge.TCPSender
