import Sponge.SenderRuns

set_option autoImplicit false

namespace Sponge.TCPSender

open Shared

-- How much of the peer's window is to be used: an empty one counts as one when nothing is in flight.
def demand (s : TCPSender) (windowSize : UInt16) : Nat :=
  if 0 < windowSize.toNat then windowSize.toNat else if s.bytesInFlight = 0 then 1 else 0

section Edge

variable {accepted : Bytes} {acked : List TCPSegment} {s : TCPSender} {ackno : WrappingInt32}

theorem Tiled.unmatched_at_edge (tiled : Tiled accepted acked s) : s.matched (wrap s.nextAckno s.isn) = false := by
  by_contra found
  obtain ⟨_, position, _, _, new, later, mark⟩ := tiled.matched_position (by simpa using found)
  have near := tiled.near
  have := new.le
  have := wrap_injective_near mark (by omega) (by omega)
  omega

theorem Tiled.startsBefore_edge (tiled : Tiled accepted acked s) :
    s.startsBefore (wrap s.nextAckno s.isn) = false := by
  unfold startsBefore
  split
  next => rfl
  next oldest last => simp [(tiled.oldest last).seqno]

theorem noteWindow_inside {position : Nat} (start : s.nextAckno ≤ position) (stop : position ≤ s.nextSeqno)
    (near : s.nextSeqno ≤ s.nextAckno + 2 ^ 16) (windowSize : UInt16) :
    s.noteWindow (wrap position s.isn) windowSize = { s with windowSize := windowSize.toNat } := by
  rw [noteWindow, unwrap_wrap_near _ _ _ (by omega) (by omega)]
  exact if_pos ⟨start, stop⟩

theorem Tiled.ack_honoured (tiled : Tiled accepted acked s) (windowSize : UInt16)
    (edge : ackno = wrap s.nextAckno s.isn ∨ s.matched ackno = true) :
    (s.ackReceived ackno windowSize).windowSize = windowSize.toNat ∧
      (s.ackReceived ackno windowSize).remainWindowSize = (s.ackReceived ackno windowSize).demand windowSize ∧
      s.nextAckno ≤ (s.ackReceived ackno windowSize).nextAckno := by
  have window (n : Nat) : (if windowSize.toNat = 0 ∧ n = 0 then 1 else windowSize.toNat) =
      if 0 < windowSize.toNat then windowSize.toNat else if n = 0 then 1 else 0 := by
    split_ifs <;> omega
  rcases edge with rfl | found
  · have noted := noteWindow_inside le_rfl tiled.outstanding.le tiled.near windowSize
    rw [tiled.ackReceived_unmatched tiled.unmatched_at_edge, tiled.startsBefore_edge, noted]
    exact ⟨rfl, window s.trackedCount, le_rfl⟩
  · obtain ⟨_, _, position, _, _, _, later, _, after⟩ := tiled.ackReceived_matched found windowSize
    rw [after]
    exact ⟨rfl, window (s.nextSeqno - position), later.le⟩

end Edge

section Filling

variable {accepted : Bytes} {acked : List TCPSegment} {s : TCPSender}

-- A round leaves the window as it is, or closes it after the one segment of a probe.
theorem Tiled.fillWindow_remain (tiled : Tiled accepted acked s) (opened : 0 < s.nextAckno) :
    s.fillWindow.remainWindowSize = s.remainWindowSize ∨
      s.remainWindowSize ≠ s.windowSize ∧ s.nextSeqno < s.fillWindow.nextSeqno := by
  have := tiled.outstanding.le
  rw [tiled.fillWindow_eq, if_neg (by omega), if_neg (by omega)]
  have kept := loop_invariant canSend TCPSender.sendNext
    (fun t => (Tiled accepted acked t ∧ 0 < t.nextAckno) ∧ t.windowSize = s.windowSize ∧ s.nextSeqno ≤ t.nextSeqno ∧
      (t.remainWindowSize = s.remainWindowSize ∨
        s.remainWindowSize ≠ s.windowSize ∧ s.nextSeqno < t.nextSeqno))
    (by
      rintro t running ⟨⟨tiled, opened⟩, window, forward, remain⟩
      have longer := (tiled.nextSegment_bounds opened running).1
      have nextSeqno : t.sendNext.nextSeqno = t.nextSeqno + t.nextSegment.lengthInSequenceSpace := rfl
      refine ⟨⟨tiled.sendNext opened running, opened⟩, window, by omega, ?_⟩
      rcases remain with same | ⟨probe, sent⟩
      · by_cases whole : t.remainWindowSize = t.windowSize
        · left
          rw [← same]
          simp [TCPSender.sendNext, whole]
        · right
          rw [← same, ← window]
          exact ⟨whole, by omega⟩
      · exact Or.inr ⟨probe, by omega⟩)
    s.rounds s ⟨⟨tiled, opened⟩, rfl, le_rfl, Or.inl rfl⟩
  exact kept.2.2.2

theorem Tiled.fillWindow_stops (tiled : Tiled accepted acked s) (opened : 0 < s.nextAckno) :
    s.nextAckno + s.fillWindow.remainWindowSize ≤ s.fillWindow.nextSeqno ∨
      accepted.length < s.fillWindow.nextSeqno ∧
        (s.stream.isEnded = true → s.fillWindow.nextSeqno = accepted.length + 2) := by
  obtain ⟨new, emits, after⟩ := tiled.fillWindow
  have stopped := tiled.fillWindow_exits opened
  have last := after.last
  rw [Bool.eq_false_iff, ne_eq, after.canSend_iff (by rw [emits.nextAckno]; exact opened), emits.nextAckno, emits.ended]
    at stopped
  rcases Nat.lt_or_ge s.fillWindow.nextSeqno (s.nextAckno + s.fillWindow.remainWindowSize) with room | full
  · right
    have past : accepted.length < s.fillWindow.nextSeqno := by
      by_contra more
      exact stopped ⟨room, Or.inl (by omega)⟩
    refine ⟨past, fun ended => ?_⟩
    by_contra unsent
    exact stopped ⟨room, Or.inr ⟨ended, by omega⟩⟩
  · exact Or.inl full

theorem Tiles.fin_mem {isn : WrappingInt32} {ended : Bool} {segs : List TCPSegment}
    (tiles : Tiles isn accepted ended 0 segs (accepted.length + 2)) : ∃ seg ∈ segs, seg.header.fin = true := by
  rcases List.eq_nil_or_concat' segs with rfl | ⟨front, seg, rfl⟩
  · have := tiles.total
    simp at this
  · obtain ⟨start, _, sent, stop⟩ := tiles.unsnoc
    exact ⟨seg, by simp, sent.fin_of_stop stop⟩

end Filling

structure Trace.AllSent (t : Trace) : Prop where
  bytes : (t.fresh.map TCPSegment.payload).flatten = t.accepted
  fin : t.sender.stream.inputEnded = true → ∃ seg ∈ t.fresh, seg.header.fin = true

theorem Trace.Tiled.fill_demand {t : Trace} {acked : List TCPSegment} {windowSize : UInt16} (tiled : t.Tiled acked)
    (opened : 0 < t.sender.nextAckno) (window : t.sender.windowSize = windowSize.toNat)
    (remain : t.sender.remainWindowSize = t.sender.demand windowSize) :
    (t.step .fillWindow).AllSent ∨
      (t.step .fillWindow).sender.nextAckno + t.sender.demand windowSize ≤
        (t.step .fillWindow).sender.nextSeqnoAbsolute := by
  obtain ⟨_, emits, _⟩ := tiled.1.fillWindow
  have filled : (t.step .fillWindow).sender = t.sender.fillWindow := t.step_sender _
  rcases tiled.1.fillWindow_stops opened with full | ⟨bytes, fin⟩
  · right
    have forward := tiled.1.outstanding.le
    rw [filled, emits.nextAckno, nextSeqnoAbsolute]
    rcases tiled.1.fillWindow_remain opened with kept | ⟨probe, sent⟩
    · omega
    · -- the window counted as one, and the probe has used it
      have single : t.sender.demand windowSize ≤ 1 := by
        rw [remain, window, demand] at probe
        rw [demand]
        split_ifs at probe ⊢ <;> omega
      omega
  · left
    obtain ⟨_, after⟩ := tiled.step (show t.Legal .fillWindow from trivial)
    constructor
    case bytes =>
      rw [after.payloads, after.bytesRead, filled]
      exact List.take_of_length_le (le_min le_rfl (Nat.le_sub_one_of_lt bytes))
    case fin =>
      intro ended
      have stop := fin (by rw [filled, ByteStream.inputEnded, emits.ended] at ended; exact ended)
      have tiles := after.fresh_tiles
      rw [filled, stop] at tiles
      exact Tiles.fin_mem tiles

theorem fillWindow_uses_window (capacity : Nat) (retxTimeout : UInt16) (fixedIsn : Option WrappingInt32)
    (randomIsn : WrappingInt32) (t : Trace) (ackno : WrappingInt32) (windowSize : UInt16)
    (run : Reaches Trace.step Trace.Legal (Trace.new capacity retxTimeout fixedIsn randomIsn) t)
    (opened : 0 < t.sender.nextAckno)
    (edge : ackno = wrap t.sender.nextAckno t.sender.isn ∨
      ∃ seg ∈ t.sender.trackingSegments, ackno = seg.header.seqno.advance seg.lengthInSequenceSpace) :
    let t' := t.step (.ack ackno windowSize)
    (t'.step .fillWindow).AllSent ∨
      (t'.step .fillWindow).sender.nextAckno + t'.sender.demand windowSize ≤
        (t'.step .fillWindow).sender.nextSeqnoAbsolute := by
  intro t'
  obtain ⟨acked, tiled⟩ := Trace.reaches_tiled run
  have ends : ackno = wrap t.sender.nextAckno t.sender.isn ∨ t.sender.matched ackno = true := by
    refine edge.imp_right ?_
    rintro ⟨seg, member, stop⟩
    obtain ⟨position, _, _, sent⟩ := tiled.1.outstanding.position (List.mem_reverse.mpr member)
    refine List.any_eq_true.mpr ⟨seg, member, ?_⟩
    rw [stop, sent.mark, sent.seqno, wrap_advance]
    exact beq_self_eq_true _
  obtain ⟨window, remain, further⟩ := tiled.1.ack_honoured windowSize ends
  have acknowledged : t'.sender = t.sender.ackReceived ackno windowSize := t.step_sender _
  rw [← acknowledged] at window remain further
  obtain ⟨_, tiled'⟩ := tiled.step (show t.Legal (.ack ackno windowSize) from trivial)
  exact tiled'.fill_demand (lt_of_lt_of_le opened further) window remain

theorem fillWindow_uses_window_sample :
    let t := [.fillWindow, .ack (wrap 1 sampleIsn) 1, .write [1, 2, 3, 4, 5], .fillWindow].foldl Trace.step
      (Trace.new 8 1000 (some sampleIsn) ⟨0⟩)
    let t' := t.step (.ack (wrap 2 sampleIsn) 3)
    ((t'.step .fillWindow).sender.nextSeqnoAbsolute = 5 ∧ t'.sender.demand 3 = 3) ∧
      ((t'.step .fillWindow).AllSent ∨
        (t'.step .fillWindow).sender.nextAckno + t'.sender.demand 3 ≤
          (t'.step .fillWindow).sender.nextSeqnoAbsolute) :=
  ⟨by decide +kernel,
    fillWindow_uses_window 8 1000 (some sampleIsn) ⟨0⟩ _ _ 3 (Reaches.start.foldl (by decide +kernel))
      (by decide +kernel) (Or.inr (by decide +kernel))⟩

section Stale

variable {s : TCPSender} {ackno : WrappingInt32}

theorem reaches_counted {capacity : Nat} {retxTimeout : UInt16} {fixedIsn : Option WrappingInt32}
    {randomIsn : WrappingInt32}
    (run : Reaches step (fun _ _ => True) (new capacity retxTimeout fixedIsn randomIsn) s) : s.Counted := by
  apply run.invariant Counted (counted_new capacity retxTimeout fixedIsn randomIsn)
  intro s op counted _
  cases op with
  | write data => exact ⟨counted.flight, counted.within⟩
  | endInput => exact ⟨counted.flight, counted.within⟩
  | fillWindow => exact counted.fillWindow
  | ack ackno windowSize => exact counted.ackReceived ackno windowSize
  | tick ms => exact counted.tick ms

def Stale (s : TCPSender) (ackno : WrappingInt32) : Prop :=
  unwrap ackno s.isn s.nextAckno < s.nextAckno ∨ s.nextSeqno < unwrap ackno s.isn s.nextAckno

instance (s : TCPSender) (ackno : WrappingInt32) : Decidable (s.Stale ackno) :=
  inferInstanceAs (Decidable (_ ∨ _))

theorem noteWindow_stale (stale : s.Stale ackno) (windowSize : UInt16) : s.noteWindow ackno windowSize = s := by
  rw [noteWindow]
  exact if_neg (by unfold Stale at stale; omega)

def WindowsAgree (s : TCPSender) : Prop :=
  if s.windowSize = 0 ∧ s.bytesInFlight = 0 then s.remainWindowSize = 1 else s.remainWindowSize = s.windowSize

instance (s : TCPSender) : Decidable s.WindowsAgree :=
  inferInstanceAs (Decidable (if s.windowSize = 0 ∧ s.bytesInFlight = 0 then _ else _))

theorem ackReceived_matched_ne (found : s.matched ackno = true) (windowSize : UInt16) :
    s.ackReceived ackno windowSize ≠ s := by
  intro same
  obtain ⟨seg, older, split, _⟩ := matched_split found
  have kept : s.remaining ackno = s.trackingSegments := by
    rw [← s.ackReceived_trackingSegments ackno windowSize, same]
  rw [← kept] at split
  simpa using congrArg List.length split

theorem ackReceived_stale (counted : s.trackedCount = sequenceLength s.trackingSegments) (stale : s.Stale ackno)
    (none : s.matched ackno = false) (windowSize : UInt16) :
    s.ackReceived ackno windowSize = s ↔ s.startsBefore ackno = true ∨ s.WindowsAgree := by
  rw [ackReceived_unmatched counted none, noteWindow_stale stale]
  by_cases early : s.startsBefore ackno = true
  · simp [early]
  · have agree : s.WindowsAgree ↔
        s.remainWindowSize = if s.windowSize = 0 ∧ s.trackedCount = 0 then 1 else s.windowSize := by
      unfold WindowsAgree bytesInFlight
      split <;> exact Iff.rfl
    rw [if_neg early, or_iff_right early, agree]
    constructor
    · exact fun same => (congrArg remainWindowSize same).symm
    · intro same
      rw [← same]

end Stale

-- An acknowledgment outside of what is in flight still recomputes the room left in the window. It does no harm when
-- the early return precedes that, or when the window variables agree.
theorem stale_ack_ignored_iff (capacity : Nat) (retxTimeout : UInt16) (fixedIsn : Option WrappingInt32)
    (randomIsn : WrappingInt32) (s : TCPSender) (ackno : WrappingInt32) (windowSize : UInt16)
    (run : Reaches step (fun _ _ => True) (new capacity retxTimeout fixedIsn randomIsn) s)
    (stale : s.Stale ackno) :
    (s.step (.ack ackno windowSize) = s ∧
        ∀ ops : List Op, (ops.foldl step (s.step (.ack ackno windowSize))).segmentsOut =
          (ops.foldl step s).segmentsOut) ↔
      s.matched ackno = false ∧ (s.startsBefore ackno = true ∨ s.WindowsAgree) := by
  have counted := (reaches_counted run).flight
  have ignored : s.step (.ack ackno windowSize) = s ↔
      s.matched ackno = false ∧ (s.startsBefore ackno = true ∨ s.WindowsAgree) := by
    cases found : s.matched ackno with
    | true => simpa [step] using ackReceived_matched_ne found windowSize
    | false => simpa [step] using ackReceived_stale counted stale found windowSize
  rw [← ignored]
  constructor
  · exact And.left
  · intro same
    refine ⟨same, fun ops => ?_⟩
    rw [same]

theorem stale_ack_ignored_iff_sample :
    let s := [.fillWindow, .ack (wrap 1 sampleIsn) 4, .write [1, 2, 3], .fillWindow, .ack (wrap 4 sampleIsn) 7].foldl
      step (new 8 1000 (some sampleIsn) ⟨0⟩)
    s.WindowsAgree ∧
      ((s.step (.ack (wrap 1 sampleIsn) 4) = s ∧
          ∀ ops : List Op, (ops.foldl step (s.step (.ack (wrap 1 sampleIsn) 4))).segmentsOut =
            (ops.foldl step s).segmentsOut) ↔
        s.matched (wrap 1 sampleIsn) = false ∧ (s.startsBefore (wrap 1 sampleIsn) = true ∨ s.WindowsAgree)) :=
  ⟨by decide +kernel,
    stale_ack_ignored_iff 8 1000 (some sampleIsn) ⟨0⟩ _ (wrap 1 sampleIsn) 4
      (Reaches.start.foldl (by decide +kernel)) (by decide +kernel)⟩

-- The window is four, a mid-segment acknowledgment tells of seven, and an old one lets the sender use it.
theorem stale_ack_widens :
    let s := [.fillWindow, .ack (wrap 1 ⟨0⟩) 4, .write [1, 2, 3, 4, 5, 6], .fillWindow, .ack (wrap 2 ⟨0⟩) 7].foldl step
      (new 8 1000 (some ⟨0⟩) ⟨0⟩)
    s.Stale (wrap 0 ⟨0⟩) ∧ s.remainWindowSize = 4 ∧ (s.step (.ack (wrap 0 ⟨0⟩) 1)).remainWindowSize = 7 ∧
      s.fillWindow.segmentsOut = s.segmentsOut ∧
      (s.step (.ack (wrap 0 ⟨0⟩) 1)).fillWindow.segmentsOut ≠ s.segmentsOut := by
  decide +kernel

end Sponge.TCPSender
