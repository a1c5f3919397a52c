import Sponge.SenderRuns

set_option autoImplicit false

namespace Sponge.TCPSender

open Shared

def InWord (s : TCPSender) (ms : Nat) : Prop :=
  s.bytesInFlight ≠ 0 → s.timer + ms < 2 ^ 64 ∧
    (s.retransmissionTimeout ≤ s.timer + ms → s.windowSize ≠ 0 →
      s.retransmissionTimeout + s.retransmissionTimeout < 2 ^ 64)

instance (s : TCPSender) (ms : Nat) : Decidable (s.InWord ms) := inferInstanceAs (Decidable (_ → _))

/-- A run of the sender beside a stopwatch that sees what goes in and out: the retransmissions into an open window
since the last acknowledgment that retired a segment, and the time ticked with data in flight since the last restart.
-/
structure Clock extends Trace where
  doublings : Nat
  elapsed : Nat

namespace Clock

def new (capacity : Nat) (retxTimeout : UInt16) (fixedIsn : Option WrappingInt32)
    (randomIsn : WrappingInt32) : Clock where
  toTrace := .new capacity retxTimeout fixedIsn randomIsn
  doublings := 0
  elapsed := 0

def step (c : Clock) (op : Op) : Clock :=
  let after := { c with toTrace := c.toTrace.step op }
  match op with
  | .fillWindow =>
      -- the first send after idle
      if c.sender.bytesInFlight = 0 ∧ after.sender.bytesInFlight ≠ 0 then { after with elapsed := 0 } else after
  | .ack _ _ =>
      if after.sender.trackingSegments.length < c.sender.trackingSegments.length then
        { after with doublings := 0, elapsed := 0 }
      else after
  | .tick ms =>
      if after.sender.segmentsOut ≠ c.sender.segmentsOut then
        { after with
          doublings := if c.sender.windowSize ≠ 0 then c.doublings + 1 else c.doublings
          elapsed := 0 }
      else if c.sender.bytesInFlight ≠ 0 then { after with elapsed := c.elapsed + ms }
      else after
  | _ => after

def Legal (c : Clock) : Op → Prop
  | .tick ms => c.sender.InWord ms
  | op => c.toTrace.Legal op

instance (c : Clock) : (op : Op) → Decidable (c.Legal op)
  | .tick ms => inferInstanceAs (Decidable (c.sender.InWord ms))
  | .write data => inferInstanceAs (Decidable (c.toTrace.Legal (.write data)))
  | .endInput | .fillWindow | .ack _ _ => inferInstanceAs (Decidable True)

end Clock

section Tick

variable {accepted : Bytes} {acked : List TCPSegment} {s : TCPSender} {ms : Nat}

theorem tick_idle (idle : s.bytesInFlight = 0) : s.tick ms = s := by
  simp [tick, startTimer, idle]

theorem tick_waits (flight : s.bytesInFlight ≠ 0) (word : s.InWord ms)
    (early : s.timer + ms < s.retransmissionTimeout) : s.tick ms = { s with timer := s.timer + ms } := by
  have sum := add64_of_lt (word flight).1
  simp only [tick, startTimer, if_pos flight, sum]
  exact if_neg (by omega)

theorem tick_expires (flight : s.bytesInFlight ≠ 0) (word : s.InWord ms)
    (late : s.retransmissionTimeout ≤ s.timer + ms) :
    s.tick ms =
      { s with
        segmentsOut := s.segmentsOut ++ s.trackingSegments.getLast?.toList
        timer := 0
        retransmissionTimeout :=
          if s.windowSize ≠ 0 then s.retransmissionTimeout * 2 else s.retransmissionTimeout
        consecutiveTimeOutCount := (s.consecutiveTimeOutCount + 1) % 2 ^ 16 } := by
  obtain ⟨bound, doubled⟩ := word flight
  have double : (if s.windowSize ≠ 0 then add64 s.retransmissionTimeout s.retransmissionTimeout
      else s.retransmissionTimeout) =
      if s.windowSize ≠ 0 then s.retransmissionTimeout * 2 else s.retransmissionTimeout := by
    split
    next wide => rw [add64_of_lt (doubled late wide), Nat.mul_two]
    next => rfl
  simp only [tick, startTimer, if_pos flight, add64_of_lt bound, double]
  exact if_pos ⟨late, flight⟩

end Tick

theorem fillWindow_timeouts (s : TCPSender) :
    s.fillWindow.initialRetransmissionTimeout = s.initialRetransmissionTimeout ∧
      s.fillWindow.retransmissionTimeout = s.retransmissionTimeout := by
  apply s.fillWindow_invariant fun t =>
    t.initialRetransmissionTimeout = s.initialRetransmissionTimeout ∧ t.retransmissionTimeout = s.retransmissionTimeout
  · exact ⟨rfl, rfl⟩
  · exact ⟨rfl, rfl⟩
  · exact fun t same => same

-- Only the SYN resets the timer, and nothing is in flight before it.
theorem Tiled.fillWindow_timer {accepted : Bytes} {acked : List TCPSegment} {s : TCPSender}
    (tiled : Tiled accepted acked s) (stopped : s.bytesInFlight = 0 → s.timer = 0) : s.fillWindow.timer = s.timer := by
  have count := tiled.count
  rw [tiled.fillWindow_eq]
  split_ifs with fresh unacked
  · exact (stopped (by rw [bytesInFlight]; omega)).symm
  · rfl
  · exact loop_invariant canSend TCPSender.sendNext (fun t => t.timer = s.timer) (fun _ _ same => same) s.rounds s rfl

namespace Clock

structure Timed (timeout : Nat) (c : Clock) : Prop where
  tiled : ∃ acked, c.toTrace.Tiled acked
  initial : c.sender.initialRetransmissionTimeout = timeout
  current : c.sender.retransmissionTimeout = timeout * 2 ^ c.doublings
  elapsed : c.elapsed = c.sender.timer
  stopped : c.sender.bytesInFlight = 0 → c.sender.timer = 0

namespace Timed

variable {timeout : Nat} {c : Clock}

theorem unnoticed (timed : c.Timed timeout) {op : Op} (legal : c.toTrace.Legal op)
    (kept : c.step op = { c with toTrace := c.toTrace.step op })
    (initial : (c.sender.step op).initialRetransmissionTimeout = c.sender.initialRetransmissionTimeout)
    (current : (c.sender.step op).retransmissionTimeout = c.sender.retransmissionTimeout)
    (timer : (c.sender.step op).timer = c.sender.timer)
    (flight : (c.sender.step op).bytesInFlight = 0 → c.sender.bytesInFlight = 0) : (c.step op).Timed timeout := by
  obtain ⟨acked, tiled⟩ := timed.tiled
  rw [kept]
  constructor
  case tiled => exact tiled.step legal
  case initial => simpa [initial] using timed.initial
  case current => simpa [current] using timed.current
  case elapsed => simpa [timer] using timed.elapsed
  case stopped =>
    intro idle
    simp only [Trace.step_sender] at idle ⊢
    rw [timer]
    exact timed.stopped (flight idle)

theorem restarted (timed : c.Timed timeout) {op : Op} (legal : c.toTrace.Legal op) {doublings : Nat}
    (kept : c.step op = { c with toTrace := c.toTrace.step op, doublings := doublings, elapsed := 0 })
    (initial : (c.sender.step op).initialRetransmissionTimeout = c.sender.initialRetransmissionTimeout)
    (current : (c.sender.step op).retransmissionTimeout = timeout * 2 ^ doublings)
    (timer : (c.sender.step op).timer = 0) : (c.step op).Timed timeout := by
  obtain ⟨acked, tiled⟩ := timed.tiled
  rw [kept]
  constructor
  case tiled => exact tiled.step legal
  case initial => simpa [initial] using timed.initial
  case current => simpa using current
  case elapsed => simp [timer]
  case stopped => exact fun _ => by simp [timer]

theorem fillWindow (timed : c.Timed timeout) : (c.step .fillWindow).Timed timeout := by
  obtain ⟨acked, tiled⟩ := timed.tiled
  have timer := tiled.1.fillWindow_timer timed.stopped
  obtain ⟨initial, current⟩ := c.sender.fillWindow_timeouts
  have flight : c.sender.fillWindow.bytesInFlight = 0 → c.sender.bytesInFlight = 0 := by
    have grows := c.sender.fillWindow_nextSeqno_le
    obtain ⟨_, emits, after⟩ := tiled.1.fillWindow
    have count := tiled.1.count
    have count' := after.count
    rw [emits.nextAckno] at count'
    unfold bytesInFlight
    omega
  have kept : c.step .fillWindow = { c with toTrace := c.toTrace.step .fillWindow } := by
    simp only [Clock.step]
    split
    next restart => rw [timed.elapsed, timed.stopped restart.1]
    next => rfl
  exact timed.unnoticed (show c.toTrace.Legal .fillWindow from trivial) kept initial current timer flight

theorem ack (timed : c.Timed timeout) (ackno : WrappingInt32) (windowSize : UInt16) :
    (c.step (.ack ackno windowSize)).Timed timeout := by
  obtain ⟨acked, tiled⟩ := timed.tiled
  have legal : c.toTrace.Legal (.ack ackno windowSize) := trivial
  have sender : (c.toTrace.step (.ack ackno windowSize)).sender = c.sender.ackReceived ackno windowSize :=
    Trace.step_sender _ _
  cases found : c.sender.matched ackno with
  | false =>
      have after := tiled.1.ackReceived_unmatched found windowSize
      rw [noteWindow_frame] at after
      apply timed.unnoticed legal (if_neg (by rw [sender, after]; exact lt_irrefl _))
      all_goals simp only [TCPSender.step]; rw [after]
      exact id
  | true =>
      obtain ⟨newer, older, position, split, old, _, later, _, after⟩ := tiled.1.ackReceived_matched found windowSize
      have shorter : newer.length < c.sender.trackingSegments.length := by
        have removed : older ≠ [] := by
          rintro rfl
          have := old.total
          simp at this
          omega
        rw [split, List.length_append]
        exact Nat.lt_add_of_pos_right (List.length_pos_of_ne_nil removed)
      apply timed.restarted legal (if_pos (by rw [sender, after]; exact shorter))
      all_goals simp only [TCPSender.step]; rw [after]
      simpa using timed.initial

theorem tick (timed : c.Timed timeout) {ms : Nat} (word : c.sender.InWord ms) : (c.step (.tick ms)).Timed timeout := by
  obtain ⟨acked, tiled⟩ := timed.tiled
  have legal : c.toTrace.Legal (.tick ms) := trivial
  by_cases idle : c.sender.bytesInFlight = 0
  · have same : c.sender.step (.tick ms) = c.sender := tick_idle idle
    have kept : c.step (.tick ms) = { c with toTrace := c.toTrace.step (.tick ms) } := by
      simp [Clock.step, same, idle]
    apply timed.unnoticed legal kept <;> rw [same]
    exact id
  · rcases Nat.lt_or_ge (c.sender.timer + ms) c.sender.retransmissionTimeout with early | late
    · have after : c.sender.step (.tick ms) = _ := tick_waits idle word early
      have kept : c.step (.tick ms) = { c with toTrace := c.toTrace.step (.tick ms), elapsed := c.elapsed + ms } := by
        simp [Clock.step, after, idle]
      rw [kept]
      constructor
      case tiled => exact tiled.step legal
      case initial => simpa [after] using timed.initial
      case current => simpa [after] using timed.current
      case elapsed => simp [after, timed.elapsed]
      case stopped =>
        simp only [Trace.step_sender, after]
        exact fun flight => absurd flight idle
    · have after : c.sender.step (.tick ms) = _ := tick_expires idle word late
      obtain ⟨oldest, last⟩ := tiled.1.oldest_of_flight idle
      have kept : c.step (.tick ms) =
          { c with
            toTrace := c.toTrace.step (.tick ms)
            doublings := if c.sender.windowSize ≠ 0 then c.doublings + 1 else c.doublings
            elapsed := 0 } := by
        simp [Clock.step, after, last]
      apply timed.restarted legal kept <;> rw [after]
      dsimp only
      split
      next => rw [timed.current, Nat.pow_succ, Nat.mul_assoc]
      next => exact timed.current

theorem step (timed : c.Timed timeout) {op : Op} (legal : c.Legal op) : (c.step op).Timed timeout := by
  cases op with
  | write data => exact timed.unnoticed legal rfl rfl rfl rfl id
  | endInput => exact timed.unnoticed legal rfl rfl rfl rfl id
  | fillWindow => exact timed.fillWindow
  | ack ackno windowSize => exact timed.ack ackno windowSize
  | tick ms => exact timed.tick legal

end Timed

theorem reaches_timed {capacity : Nat} {retxTimeout : UInt16} {fixedIsn : Option WrappingInt32}
    {randomIsn : WrappingInt32} {c : Clock}
    (run : Reaches step Legal (new capacity retxTimeout fixedIsn randomIsn) c) : c.Timed retxTimeout.toNat := by
  apply run.invariant (Timed retxTimeout.toNat)
  · constructor
    case tiled => exact ⟨[], tiled_new capacity retxTimeout fixedIsn randomIsn, rfl⟩
    case initial => rfl
    case current => exact (Nat.mul_one _).symm
    case elapsed => rfl
    case stopped => exact fun _ => rfl
  · exact fun c op timed legal => timed.step legal

structure Lawful (timeout : Nat) (c : Clock) : Prop where
  backoff : c.sender.retransmissionTimeout = timeout * 2 ^ c.doublings
  expiry : ∀ ms, c.sender.InWord ms →
    ((c.sender.tick ms).segmentsOut ≠ c.sender.segmentsOut ↔
      c.sender.bytesInFlight ≠ 0 ∧ timeout * 2 ^ c.doublings ≤ c.elapsed + ms)
  oldest : ∀ ms, (c.sender.tick ms).segmentsOut ≠ c.sender.segmentsOut →
    ∃ seg, c.sender.trackingSegments.getLast? = some seg ∧
      (c.sender.tick ms).segmentsOut = c.sender.segmentsOut ++ [seg]
  running : c.sender.bytesInFlight ≠ 0 → c.sender.fillWindow.timer = c.sender.timer
  stopped : c.sender.bytesInFlight = 0 → c.sender.timer = 0

theorem Timed.expiry {timeout : Nat} {c : Clock} (timed : c.Timed timeout) {ms : Nat} (word : c.sender.InWord ms) :
    (c.sender.tick ms).segmentsOut ≠ c.sender.segmentsOut ↔
      c.sender.bytesInFlight ≠ 0 ∧ timeout * 2 ^ c.doublings ≤ c.elapsed + ms := by
  obtain ⟨acked, tiled⟩ := timed.tiled
  rw [← timed.current, timed.elapsed]
  by_cases idle : c.sender.bytesInFlight = 0
  · simp [tick_idle idle, idle]
  · rcases Nat.lt_or_ge (c.sender.timer + ms) c.sender.retransmissionTimeout with early | late
    · rw [tick_waits idle word early]
      simp [early]
    · obtain ⟨oldest, last⟩ := tiled.1.oldest_of_flight idle
      rw [tick_expires idle word late, last]
      simp [idle, late]

end Clock

theorem retransmission_timer_lawful (capacity : Nat) (retxTimeout : UInt16) (fixedIsn : Option WrappingInt32)
    (randomIsn : WrappingInt32) (c : Clock)
    (run : Reaches Clock.step Clock.Legal (Clock.new capacity retxTimeout fixedIsn randomIsn) c) :
    c.Lawful retxTimeout.toNat := by
  have timed := Clock.reaches_timed run
  obtain ⟨acked, tiled⟩ := timed.tiled
  constructor
  case backoff => exact timed.current
  case expiry => exact fun ms word => timed.expiry word
  case oldest => exact fun ms sent => (tiled.1.tick_out ms).resolve_left sent
  case running => exact fun _ => tiled.1.fillWindow_timer timed.stopped
  case stopped => exact timed.stopped

theorem retransmission_timer_lawful_sample :
    let c := sampleOps.foldl Clock.step (Clock.new 8 1000 (some sampleIsn) ⟨0⟩)
    (c.doublings = 1 ∧ c.sender.retransmissionTimeout = 2000) ∧ c.Lawful 1000 :=
  ⟨by decide +kernel,
    retransmission_timer_lawful 8 1000 (some sampleIsn) ⟨0⟩ _ (Reaches.start.foldl (by decide +kernel))⟩

end Sponge.TCPSender
