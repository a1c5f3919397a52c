import Sponge.ConnectionClose
import Sponge.TCPState

set_option autoImplicit false

namespace Sponge

open Shared

namespace TCPSender

variable (s : TCPSender)

def retransmits (ms : Nat) : Bool :=
  decide (s.retransmissionTimeout ≤ (s.startTimer ms).timer ∧ s.bytesInFlight ≠ 0)

theorem tick_count (ms : Nat) : (s.tick ms).consecutiveRetransmissions =
    if s.retransmits ms then (s.consecutiveRetransmissions + 1) % 2 ^ 16 else s.consecutiveRetransmissions := by
  have frame := s.startTimer_frame ms
  have same : (s.startTimer ms).retransmissionTimeout ≤ (s.startTimer ms).timer ∧
      (s.startTimer ms).bytesInFlight ≠ 0 ↔ s.retransmits ms = true := by
    rw [frame]
    simp only [retransmits, decide_eq_true_eq]
    exact Iff.rfl
  simp only [tick]
  by_cases expired : s.retransmits ms = true
  · rw [if_pos (same.mpr expired), if_pos expired, frame]
    rfl
  · rw [if_neg (mt same.mp expired), if_neg expired, frame]
    rfl

theorem fillWindow_count : s.fillWindow.consecutiveRetransmissions = s.consecutiveRetransmissions := by
  apply s.fillWindow_invariant fun t => t.consecutiveRetransmissions = s.consecutiveRetransmissions
  · rfl
  · rfl
  · exact fun t same => same

theorem ackReceived_count (ackno : WrappingInt32) (windowSize : UInt16) :
    (s.ackReceived ackno windowSize).consecutiveRetransmissions =
      if s.matched ackno then 0 else s.consecutiveRetransmissions := by
  have retired : ((s.noteWindow ackno windowSize).retire ackno).consecutiveRetransmissions =
      if s.matched ackno then 0 else s.consecutiveRetransmissions := by
    rw [noteWindow_frame]
    simp only [retire]
    have same : matched { s with windowSize := (s.noteWindow ackno windowSize).windowSize } ackno =
      s.matched ackno := rfl
    rw [same]
    split <;> rfl
  simp only [ackReceived]
  split <;> exact retired

end TCPSender

namespace TCPConnection

variable (c : TCPConnection)

def covers (seg : TCPSegment) : Bool :=
  decide (c.sender.nextSeqnoAbsolute ≠ 0) && seg.header.ack && c.sender.matched seg.header.ackno

theorem segmentReceived_count (seg : TCPSegment) :
    (c.segmentReceived seg).sender.consecutiveRetransmissions =
      if c.covers seg then 0 else c.sender.consecutiveRetransmissions := by
  have accepts : (c.accept seg).covers seg = c.covers seg ∧
      (c.accept seg).sender.consecutiveRetransmissions = c.sender.consecutiveRetransmissions := by
    simp only [covers]
    rw [(c.accept_eq seg).2]
    split <;> exact ⟨rfl, rfl⟩
  have noted (d : TCPConnection) : (d.acknowledge seg).sender.consecutiveRetransmissions =
      if d.covers seg then 0 else d.sender.consecutiveRetransmissions := by
    by_cases acked : d.sender.nextSeqnoAbsolute ≠ 0 ∧ seg.header.ack = true
    · have counted := (d.sender.ackReceived seg.header.ackno seg.header.win).fillWindow_count
      have covered : d.covers seg = d.sender.matched seg.header.ackno := by simp [covers, acked]
      rw [TCPSender.ackReceived_count] at counted
      rw [acknowledge, if_pos acked, covered]
      exact counted
    · have uncovered : d.covers seg = false := by
        simp only [covers, Bool.and_eq_false_iff, decide_eq_false_iff_not]
        by_cases sent : d.sender.nextSeqnoAbsolute ≠ 0
        · exact Or.inl (Or.inr (by simpa [sent] using acked))
        · exact Or.inl (Or.inl sent)
      rw [acknowledge, if_neg acked, uncovered]
      rfl
  have taken := noted (c.accept seg)
  rw [accepts.1, accepts.2] at taken
  rw [← taken]
  simp only [segmentReceived]
  split_ifs
  · exact TCPSender.fillWindow_count _
  · rw [closeIfDone_eq]
    simp only [answer]
    split <;> rfl
  · rw [closeIfDone_eq]

theorem tick_sender_count (ms : Nat) :
    (c.tick ms).sender.consecutiveRetransmissions = (c.sender.tick ms).consecutiveRetransmissions := by
  rw [← passTime_sender]
  simp only [tick]
  split <;> rfl

structure Survives (ms : Nat) : Prop where
  silent : ∀ seg ∈ c.appended (.tick ms), seg.header.rst = false
  outbound : (c.tick ms).sender.stream.hasError = c.sender.stream.hasError
  inbound : (c.tick ms).inboundStream.hasError = c.inboundStream.hasError
  active : c.isActive = true → (c.tick ms).isActive = true ∨ (c.tick ms).isSatisfiedPrereq = true

variable {c}

theorem survives_iff (unmarked : c.sender.Unmarked) (ms : Nat) :
    c.Survives ms ↔ (c.sender.tick ms).consecutiveRetransmissions ≤ TCPConfig.maxRetxAttempts := by
  constructor
  · intro survives
    by_contra many
    have resets : c.appended (.tick ms) = [rstSegment] := by
      have queue : (c.passTime ms).segmentsOut = c.segmentsOut := by rw [passTime_frame]
      simp [appended, step, tick, passTime_sender, Nat.lt_of_not_le many, giveUp, queue]
    have plain := survives.silent rstSegment (by simp [resets])
    simp [rstSegment] at plain
  · intro few
    have moved := tick_moves (c := c) (Nat.not_lt_of_le few)
    refine ⟨fun seg member => ?_, ?_, ?_, fun active => ?_⟩
    · have ticked : (c.passTime ms).sender.Unmarked := by
        rw [passTime_sender]
        exact unmarked.tick ms
      have grows : Grows (Stamped (c.passTime ms).receiver) c (c.step (.tick ms)) := by
        rw [step, moved]
        exact (Grows.of_eq (by rw [passTime_frame])).trans (grows_move ticked)
      exact (grows.appended seg member).plain
    · rw [moved, passTime_frame, TCPSender.tick_frame]
      rfl
    · rw [moved, passTime_frame]
      rfl
    · by_contra stopped
      simp only [not_or, Bool.not_eq_true] at stopped
      have reason : Stops c (.tick ms) := stops active stopped.1
      cases reason with
      | gaveUp attempts => exact absurd attempts (Nat.not_lt_of_le few)
      | lingered _ done => exact Bool.noConfusion (stopped.2.symm.trans done)

end TCPConnection

/-- A connection with two things its run has shown: the retransmissions since a segment in flight was last
acknowledged, and whether the latest of them is still to be answered. -/
structure Probing where
  conn : TCPConnection
  attempts : Nat
  awaiting : Bool
  deriving DecidableEq

namespace Probing

open TCPConnection (sampleSyn)

def new (cfg : TCPConfig) (randomIsn : WrappingInt32) : Probing where
  conn := .new cfg randomIsn
  attempts := 0
  awaiting := false

def ZeroWindow (c : TCPConnection) (seg : TCPSegment) : Prop :=
  seg.header.rst = false ∧ seg.header.ack = true ∧ seg.header.win = 0 ∧
    c.sender.nextAckno ≤ unwrap seg.header.ackno c.sender.isn c.sender.nextAckno ∧
    unwrap seg.header.ackno c.sender.isn c.sender.nextAckno ≤ c.sender.nextSeqno

instance (c : TCPConnection) (seg : TCPSegment) : Decidable (ZeroWindow c seg) := inferInstanceAs (Decidable (_ ∧ _))

def step (p : Probing) (event : Event) : Probing where
  conn := p.conn.step event
  attempts := match event with
    | .tick ms => if p.conn.sender.retransmits ms then p.attempts + 1 else p.attempts
    | .deliver seg => if p.conn.covers seg then 0 else p.attempts
    | .connect | .write _ | .endInputStream | .read _ | .popOutput _ | .transmit => p.attempts
  awaiting := match event with
    | .tick ms => p.awaiting || p.conn.sender.retransmits ms
    | .deliver seg => p.awaiting && !decide (ZeroWindow p.conn seg)
    | .connect | .write _ | .endInputStream | .read _ | .popOutput _ | .transmit => p.awaiting

def run (cfg : TCPConfig) (randomIsn : WrappingInt32) (events : List Event) : Probing :=
  events.foldl step (new cfg randomIsn)

theorem run_conn (cfg : TCPConfig) (randomIsn : WrappingInt32) (events : List Event) :
    (run cfg randomIsn events).conn = TCPConnection.run cfg randomIsn events := by
  induction events using List.reverseRecOn with
  | nil => rfl
  | append_singleton events event ih =>
      rw [run, List.foldl_append, TCPConnection.run_append, ← ih]
      rfl

def AtTicks (condition : Nat → Prop) : Event → Prop
  | .tick ms => condition ms
  | .connect | .write _ | .endInputStream | .read _ | .popOutput _ | .transmit | .deliver _ => True

instance (condition : Nat → Prop) [DecidablePred condition] : (event : Event) → Decidable (AtTicks condition event)
  | .tick ms => inferInstanceAs (Decidable (condition ms))
  | .connect | .write _ | .endInputStream | .read _ | .popOutput _ | .transmit | .deliver _ =>
      inferInstanceAs (Decidable True)

def Answered (p : Probing) : Event → Prop := AtTicks fun _ => p.awaiting = false

instance (p : Probing) (event : Event) : Decidable (p.Answered event) :=
  inferInstanceAs (Decidable (AtTicks (fun _ => p.awaiting = false) event))

def Survives (p : Probing) : Event → Prop := AtTicks p.conn.Survives

def Spared (p : Probing) : Event → Prop :=
  AtTicks fun ms => p.conn.sender.retransmits ms = true → p.attempts < TCPConfig.maxRetxAttempts

instance (p : Probing) (event : Event) : Decidable (p.Spared event) :=
  inferInstanceAs (Decidable (AtTicks
    (fun ms => p.conn.sender.retransmits ms = true → p.attempts < TCPConfig.maxRetxAttempts) event))

structure Counted (p : Probing) : Prop where
  count : p.conn.sender.consecutiveRetransmissions = p.attempts
  few : p.attempts ≤ TCPConfig.maxRetxAttempts

section Counted

variable {p : Probing}

theorem Counted.tick_iff (counted : p.Counted) (ms : Nat) :
    (p.conn.sender.tick ms).consecutiveRetransmissions ≤ TCPConfig.maxRetxAttempts ↔ p.Spared (.tick ms) := by
  have few := counted.few
  simp only [TCPConfig.maxRetxAttempts] at few
  rw [TCPSender.tick_count, counted.count, Spared, AtTicks]
  cases p.conn.sender.retransmits ms with
  | true =>
      simp only [if_true, true_imp_iff, TCPConfig.maxRetxAttempts]
      omega
  | false => simpa using counted.few

-- A count that stays within the limit is never cut to its 16 bits.
theorem Counted.step (counted : p.Counted) {event : Event} (spared : p.Spared event) : (p.step event).Counted := by
  cases event with
  | connect => exact ⟨(TCPSender.fillWindow_count _).trans counted.count, counted.few⟩
  | write data => exact ⟨(TCPSender.fillWindow_count _).trans counted.count, counted.few⟩
  | endInputStream => exact ⟨(TCPSender.fillWindow_count _).trans counted.count, counted.few⟩
  | read len | popOutput len | transmit => exact ⟨counted.count, counted.few⟩
  | tick ms =>
      have few := (counted.tick_iff ms).mpr spared
      have count := (p.conn.tick_sender_count ms).trans (p.conn.sender.tick_count ms)
      rw [counted.count] at count
      rw [TCPSender.tick_count, counted.count] at few
      have bound := counted.few
      simp only [TCPConfig.maxRetxAttempts] at bound
      have same : (p.attempts + 1) % 2 ^ 16 = p.attempts + 1 := by omega
      rw [same] at few count
      exact ⟨count, few⟩
  | deliver seg =>
      have count := p.conn.segmentReceived_count seg
      rw [counted.count] at count
      refine ⟨count, ?_⟩
      simp only [Probing.step]
      split
      · exact Nat.zero_le _
      · exact counted.few

end Counted

theorem run_counted (cfg : TCPConfig) (randomIsn : WrappingInt32) (events : List Event)
    (clean : (run cfg randomIsn events).conn.sender.stream.hasError = false) : (run cfg randomIsn events).Counted := by
  induction events using List.reverseRecOn with
  | nil => exact ⟨rfl, Nat.zero_le _⟩
  | append_singleton events event ih =>
      rw [run, List.foldl_append] at clean ⊢
      have before : (run cfg randomIsn events).conn.sender.stream.hasError = false := by
        by_contra error
        have later := TCPConnection.error_kept.step (TCPConnection.permitted _ event) (by simpa using error)
        exact Bool.noConfusion (clean.symm.trans later)
      have counted := ih before
      refine counted.step ?_
      cases event with
      | connect | write data | endInputStream | read len | popOutput len | transmit | deliver seg => trivial
      | tick ms =>
          refine (counted.tick_iff ms).mp (Nat.le_of_not_lt fun many => ?_)
          exact Bool.noConfusion (clean.symm.trans (TCPConnection.aborted_of_gaveUp many).outbound)

def zeroWindowAck : TCPSegment := { header := { seqno := ⟨8⟩, ack := true, ackno := ⟨6⟩ } }

def probes : Nat → List Event
  | 0 => []
  | n + 1 => .tick 1000 :: .deliver zeroWindowAck :: probes n

end Probing

end Sponge
