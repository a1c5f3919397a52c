import Sponge.ConnectionRuns
import Sponge.TCPState

set_option autoImplicit false

namespace Sponge.TCPConnection

open Shared

def Stray (_ : TCPConnection) : Event → Prop
  | .tick _ => True
  | .deliver seg => seg.header.syn = false ∧ seg.header.rst = false
  | _ => False

instance (c : TCPConnection) : (event : Event) → Decidable (c.Stray event)
  | .tick _ => inferInstanceAs (Decidable True)
  | .deliver _ => inferInstanceAs (Decidable (_ ∧ _))
  | .connect | .write _ | .endInputStream | .read _ | .popOutput _ | .transmit => inferInstanceAs (Decidable False)

def listening (cfg : TCPConfig) (randomIsn : WrappingInt32) (ms : Nat) : TCPConnection :=
  { new cfg randomIsn with timeSinceLastSegmentReceived := ms }

section Listening

variable (cfg : TCPConfig) (randomIsn : WrappingInt32) (ms : Nat)

theorem listening_state : (listening cfg randomIsn ms).state = .ofState .listen := rfl

theorem tick_listening (passed : Nat) :
    (listening cfg randomIsn ms).tick passed = listening cfg randomIsn (add64 ms passed) := by
  have sender : (TCPSender.new cfg.sendCapacity cfg.rtTimeout cfg.fixedIsn randomIsn).tick passed =
      .new cfg.sendCapacity cfg.rtTimeout cfg.fixedIsn randomIsn := by
    simp [TCPSender.tick, TCPSender.startTimer, TCPSender.new, TCPSender.bytesInFlight]
  have time : (listening cfg randomIsn ms).passTime passed = listening cfg randomIsn (add64 ms passed) := by
    simp only [passTime]
    rw [if_neg fun done => Bool.noConfusion done.2]
    simp only [listening, new, sender]
  simp only [tick, time]
  rw [if_neg (by exact Nat.not_lt_zero _)]
  rfl

theorem acknowledge_listening {seg : TCPSegment} (plain : seg.header.syn = false) (kept : seg.header.rst = false) :
    ((listening cfg randomIsn ms).accept seg).acknowledge seg = listening cfg randomIsn 0 := by
  have ignored : (TCPReceiver.new cfg.recvCapacity).segmentReceived seg = .new cfg.recvCapacity :=
    TCPReceiver.segmentReceived_ignored plain
  have accepted : (listening cfg randomIsn ms).accept seg = listening cfg randomIsn 0 := by
    simp only [accept, kept, listening, new, ignored]
    rfl
  rw [accepted, acknowledge, if_neg fun sent => sent.1 rfl]

theorem listening_stray_empty {seg : TCPSegment} (plain : seg.header.syn = false) (kept : seg.header.rst = false)
    (empty : seg.lengthInSequenceSpace = 0) :
    (listening cfg randomIsn ms).segmentReceived seg = listening cfg randomIsn 0 := by
  simp only [segmentReceived, acknowledge_listening cfg randomIsn ms plain kept, empty]
  rfl

-- A segment that takes up a number opens the connection, with or without a SYN.
theorem listening_stray_occupying {seg : TCPSegment} (plain : seg.header.syn = false) (kept : seg.header.rst = false)
    (occupies : 0 < seg.lengthInSequenceSpace) :
    (listening cfg randomIsn ms).segmentReceived seg = (listening cfg randomIsn 0).connect := by
  simp only [segmentReceived, acknowledge_listening cfg randomIsn ms plain kept]
  rw [if_pos occupies, if_pos (by exact rfl)]

theorem connect_listening :
    ((listening cfg randomIsn ms).connect).segmentsOut =
      [(TCPSender.new cfg.sendCapacity cfg.rtTimeout cfg.fixedIsn randomIsn).synSegment] := rfl

theorem listening_time_forgotten (later : Nat) (seg : TCPSegment) :
    (listening cfg randomIsn ms).segmentReceived seg = (listening cfg randomIsn later).segmentReceived seg := rfl

end Listening

-- The state before the SYN: by induction on the run, in which a segment that takes up a number would have left it.
theorem listening_of_strays {cfg : TCPConfig} {randomIsn : WrappingInt32} {c : TCPConnection}
    (run : Reaches step Stray (new cfg randomIsn) c) (unsent : c.sender.nextSeqno = 0) :
    ∃ ms, c = listening cfg randomIsn ms := by
  have along : c.sender.nextSeqno = 0 → ∃ ms, c = listening cfg randomIsn ms := by
    apply run.invariant fun c => c.sender.nextSeqno = 0 → ∃ ms, c = listening cfg randomIsn ms
    · exact fun _ => ⟨0, rfl⟩
    · intro c event before stray unsent
      have earlier : c.sender.nextSeqno = 0 := by
        by_contra sent
        exact syn_kept.step (permitted c event) sent unsent
      obtain ⟨ms, rfl⟩ := before earlier
      cases event with
      | tick passed => exact ⟨_, tick_listening cfg randomIsn ms passed⟩
      | deliver seg =>
          obtain ⟨plain, kept⟩ := stray
          rcases Nat.eq_zero_or_pos seg.lengthInSequenceSpace with empty | occupies
          · exact ⟨0, listening_stray_empty cfg randomIsn ms plain kept empty⟩
          · rw [step, listening_stray_occupying cfg randomIsn ms plain kept occupies] at unsent
            exact absurd unsent (TCPSender.fillWindow_opens _).ne'
      | connect | write _ | endInputStream | read _ | popOutput _ | transmit => exact stray.elim
  exact along unsent

def Quiet : Event → Prop
  | .tick _ => True
  | .deliver seg => seg.header.syn = false ∧ seg.header.rst = false ∧ seg.lengthInSequenceSpace = 0
  | _ => False

theorem quiet_foldl (cfg : TCPConfig) (randomIsn : WrappingInt32) (ms : Nat) (events : List Event)
    (quiet : ∀ event ∈ events, Quiet event) :
    ∃ later, events.foldl step (listening cfg randomIsn ms) = listening cfg randomIsn later := by
  induction events generalizing ms with
  | nil => exact ⟨ms, rfl⟩
  | cons event events ih =>
      have rest (ms : Nat) := ih ms fun later member => quiet later (by simp [member])
      have first := quiet event (by simp)
      rw [List.foldl_cons]
      cases event with
      | tick passed =>
          rw [step, tick_listening]
          exact rest _
      | deliver seg =>
          rw [step, listening_stray_empty cfg randomIsn ms first.1 first.2.1 first.2.2]
          exact rest _
      | connect | write _ | endInputStream | read _ | popOutput _ | transmit => exact first.elim

structure Ignored (c : TCPConnection) (seg : TCPSegment) : Prop where
  silent : c.appended (.deliver seg) = []
  listens : (c.step (.deliver seg)).state = .ofState .listen
  later : ∀ (events : List Event) (syn : TCPSegment), (∀ event ∈ events, Quiet event) →
    syn.header.syn = true →
      (events.foldl step (c.step (.deliver seg))).step (.deliver syn) = (events.foldl step c).step (.deliver syn)

theorem listen_ignores_iff (cfg : TCPConfig) (randomIsn : WrappingInt32) (c : TCPConnection)
    (run : Reaches step Stray (new cfg randomIsn) c) (unsent : c.sender.nextSeqnoAbsolute = 0) (seg : TCPSegment)
    (plain : seg.header.syn = false) (kept : seg.header.rst = false) :
    c.Ignored seg ↔ seg.payload = [] ∧ seg.header.fin = false := by
  obtain ⟨ms, rfl⟩ := listening_of_strays run unsent
  have length : seg.lengthInSequenceSpace = 0 ↔ seg.payload = [] ∧ seg.header.fin = false := by
    simp [TCPSegment.lengthInSequenceSpace, plain]
  rw [← length]
  constructor
  · intro ignored
    by_contra occupies
    have silent := ignored.silent
    rw [appended, step, listening_stray_occupying cfg randomIsn ms plain kept (Nat.pos_of_ne_zero occupies),
      connect_listening] at silent
    cases silent
  · intro empty
    have forgotten : (listening cfg randomIsn ms).step (.deliver seg) = listening cfg randomIsn 0 :=
      listening_stray_empty cfg randomIsn ms plain kept empty
    constructor
    · rw [appended, forgotten]
      rfl
    · rw [forgotten]
      exact listening_state ..
    · intro events syn quiet _
      obtain ⟨after, kept⟩ := quiet_foldl cfg randomIsn 0 events quiet
      obtain ⟨after', without⟩ := quiet_foldl cfg randomIsn ms events quiet
      rw [forgotten, kept, without]
      exact listening_time_forgotten ..

theorem listen_ignores_iff_sample :
    ([Event.tick 5].foldl step (new {} ⟨5⟩)).Ignored { header := { ack := true, ackno := ⟨6⟩, win := 10 } } :=
  (listen_ignores_iff {} ⟨5⟩ _ (Reaches.start.foldl (by decide)) (by decide) _ rfl rfl).mpr ⟨rfl, rfl⟩

-- A byte without a SYN is answered by one, and the connection has left LISTEN.
theorem stray_byte_opens :
    (new {} ⟨5⟩).appended (.deliver { payload := [1] }) = [{ header := { seqno := ⟨5⟩, syn := true, ackno := ⟨6⟩ } }] ∧
      ((new {} ⟨5⟩).step (.deliver { payload := [1] })).state = .ofState .synSent ∧
      ¬ (new {} ⟨5⟩).Ignored { payload := [1] } :=
  ⟨by decide, by decide, fun ignored => absurd ignored.silent (by decide)⟩

end Sponge.TCPConnection
