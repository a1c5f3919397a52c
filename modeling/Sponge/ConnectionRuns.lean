import Sponge.SenderTiling
import Sponge.Shared.Runs
import Sponge.TCPConnection

set_option autoImplicit false

namespace Sponge

open Shared

inductive Event
  | connect
  | write (data : Bytes)
  | endInputStream
  | read (len : Nat)
  | popOutput (len : Nat)
  | tick (msSinceLastTick : Nat)
  | transmit
  | deliver (seg : TCPSegment)
  deriving DecidableEq

namespace TCPConnection

def step (c : TCPConnection) : Event → TCPConnection
  | .connect => c.connect
  | .write data => (c.write data).2
  | .endInputStream => c.endInputStream
  | .read len => (c.readInbound len).2
  | .popOutput len => c.popInbound len
  | .tick ms => c.tick ms
  | .transmit => { c with segmentsOut := c.segmentsOut.tail }
  | .deliver seg => c.segmentReceived seg

def run (cfg : TCPConfig) (randomIsn : WrappingInt32) (events : List Event) : TCPConnection :=
  events.foldl step (new cfg randomIsn)

theorem run_append (cfg : TCPConfig) (randomIsn : WrappingInt32) (before later : List Event) :
    run cfg randomIsn (before ++ later) = later.foldl step (run cfg randomIsn before) :=
  List.foldl_append

theorem step_read (c : TCPConnection) (len : Nat) : c.step (.read len) = c.step (.popOutput len) := by
  simp only [step, readInbound, popInbound, ByteStream.read_snd]
  rfl

def appended (c : TCPConnection) (event : Event) : List TCPSegment :=
  (c.step event).segmentsOut.drop c.segmentsOut.length

def Permits (writable : TCPSender → Prop) (c : TCPConnection) : Event → Prop
  | .write _ => writable c.sender
  | _ => True

instance (writable : TCPSender → Prop) [DecidablePred writable] (c : TCPConnection) :
    (event : Event) → Decidable (c.Permits writable event)
  | .write _ => inferInstanceAs (Decidable (writable _))
  | .connect | .endInputStream | .read _ | .popOutput _ | .tick _ | .transmit | .deliver _ =>
      inferInstanceAs (Decidable True)

abbrev Legal : TCPConnection → Event → Prop := Permits fun s => s.stream.inputEnded = false

theorem passTime_frame (c : TCPConnection) (ms : Nat) : c.passTime ms =
    { c with
      sender := c.sender.tick ms
      isActive := (c.passTime ms).isActive
      timeSinceLastSegmentReceived := add64 c.timeSinceLastSegmentReceived ms } := by
  simp only [passTime]
  split <;> rfl

theorem passTime_sender (c : TCPConnection) (ms : Nat) : (c.passTime ms).sender = c.sender.tick ms := by
  rw [passTime_frame]

structure Keeps (writable inv : TCPSender → Prop) : Prop where
  fillWindow {s : TCPSender} (before : inv s) : inv s.fillWindow
  write {s : TCPSender} (before : inv s) (open_ : writable s) (data : Bytes) :
    inv { s with stream := s.stream.append data }.fillWindow
  endInput {s : TCPSender} (before : inv s) : inv { s with stream := s.stream.endInput }.fillWindow
  ack {s : TCPSender} (before : inv s) (sent : s.nextSeqno ≠ 0) (ackno : WrappingInt32) (windowSize : UInt16) :
    inv (s.ackReceived ackno windowSize).fillWindow
  tick {s : TCPSender} (before : inv s) (ms : Nat) : inv (s.tick ms)
  empty {s : TCPSender} (before : inv s) : inv s.sendEmptySegment
  drain {s : TCPSender} (before : inv s) : inv { s with segmentsOut := [] }
  setError {s : TCPSender} (before : inv s) : inv s.setError

section Keeps

variable {writable inv : TCPSender → Prop} {c : TCPConnection}

theorem Keeps.acknowledge (keeps : Keeps writable inv) (before : inv c.sender) (seg : TCPSegment) :
    inv (c.acknowledge seg).sender := by
  simp only [TCPConnection.acknowledge]
  split
  next acked => exact keeps.drain (keeps.ack before acked.1 _ _)
  next => exact before

theorem Keeps.accepted (keeps : Keeps writable inv) {seg : TCPSegment} (before : inv (c.accept seg).sender) :
    inv (c.segmentReceived seg).sender := by
  have acked := keeps.acknowledge before seg
  have closes (c : TCPConnection) : c.closeIfDone.sender = c.sender := by
    simp only [closeIfDone]
    split_ifs <;> rfl
  simp only [TCPConnection.segmentReceived]
  split_ifs
  · exact keeps.drain (keeps.fillWindow acked)
  · rw [closes]
    simp only [answer]
    split
    next => exact keeps.drain (keeps.empty acked)
    next => exact keeps.drain acked
  · rw [closes]
    exact acked

theorem Keeps.segmentReceived (keeps : Keeps writable inv) (before : inv c.sender) (seg : TCPSegment) :
    inv (c.segmentReceived seg).sender := by
  apply keeps.accepted
  simp only [accept]
  split
  next => exact keeps.setError before
  next => exact before

theorem Keeps.step (keeps : Keeps writable inv) {event : Event} (permitted : c.Permits writable event)
    (before : inv c.sender) : inv (c.step event).sender := by
  cases event with
  | connect => exact keeps.drain (keeps.fillWindow before)
  | write data => exact keeps.drain (keeps.write before permitted data)
  | endInputStream => exact keeps.drain (keeps.endInput before)
  | read len | popOutput len | transmit => exact before
  | tick ms =>
      have ticked : inv (c.passTime ms).sender := by
        rw [passTime_sender]
        exact keeps.tick before ms
      simp only [TCPConnection.step, TCPConnection.tick]
      split
      next => exact keeps.setError ticked
      next => exact keeps.drain ticked
  | deliver seg => exact keeps.segmentReceived before seg

theorem Keeps.foldl (keeps : Keeps writable inv) {events : List Event}
    (permitted : AllAllowed TCPConnection.step (Permits writable) c events) (before : inv c.sender) :
    inv (events.foldl TCPConnection.step c).sender := by
  induction events generalizing c with
  | nil => exact before
  | cons event events ih => exact ih permitted.2 (keeps.step permitted.1 before)

theorem permitted (c : TCPConnection) (event : Event) : c.Permits (fun _ => True) event := by
  cases event <;> trivial

theorem allPermitted (c : TCPConnection) (events : List Event) :
    AllAllowed step (Permits fun _ => True) c events := by
  rw [allAllowed_iff]
  exact fun front event back _ => permitted _ event

end Keeps

theorem error_kept : Keeps (fun _ => True) fun s => s.stream.hasError = true where
  fillWindow before := TCPSender.fillWindow_hasError _ before
  write before _ _ := TCPSender.fillWindow_hasError _ before
  endInput before := TCPSender.fillWindow_hasError _ before
  ack before _ _ _ := TCPSender.fillWindow_hasError _ (by rw [(TCPSender.ackReceived_frame ..).2.1]; exact before)
  tick before _ := by rw [TCPSender.tick_frame]; exact before
  empty before := before
  drain before := before
  setError _ := rfl

theorem syn_kept : Keeps (fun _ => True) fun s => s.nextSeqno ≠ 0 where
  fillWindow before := TCPSender.fillWindow_sent _ before
  write before _ _ := TCPSender.fillWindow_sent _ before
  endInput before := TCPSender.fillWindow_sent _ before
  ack before _ _ _ := TCPSender.fillWindow_sent _ (by rw [(TCPSender.ackReceived_frame ..).2.2.2]; exact before)
  tick before _ := by rw [TCPSender.tick_frame]; exact before
  empty before := before
  drain before := before
  setError before := before

structure Later (c c' : TCPConnection) : Prop where
  cfg : c'.cfg = c.cfg
  isActive : c.isActive = false → c'.isActive = false
  linger : c.lingerAfterStreamsFinish = false → c'.lingerAfterStreamsFinish = false
  inboundError : c.inboundStream.hasError = true → c'.inboundStream.hasError = true
  inputEnded : c.inboundStream.inputEnded = true → c'.inboundStream.inputEnded = true
  haveSYN : c.receiver.haveSYN = true → c'.receiver.haveSYN = true

section Later

variable {c c' c'' : TCPConnection}

theorem Later.refl (c : TCPConnection) : Later c c := ⟨rfl, id, id, id, id, id⟩

theorem Later.trans (first : Later c c') (second : Later c' c'') : Later c c'' where
  cfg := second.cfg.trans first.cfg
  isActive := second.isActive ∘ first.isActive
  linger := second.linger ∘ first.linger
  inboundError := second.inboundError ∘ first.inboundError
  inputEnded := second.inputEnded ∘ first.inputEnded
  haveSYN := second.haveSYN ∘ first.haveSYN

theorem Later.active (later : Later c c') (active : c'.isActive = true) : c.isActive = true := by
  by_contra inactive
  exact Bool.noConfusion ((later.isActive (by simpa using inactive)).symm.trans active)

theorem later_moveToSegmentsOut (c : TCPConnection) (s : TCPSender) :
    Later c { c with sender := s }.moveToSegmentsOut := ⟨rfl, id, id, id, id, id⟩

theorem later_moved (c : TCPConnection) : Later c c.moveToSegmentsOut := later_moveToSegmentsOut c c.sender

theorem later_giveUp (c : TCPConnection) : Later c c.giveUp :=
  ⟨rfl, fun _ => rfl, fun _ => rfl, fun _ => rfl, id, id⟩

theorem later_acknowledge (c : TCPConnection) (seg : TCPSegment) : Later c (c.acknowledge seg) := by
  simp only [acknowledge]
  split
  next => exact later_moveToSegmentsOut c _
  next => exact .refl c

theorem later_closeIfDone (c : TCPConnection) : Later c c.closeIfDone := by
  simp only [closeIfDone]
  split_ifs
  all_goals exact ⟨rfl, by simp, by simp, id, id, id⟩

theorem later_accept (c : TCPConnection) (seg : TCPSegment) : Later c (c.accept seg) := by
  have fed := c.receiver.segmentReceived_fed seg
  have opened := c.receiver.segmentReceived_haveSYN seg
  simp only [accept]
  split
  next => exact ⟨rfl, fun _ => rfl, id, fun _ => rfl, fed.isEnded, opened⟩
  next => exact ⟨rfl, id, id, fed.hasError.trans, fed.isEnded, opened⟩

theorem later_accepted (c : TCPConnection) (seg : TCPSegment) : Later (c.accept seg) (c.segmentReceived seg) := by
  have acked := later_acknowledge (c.accept seg) seg
  simp only [segmentReceived]
  split_ifs
  · exact acked.trans (later_moveToSegmentsOut _ _)
  · refine (acked.trans ?_).trans (later_closeIfDone _)
    simp only [answer]
    split_ifs
    · exact later_moveToSegmentsOut _ _
    · exact later_moved _
  · exact acked.trans (later_closeIfDone _)

theorem later_tick (c : TCPConnection) (ms : Nat) : Later c (c.tick ms) := by
  have passed : Later c (c.passTime ms) := by
    simp only [passTime]
    split
    all_goals exact ⟨rfl, by simp, id, id, id, id⟩
  refine passed.trans ?_
  simp only [tick]
  split
  next => exact later_giveUp _
  next => exact later_moved _

theorem later_popInbound (c : TCPConnection) (len : Nat) : Later c (c.popInbound len) where
  cfg := rfl
  isActive := id
  linger := id
  inboundError := c.receiver.reassembler.output.popOutput_hasError len
  inputEnded := (c.receiver.reassembler.output.popOutput_isEnded len).trans
  haveSYN := id

theorem later_step (c : TCPConnection) (event : Event) : Later c (c.step event) := by
  cases event with
  | connect => exact later_moveToSegmentsOut c _
  | write data => exact later_moveToSegmentsOut c _
  | endInputStream => exact later_moveToSegmentsOut c _
  | read len => rw [step_read]; exact later_popInbound c len
  | popOutput len => exact later_popInbound c len
  | tick ms => exact later_tick c ms
  | transmit => exact ⟨rfl, id, id, id, id, id⟩
  | deliver seg => exact (later_accept c seg).trans (later_accepted c seg)

theorem later_foldl (c : TCPConnection) (events : List Event) : Later c (events.foldl step c) := by
  induction events generalizing c with
  | nil => exact .refl c
  | cons event events ih => exact (later_step c event).trans (ih _)

end Later

section Aborted

variable (c : TCPConnection) (seg : TCPSegment)

structure Aborted : Prop where
  inactive : c.isActive = false
  outbound : c.sender.stream.hasError = true
  inbound : c.inboundStream.hasError = true

instance : Decidable c.Aborted :=
  decidable_of_iff (c.isActive = false ∧ c.sender.stream.hasError = true ∧ c.inboundStream.hasError = true)
    ⟨fun all => ⟨all.1, all.2.1, all.2.2⟩, fun aborted => ⟨aborted.1, aborted.2, aborted.3⟩⟩

variable {c seg}

theorem aborted_of_reset (reset : seg.header.rst = true) : (c.segmentReceived seg).Aborted := by
  have later := later_accepted c seg
  have error : (c.accept seg).sender.stream.hasError = true := by simp [accept, reset, setErrors, TCPSender.setError,
    ByteStream.setError]
  exact
    { inactive := later.isActive (by simp [accept, reset, setErrors])
      outbound := error_kept.accepted error
      inbound := later.inboundError (by simp [accept, reset, setErrors]; rfl) }

end Aborted

def sampleSyn : TCPSegment := { header := { syn := true, seqno := ⟨7⟩ } }

end TCPConnection

end Sponge
