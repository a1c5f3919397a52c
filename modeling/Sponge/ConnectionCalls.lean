import Sponge.ConnectionQueue
import Sponge.ConnectionSteps
import Sponge.ReceiverIsn

set_option autoImplicit false

namespace Sponge

open Shared

namespace TCPReceiver

-- The positions of the stream have not run out: the window behind all that was assembled ends inside 64 bits.
def Addressable (r : TCPReceiver) : Prop :=
  0 < r.reassembler.capacity ∧ r.streamOut.bytesWritten + r.reassembler.capacity < 2 ^ 64

instance (r : TCPReceiver) : Decidable r.Addressable := inferInstanceAs (Decidable (_ ∧ _))

def Ordered (r : TCPReceiver) : Prop := r.Addressable → ∃ a, StreamReassembler.Relates 1 r.reassembler a

theorem ordered_new (capacity : Nat) : (new capacity).Ordered := fun _ => ⟨_, StreamReassembler.relates_new capacity⟩

section Ordered

variable {r : TCPReceiver}

theorem segmentReceived_capacity (r : TCPReceiver) (seg : TCPSegment) :
    (r.segmentReceived seg).reassembler.capacity = r.reassembler.capacity := by
  by_cases same : seg.header.syn = r.haveSYN
  · rw [segmentReceived_ignored same]
  · have pushed : (r.pushed seg).capacity = r.reassembler.capacity := StreamReassembler.pushSubstring_capacity ..
    rw [segmentReceived_accepted same]
    dsimp only
    split <;> exact pushed

theorem segmentReceivedExcept_capacity (r : TCPReceiver) (seg : TCPSegment) :
    (r.segmentReceivedExcept seg).1.reassembler.capacity = r.reassembler.capacity := by
  rcases r.segmentReceivedExcept_cases seg with ⟨r', thrown, -, capacity, -⟩ | returned
  · rw [thrown, capacity]
  · rw [returned, segmentReceived_capacity]

theorem Addressable.before {seg : TCPSegment} (after : (r.segmentReceivedExcept seg).1.Addressable) :
    r.Addressable := by
  have capacity := r.segmentReceivedExcept_capacity seg
  have written : r.streamOut.bytesWritten ≤ (r.segmentReceivedExcept seg).1.streamOut.bytesWritten := by
    rcases r.segmentReceivedExcept_cases seg with ⟨r', thrown, stream, -⟩ | returned
    · rw [thrown, stream]
    · rw [returned]
      exact (r.segmentReceived_fed seg).writtenLength_le
  unfold Addressable at after ⊢
  omega

theorem addressable_popOutput_iff (r : TCPReceiver) (len : Nat) : (r.popOutput len).Addressable ↔ r.Addressable := by
  have written : (r.popOutput len).streamOut.bytesWritten = r.streamOut.bytesWritten :=
    ByteStream.popOutput_writtenLength ..
  unfold Addressable
  rw [written]
  rfl

theorem acceptExcept_returns {a : ByteReassembler} (rel : StreamReassembler.Relates 1 r.reassembler a)
    (seg : TCPSegment) (seqno : WrappingInt32) : r.acceptExcept seg seqno = (r.accept seg seqno, .ok ()) := by
  unfold acceptExcept accept
  dsimp only
  rw [rel.push_returns]

theorem segmentReceivedExcept_returns {a : ByteReassembler} (rel : StreamReassembler.Relates 1 r.reassembler a)
    (seg : TCPSegment) : r.segmentReceivedExcept seg = (r.segmentReceived seg, .ok ()) := by
  unfold segmentReceivedExcept segmentReceived
  split_ifs
  · rfl
  · exact acceptExcept_returns rel seg _
  · exact acceptExcept_returns (r := { r with haveSYN := true, icn := seg.header.seqno }) rel seg _
  · rfl

theorem Ordered.returns (ordered : r.Ordered) (addressable : r.Addressable) (seg : TCPSegment) :
    r.segmentReceivedExcept seg = (r.segmentReceived seg, .ok ()) := by
  obtain ⟨a, rel⟩ := ordered addressable
  exact segmentReceivedExcept_returns rel seg

theorem Ordered.segmentReceivedExcept (ordered : r.Ordered) (seg : TCPSegment) :
    (r.segmentReceivedExcept seg).1.Ordered := by
  intro after
  have before := after.before
  obtain ⟨a, rel⟩ := ordered before
  rw [ordered.returns before]
  exact segmentReceived_related rel before.1 before.2 seg

theorem Ordered.popOutput (ordered : r.Ordered) (len : Nat) : (r.popOutput len).Ordered := by
  intro after
  obtain ⟨a, rel⟩ := ordered ((r.addressable_popOutput_iff len).mp after)
  exact ⟨_, rel.pop len⟩

theorem Ordered.setError (ordered : r.Ordered) : r.setError.Ordered := by
  intro after
  obtain ⟨a, rel⟩ := ordered after
  exact ⟨a, { rel with }⟩

end Ordered

end TCPReceiver

namespace TCPConnection

def call (c : TCPConnection) : Event → TCPConnection × Except Exception Unit
  | .deliver seg => c.segmentReceivedExcept seg
  | event => (c.step event, .ok ())

def next (c : TCPConnection) (event : Event) : TCPConnection := (c.call event).1

def calls (cfg : TCPConfig) (randomIsn : WrappingInt32) (events : List Event) : TCPConnection :=
  events.foldl next (new cfg randomIsn)

def enqueued (c : TCPConnection) (event : Event) : List TCPSegment :=
  (c.call event).1.segmentsOut.drop c.segmentsOut.length

def Throws (c : TCPConnection) (seg : TCPSegment) : Prop := (c.call (.deliver seg)).2.isOk = false

instance (c : TCPConnection) (seg : TCPSegment) : Decidable (c.Throws seg) := inferInstanceAs (Decidable (_ = _))

theorem calls_append (cfg : TCPConfig) (randomIsn : WrappingInt32) (before later : List Event) :
    calls cfg randomIsn (before ++ later) = later.foldl next (calls cfg randomIsn before) :=
  List.foldl_append

structure Noted (c c' : TCPConnection) : Prop where
  frame : c' = { c with timeSinceLastSegmentReceived := 0, receiver := c'.receiver }
  stream : c'.inboundStream = c.inboundStream
  haveSYN : c'.receiver.haveSYN = true

section Calls

variable {c : TCPConnection}

theorem deliver_cases (c : TCPConnection) (seg : TCPSegment) :
    (c.Throws seg ∧ Noted c (c.call (.deliver seg)).1) ∨
      (¬c.Throws seg ∧ c.call (.deliver seg) = (c.segmentReceived seg, .ok ())) := by
  simp only [Throws, call, segmentReceivedExcept]
  rcases c.receiver.segmentReceivedExcept_cases seg with ⟨receiver, thrown, stream, -, opened⟩ | returned
  · rw [thrown]
    exact .inl ⟨rfl, rfl, stream, opened⟩
  · rw [returned]
    exact .inr ⟨Bool.noConfusion, rfl⟩

theorem call_cases (c : TCPConnection) (event : Event) :
    Noted c (c.call event).1 ∨ c.call event = (c.step event, .ok ()) := by
  cases event with
  | deliver seg => exact (c.deliver_cases seg).imp And.right And.right
  | connect | write | endInputStream | read | popOutput | tick | transmit => exact .inr rfl

theorem Noted.later {c' : TCPConnection} (noted : Noted c c') : Later c c' := by
  have stream := noted.stream
  refine ⟨by rw [noted.frame], ?_, ?_, by rw [stream]; exact id, by rw [stream]; exact id, fun _ => noted.haveSYN⟩
  · rw [noted.frame]
    exact id
  · rw [noted.frame]
    exact id

theorem later_call (c : TCPConnection) (event : Event) : Later c (c.call event).1 := by
  rcases c.call_cases event with noted | returned
  · exact noted.later
  · rw [returned]
    exact later_step c event

theorem Keeps.call {inv : TCPSender → Prop} (keeps : Keeps (fun _ => True) inv) (before : inv c.sender)
    (event : Event) : inv (c.call event).1.sender := by
  rcases c.call_cases event with noted | returned
  · rw [noted.frame]
    exact before
  · rw [returned]
    exact keeps.step (permitted c event) before

theorem Keeps.calls {inv : TCPSender → Prop} (keeps : Keeps (fun _ => True) inv) {cfg : TCPConfig}
    {randomIsn : WrappingInt32} (initial : inv (new cfg randomIsn).sender) (events : List Event) :
    inv (calls cfg randomIsn events).sender :=
  List.foldlRecOn (motive := fun c => inv c.sender) events next initial fun _ before event _ => keeps.call before event

theorem calls_unmarked (cfg : TCPConfig) (randomIsn : WrappingInt32) (events : List Event) :
    (calls cfg randomIsn events).sender.Unmarked :=
  unmarked_kept.calls ⟨by simp [new, TCPSender.new], by simp [new, TCPSender.new]⟩ events

theorem calls_counted (cfg : TCPConfig) (randomIsn : WrappingInt32) (events : List Event) :
    (calls cfg randomIsn events).sender.Counted :=
  counted_kept.calls (TCPSender.counted_new ..) events

theorem Aborted.call (aborted : c.Aborted) (event : Event) : (c.call event).1.Aborted where
  inactive := (later_call c event).isActive aborted.inactive
  outbound := error_kept.call aborted.outbound event
  inbound := (later_call c event).inboundError aborted.inbound

theorem Aborted.calls (aborted : c.Aborted) (events : List Event) :
    (events.foldl next c).Aborted :=
  List.foldlRecOn events next aborted fun _ before event _ => before.call event

structure KeepsReceiver (inv : TCPReceiver → Prop) : Prop where
  segment {r : TCPReceiver} (before : inv r) (seg : TCPSegment) : inv (r.segmentReceivedExcept seg).1
  popOutput {r : TCPReceiver} (before : inv r) (len : Nat) : inv (r.popOutput len)
  setError {r : TCPReceiver} (before : inv r) : inv r.setError

theorem KeepsReceiver.call {inv : TCPReceiver → Prop} (keeps : KeepsReceiver inv) (before : inv c.receiver)
    (event : Event) : inv (c.call event).1.receiver := by
  cases event with
  | connect | write data | endInputStream | transmit => exact before
  | read len =>
      change inv (c.step (.read len)).receiver
      rw [step_read]
      exact keeps.popOutput before len
  | popOutput len => exact keeps.popOutput before len
  | tick ms =>
      have passed : inv (c.passTime ms).receiver := by rwa [passTime_frame]
      simp only [TCPConnection.call, step, TCPConnection.tick]
      split
      · exact keeps.setError passed
      · exact passed
  | deliver seg =>
      have taken := keeps.segment before seg
      simp only [TCPConnection.call, TCPConnection.segmentReceivedExcept]
      rcases c.receiver.segmentReceivedExcept_cases seg with ⟨receiver, thrown, -⟩ | returned
      · rw [thrown] at taken ⊢
        exact taken
      · rw [returned] at taken ⊢
        dsimp only
        rw [segmentReceived_receiver]
        rcases c.accept_receiver seg with same | failed
        · rwa [same]
        · rw [failed]
          exact keeps.setError taken

theorem KeepsReceiver.calls {inv : TCPReceiver → Prop} (keeps : KeepsReceiver inv) {cfg : TCPConfig}
    {randomIsn : WrappingInt32} (initial : inv (new cfg randomIsn).receiver) (events : List Event) :
    inv (calls cfg randomIsn events).receiver :=
  List.foldlRecOn (motive := fun c => inv c.receiver) events next initial fun _ before event _ => keeps.call before event

theorem ordered_kept : KeepsReceiver TCPReceiver.Ordered where
  segment before seg := before.segmentReceivedExcept seg
  popOutput before len := before.popOutput len
  setError before := before.setError

theorem capacity_kept (capacity : Nat) : KeepsReceiver fun r => r.reassembler.capacity = capacity where
  segment {r} before seg := (r.segmentReceivedExcept_capacity seg).trans before
  popOutput before _ := before
  setError before := before

theorem not_throws {a : ByteReassembler} (rel : StreamReassembler.Relates 1 c.receiver.reassembler a)
    (seg : TCPSegment) : ¬c.Throws seg := by
  simp only [Throws, call, TCPConnection.segmentReceivedExcept, TCPReceiver.segmentReceivedExcept_returns rel]
  exact Bool.noConfusion

theorem calls_return (cfg : TCPConfig) (randomIsn : WrappingInt32) (events : List Event)
    (positive : 0 < cfg.recvCapacity)
    (room : (calls cfg randomIsn events).inboundStream.bytesWritten + cfg.recvCapacity < 2 ^ 64) (seg : TCPSegment) :
    ¬(calls cfg randomIsn events).Throws seg := by
  have ordered : (calls cfg randomIsn events).receiver.Ordered :=
    ordered_kept.calls (TCPReceiver.ordered_new cfg.recvCapacity) events
  have capacity : (calls cfg randomIsn events).receiver.reassembler.capacity = cfg.recvCapacity :=
    (capacity_kept cfg.recvCapacity).calls rfl events
  obtain ⟨a, rel⟩ := ordered ⟨capacity ▸ positive, capacity ▸ room⟩
  exact not_throws rel seg

-- Without any capacity, a byte before the stream's first is kept, and the next one throws.
example :
    let byteAt (seqno : UInt32) : TCPSegment := { header := { seqno := ⟨seqno⟩ }, payload := [1] }
    (calls { recvCapacity := 0 } ⟨5⟩ [.deliver { header := { seqno := ⟨7⟩, syn := true } },
      .deliver (byteAt 7)]).Throws (byteAt 9) := by
  decide

end Calls

end TCPConnection

end Sponge
