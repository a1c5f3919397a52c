import Sponge.EndpointAcks
import Sponge.Network

set_option autoImplicit false

namespace Sponge

open Shared TCPSender TCPReceiver

namespace Network

/-- The steps that keep acknowledgments honest: no endpoint has sent its FIN before it saw the peer's SYN, and no
delivery lets a receiver end a stream that it does not have. -/
def Careful (n : Network) (action : Side × Event) : Prop :=
  n.Legal action ∧ (∀ side, (n side).FinAfterSyn) ∧
    match action with
    | (side, .deliver seg) => Kept (n side.peer).accepted (n side).conn.receiver seg
    | _ => True

instance (n : Network) : (action : Side × Event) → Decidable (n.Careful action)
  | (_, .deliver _) => inferInstanceAs (Decidable (_ ∧ _ ∧ Kept _ _ _))
  | (_, .connect) | (_, .write _) | (_, .endInputStream) | (_, .read _) | (_, .popOutput _) | (_, .tick _)
  | (_, .transmit) => inferInstanceAs (Decidable (_ ∧ _ ∧ True))

structure Faithful (isn : Side → WrappingInt32) (n : Network) : Prop where
  sends : ∀ side, (n side).Sends (isn side)
  hears : ∀ side, (n side).Hears (isn side.peer) (n side.peer).accepted (n side.peer).conn.sender.stream.isEnded
  truthful : ∀ side, (n side).FinAfterSyn → (n side).Truthful (isn side.peer)
  acked : ∀ side, (n side).conn.sender.nextAckno ≤ (n side.peer).conn.receiver.ackLimit

theorem faithful_new (cfg : Side → TCPConfig) (randomIsn : Side → WrappingInt32) :
    (new cfg randomIsn).Faithful fun side => (cfg side).fixedIsn.getD (randomIsn side) where
  sends side := Endpoint.sends_new (cfg side) (randomIsn side)
  hears side := Endpoint.hears_new _ _ _ (cfg side) (randomIsn side)
  truthful side _ := by simp [Endpoint.Truthful, Endpoint.emitted, new, Endpoint.new, TCPConnection.new]
  acked side := Nat.zero_le _

section Faithful

variable {isn : Side → WrappingInt32} {n : Network} {side : Side} {event : Event}

theorem Faithful.delivery (faithful : n.Faithful isn) (careful : n.Careful (side, event)) (seg : TCPSegment)
    (delivery : event = .deliver seg) :
    Carried (isn side.peer) (n side.peer).accepted seg ∧
      (seg.header.fin = true → (n side.peer).conn.sender.stream.isEnded = true) ∧
      Kept (n side.peer).accepted (n side).conn.receiver seg := by
  subst delivery
  obtain ⟨legal, _, kept⟩ := careful
  have sends := faithful.sends side.peer
  exact ⟨sends.carried legal, fun fin => ((sends.emitted seg legal).of_fin fin).1, kept⟩

theorem Faithful.heard (faithful : n.Faithful isn) (side : Side) :
    (n side.peer).Hears (isn side) (n side).accepted (n side).conn.sender.stream.isEnded := by
  have hears := faithful.hears side.peer
  rwa [Side.peer_peer] at hears

-- A number that the peer truthfully acknowledged and one that the sender may hold are both short of a lap.
theorem Faithful.acked_of_truthful (faithful : n.Faithful isn) (told : (n side.peer).Truthful (isn side))
    {seg : TCPSegment} (member : seg ∈ (n side.peer).emitted) (acked : seg.header.ack = true) {number : Nat}
    (mark : seg.header.ackno = wrap number (isn side)) (bound : number ≤ (n side).accepted.length + 2) :
    number ≤ (n side.peer).conn.receiver.ackLimit := by
  obtain ⟨k, limit, truth⟩ := told seg member acked
  have short := (faithful.sends side).short
  have most := (faithful.heard side).ackLimit_le
  have same : number = k := wrap_injective_near (mark.symm.trans truth) (by omega) (by omega)
  omega

theorem Faithful.step (faithful : n.Faithful isn) (careful : n.Careful (side, event)) :
    (n.step (side, event)).Faithful isn := by
  have mannerly := careful.1.mannerly
  have sends := (faithful.sends side).step mannerly
  have advances := (faithful.hears side).step (faithful.sends side)
    (faithful.truthful side (careful.2.1 side)) (faithful.sends side.peer).short mannerly (faithful.delivery careful)
  have told := faithful.truthful side.peer (careful.2.1 side.peer)
  have acked := faithful.acked side.peer
  rw [Side.peer_peer] at told acked
  constructor
  · exact forall_step (motive := fun side e _ => e.Sends (isn side)) sends (faithful.sends side.peer)
  · refine forall_step (motive := fun side e p => e.Hears (isn side.peer) p.accepted p.conn.sender.stream.isEnded)
      advances.hears ?_
    obtain ⟨open_, later⟩ := (faithful.sends side).step_stream mannerly
    rw [Side.peer_peer]
    exact (faithful.heard side).extend (Endpoint.step_accepted ..) open_ later
  · refine forall_step (motive := fun side e _ => e.FinAfterSyn → e.Truthful (isn side.peer)) advances.truthful ?_
    rw [Side.peer_peer]
    exact fun _ => told
  · refine forall_step (motive := fun _ e p => e.conn.sender.nextAckno ≤ p.conn.receiver.ackLimit) ?_
      (le_trans acked advances.limit)
    rcases advances.acked with same | ⟨seg, rfl, acked, mark⟩
    · rw [same]
      exact faithful.acked side
    · obtain ⟨_, tiled⟩ := sends.sending.tiled
      exact faithful.acked_of_truthful told careful.1 acked mark (le_trans tiled.outstanding.le tiled.last)

end Faithful

theorem acknowledged_bytes_delivered (cfg : Side → TCPConfig) (randomIsn : Side → WrappingInt32) (n : Network)
    (run : Reaches step Careful (new cfg randomIsn) n) (side : Side) :
    (∀ p, p < (n side).accepted.length → p + 1 < (n side).conn.sender.nextAckno →
        (n side.peer).inbound[p]? = (n side).accepted[p]?) ∧
      ((n side).accepted.length + 1 < (n side).conn.sender.nextAckno →
        (n side.peer).inbound = (n side).accepted) := by
  have faithful := run.invariant (Faithful fun side => (cfg side).fixedIsn.getD (randomIsn side))
    (faithful_new cfg randomIsn) fun _ _ faithful careful => faithful.step careful
  have acked := faithful.acked side
  obtain ⟨bytes, whole⟩ := (faithful.heard side).inbound_of_acked
  constructor
  · intro p inside below
    exact bytes p inside (lt_of_lt_of_le below acked)
  · intro finished
    exact whole (lt_of_lt_of_le finished acked)

def leftFin : TCPSegment :=
  { header := { seqno := ⟨0⟩, ackno := ⟨8⟩, ack := true, fin := true, win := 4 } }

def rightAck (ackno : WrappingInt32) (win : UInt16) : TCPSegment :=
  { header := { seqno := ⟨8⟩, ackno := ackno, ack := true, win := win } }

def sampleInOrder : List (Side × Event) :=
  sampleHandshake ++
    [(.left, .write [1]), (.left, .endInputStream), (.right, .deliver (leftData ⟨4294967295⟩ [1])),
      (.right, .transmit), (.right, .deliver leftFin), (.left, .deliver (rightAck ⟨1⟩ 3))]

theorem acknowledged_bytes_delivered_sample :
    let n := sampleInOrder.foldl step (new sampleConfig fun _ => ⟨0⟩)
    (n .left).accepted = [1] ∧ (n .left).conn.sender.nextAckno = 3 ∧ (n .right).inbound = (n .left).accepted :=
  ⟨by decide +kernel, by decide +kernel,
    (acknowledged_bytes_delivered sampleConfig (fun _ => ⟨0⟩) _
      (Reaches.start.foldl (by decide +kernel)) .left).2 (by decide +kernel)⟩

-- The FIN overtakes the byte before it. Its receiver ends the stream there and acknowledges one number too many,
-- which is where the byte ends.
def sampleOvertaking : List (Side × Event) :=
  sampleHandshake ++
    [(.left, .write [1]), (.left, .endInputStream), (.right, .deliver leftFin),
      (.left, .deliver (rightAck ⟨0⟩ 4))]

theorem overtaking_fin_acknowledges_lost_byte :
    AllAllowed step Legal (new sampleConfig fun _ => ⟨0⟩) sampleOvertaking ∧
      let n := sampleOvertaking.foldl step (new sampleConfig fun _ => ⟨0⟩)
      (n .left).accepted = [1] ∧ (n .left).conn.sender.nextAckno = 2 ∧ (n .right).inbound = [] := by
  decide +kernel

def equalConfig : Side → TCPConfig := fun _ => { recvCapacity := 4, sendCapacity := 4, fixedIsn := some ⟨7⟩ }

-- Both sides open at once. The left side sends its FIN before it saw the peer's SYN, so the FIN goes out with the
-- sender's own mark for an acknowledgment, and the peer takes it for one of its byte.
def sampleEarlyFin : List (Side × Event) :=
  let syn : TCPSegment := { header := { seqno := ⟨7⟩, ackno := ⟨8⟩, syn := true } }
  [(.left, .connect), (.left, .transmit), (.right, .connect), (.right, .transmit), (.right, .deliver syn),
    (.right, .transmit), (.left, .deliver (rightAck ⟨8⟩ 4)), (.left, .endInputStream), (.left, .transmit),
    (.left, .deliver syn),
    (.right, .deliver { header := { seqno := ⟨9⟩, ackno := ⟨8⟩, ack := true, win := 4 } }), (.right, .write [1]),
    (.right, .deliver { header := { seqno := ⟨8⟩, ackno := ⟨9⟩, ack := true, fin := true } })]

example :
    AllAllowed step Legal (new equalConfig fun _ => ⟨0⟩) sampleEarlyFin ∧
      let n := sampleEarlyFin.foldl step (new equalConfig fun _ => ⟨0⟩)
      (n .right).accepted = [1] ∧ (n .right).conn.sender.nextAckno = 2 ∧ (n .left).inbound = [] := by
  decide +kernel

end Network

end Sponge
