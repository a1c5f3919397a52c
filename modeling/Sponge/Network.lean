import Sponge.Endpoint
import Sponge.Shared.Runs

set_option autoImplicit false

namespace Sponge

open Shared TCPSender TCPReceiver

inductive Side
  | left
  | right
  deriving DecidableEq

namespace Side

def peer : Side → Side
  | left => right
  | right => left

@[simp] theorem peer_peer (side : Side) : side.peer.peer = side := by cases side <;> rfl

@[simp] theorem peer_ne (side : Side) : side.peer ≠ side := by cases side <;> decide

theorem eq_or_eq_peer (side other : Side) : other = side ∨ other = side.peer := by
  cases side <;> cases other <;> decide

instance (p : Side → Prop) [DecidablePred p] : Decidable (∀ side, p side) :=
  decidable_of_iff (p left ∧ p right)
    ⟨fun both side => by cases side; exacts [both.1, both.2], fun all => ⟨all left, all right⟩⟩

end Side

abbrev Network := Side → Endpoint

namespace Network

def new (cfg : Side → TCPConfig) (randomIsn : Side → WrappingInt32) : Network :=
  fun side => .new (cfg side) (randomIsn side)

def step (n : Network) (action : Side × Event) : Network :=
  Function.update n action.1 ((n action.1).step action.2)

-- The channel delivers nothing but what the other side put on its queue, at any time and any number of times.
def Legal (n : Network) : Side × Event → Prop
  | (side, .deliver seg) => seg ∈ (n side.peer).emitted
  | (side, event) => (n side).Mannerly event

instance (n : Network) : (action : Side × Event) → Decidable (n.Legal action)
  | (_, .deliver _) => inferInstanceAs (Decidable (_ ∈ _))
  | (side, .write data) => inferInstanceAs (Decidable ((n side).Mannerly (.write data)))
  | (_, .connect) | (_, .endInputStream) | (_, .read _) | (_, .popOutput _) | (_, .tick _) | (_, .transmit) =>
      inferInstanceAs (Decidable True)

structure Sound (isn : Side → WrappingInt32) (n : Network) : Prop where
  sends : ∀ side, (n side).Sends (isn side)
  receives : ∀ side, (n side).Receives (isn side.peer) (n side.peer).accepted

theorem sound_new (cfg : Side → TCPConfig) (randomIsn : Side → WrappingInt32) :
    (new cfg randomIsn).Sound fun side => (cfg side).fixedIsn.getD (randomIsn side) where
  sends side := Endpoint.sends_new (cfg side) (randomIsn side)
  receives side := Endpoint.receives_new _ _ (cfg side) (randomIsn side)

section Sound

variable {isn : Side → WrappingInt32} {n : Network} {side : Side} {event : Event}

theorem Legal.mannerly (legal : n.Legal (side, event)) : (n side).Mannerly event := by
  cases event with
  | deliver seg => trivial
  | connect | write data | endInputStream | read len | popOutput len | tick ms | transmit => exact legal

theorem Sound.carried (sound : n.Sound isn) (legal : n.Legal (side, event)) (seg : TCPSegment)
    (delivery : event = .deliver seg) : Carried (isn side.peer) (n side.peer).accepted seg := by
  subst delivery
  exact (sound.sends side.peer).carried legal

theorem forall_step {motive : Side → Endpoint → Endpoint → Prop}
    (self : motive side ((n side).step event) (n side.peer))
    (peer : motive side.peer (n side.peer) ((n side).step event)) (other : Side) :
    motive other (n.step (side, event) other) (n.step (side, event) other.peer) := by
  have moved : n.step (side, event) side = (n side).step event := Function.update_self ..
  have still : n.step (side, event) side.peer = n side.peer := Function.update_of_ne side.peer_ne ..
  rcases side.eq_or_eq_peer other with rfl | rfl
  · rwa [moved, still]
  · rwa [Side.peer_peer, moved, still]

theorem Sound.step (sound : n.Sound isn) (legal : n.Legal (side, event)) : (n.step (side, event)).Sound isn := by
  have sends := (sound.sends side).step legal.mannerly
  have receives := (sound.receives side).step (sound.sends side) (sound.sends side.peer).short legal.mannerly
    (sound.carried legal)
  have peer := sound.receives side.peer
  rw [Side.peer_peer] at peer
  constructor
  · exact forall_step (motive := fun side e _ => e.Sends (isn side)) sends (sound.sends side.peer)
  · refine forall_step (motive := fun side e p => e.Receives (isn side.peer) p.accepted) receives ?_
    rw [Side.peer_peer]
    exact peer.extend (Endpoint.step_accepted ..)

end Sound

theorem inbound_prefix_of_accepted (cfg : Side → TCPConfig) (randomIsn : Side → WrappingInt32) (n : Network)
    (run : Reaches step Legal (new cfg randomIsn) n) (side : Side) :
    (n side).inbound <+: (n side.peer).accepted := by
  have sound := run.invariant (Sound fun side => (cfg side).fixedIsn.getD (randomIsn side))
    (sound_new cfg randomIsn) fun _ _ sound legal => sound.step legal
  exact (sound.receives side).inbound_prefix_stream

def sampleConfig : Side → TCPConfig
  | .left => { recvCapacity := 4, sendCapacity := 4, fixedIsn := some ⟨4294967294⟩ }
  | .right => { recvCapacity := 4, sendCapacity := 4, fixedIsn := some ⟨7⟩ }

-- The left side opens the connection. Its segments stay on the wire; its sequence numbers soon wrap.
def sampleHandshake : List (Side × Event) :=
  [(.left, .connect), (.left, .transmit),
    (.right, .deliver { header := { seqno := ⟨4294967294⟩, ackno := ⟨4294967295⟩, syn := true } }),
    (.right, .transmit),
    (.left, .deliver { header := { seqno := ⟨7⟩, ackno := ⟨4294967295⟩, ack := true, syn := true, win := 4 } }),
    (.left, .transmit)]

def leftData (seqno : WrappingInt32) (payload : Bytes) : TCPSegment :=
  { header := { seqno := seqno, ackno := ⟨8⟩, ack := true, win := 4 }, payload := payload }

def sampleReordering : List (Side × Event) :=
  sampleHandshake ++
    [(.left, .write [1]), (.left, .write [2]), (.right, .deliver (leftData ⟨0⟩ [2])),
      (.right, .deliver (leftData ⟨4294967295⟩ [1])), (.right, .read 1)]

theorem inbound_prefix_of_accepted_sample :
    let n := sampleReordering.foldl step (new sampleConfig fun _ => ⟨0⟩)
    (n .right).inbound = [1, 2] ∧ (n .right).inbound <+: (n .left).accepted :=
  ⟨by decide +kernel,
    inbound_prefix_of_accepted sampleConfig (fun _ => ⟨0⟩) _ (Reaches.start.foldl (by decide +kernel)) .right⟩

end Network

end Sponge
