import Sponge.InterfaceDelivery
import Sponge.RouterForwarding
import Sponge.Shared.Runs

set_option autoImplicit false

namespace Sponge

open Shared

namespace IPv4Datagram

/-- Where the lengths let the parser accept, the version and the header length are those that `serialize` wants. -/
def Forwardable (b : Bytes) : Prop :=
  20 ≤ b.length → b.length - 20 = (totalLengthField b + 65536 - 4 * headerLengthNibble b) % 65536 →
    versionNibble b = 4 ∧ 5 ≤ headerLengthNibble b

instance (b : Bytes) : Decidable (Forwardable b) := inferInstanceAs (Decidable (_ → _ → _))

theorem size_of_parse {self dgram : IPv4Datagram} {b : Bytes} (parsed : self.parse b = (.noError, dgram)) :
    dgram.payload.size = dgram.header.payloadLength.toNat := by
  simp only [parse] at parsed
  split at parsed
  rename_i header p _
  by_cases fits : (BufferList.ofBuffer p.buffer).size ≠ header.payloadLength.toNat
  · rw [if_pos fits] at parsed
    cases (Prod.mk.inj parsed).1
  · rw [if_neg fits] at parsed
    rw [← (Prod.mk.inj parsed).2]
    exact not_not.mp fits

theorem serializable_of_parse {b : Bytes} (forwardable : Forwardable b) {dgram : IPv4Datagram}
    (parsed : ({} : IPv4Datagram).parse b = (.noError, dgram)) : dgram.Serializable := by
  have accepted : (({} : IPv4Datagram).parse b).1 = .noError := by rw [parsed]
  have long := long_of_parse parsed
  have fits := (parse_accepts_iff _ b).mp accepted
  rw [if_neg (Nat.not_lt.mpr long)] at fits
  have nibbles : versionNibble b = 4 ∧ 5 ≤ headerLengthNibble b := by
    rcases fits with framed | fits
    · exact ⟨framed.version, framed.headerLength⟩
    · exact forwardable long fits
  have header : dgram.header = IPv4Header.ofBytes b := by
    by_cases framed : WellFramed b
    · rw [parse_framed long _ framed] at parsed
      rw [← (Prod.mk.inj parsed).2]
    · rw [parse_unframed long _ framed] at parsed
      rw [← (Prod.mk.inj parsed).2]
  refine dgram.serialize_ok_iff.mpr ⟨?_, ?_, size_of_parse parsed⟩
  · rw [header, ← UInt8.toNat_inj, ofBytes_ver long]
    exact nibbles.1
  · rw [header, ofBytes_hlen long]
    exact nibbles.2

theorem serializable_forwarded {dgram : IPv4Datagram} (serializable : dgram.Serializable) :
    (Router.forwarded dgram).Serializable :=
  (serialize_ok_iff _).mpr (dgram.serialize_ok_iff.mp serializable)

end IPv4Datagram

namespace NetworkInterface

theorem sendDatagram_ok (self : NetworkInterface) {dgram : IPv4Datagram} (serializable : dgram.Serializable)
    (nextHop : Address) : (self.sendDatagram dgram nextHop).2 = .ok () := by
  cases mapped : self.addressTable.lookup nextHop.ipv4Numeric with
  | some mapping =>
      obtain ⟨payload, serialized⟩ := serializable
      rw [sendDatagram_mapped mapped, serialized]
  | none =>
      by_cases pending : self.pending nextHop.ipv4Numeric
      · rw [sendDatagram_pending mapped pending]
      · rw [sendDatagram_asking mapped pending]

theorem flush_ok (self : NetworkInterface) {queue : List DelayedDgram}
    (serializable : ∀ delayed ∈ queue, delayed.dgram.Serializable) : (self.flush queue).2.2 = .ok () := by
  induction queue with
  | nil => rfl
  | cons delayed rest ih =>
      have later := ih fun delayed member => serializable delayed (List.mem_cons_of_mem _ member)
      obtain ⟨payload, serialized⟩ := serializable delayed (List.mem_cons_self ..)
      rw [flush]
      cases self.addressTable.lookup delayed.nextHopIp with
      | none => exact later
      | some mapping =>
          simp only [serialized]
          exact later

theorem recvFrame_ok {self : NetworkInterface} (sendable : self.Sendable) {frame : EthernetFrame}
    (contiguous : frame.payload.Contiguous) :
    ∃ result, (self.recvFrame frame).2 = .ok result ∧ ∀ dgram, result = some dgram →
      (frame.header.dst = self.ethernetAddress ∨ frame.header.dst = ethernetBroadcast) ∧
        frame.header.type = EthernetHeader.typeIPv4 ∧
        ({} : IPv4Datagram).parse frame.payload.concatenate = (.noError, dgram) := by
  rw [recvFrame, BufferList.toBuffer_of_contiguous contiguous]
  by_cases elsewhere : frame.header.dst ≠ self.ethernetAddress ∧ frame.header.dst ≠ ethernetBroadcast
  · rw [if_pos elsewhere]
    exact ⟨none, rfl, by simp⟩
  rw [if_neg elsewhere]
  simp only
  by_cases datagram : frame.header.type = EthernetHeader.typeIPv4
  · rw [if_pos datagram]
    refine ⟨_, rfl, fun dgram returned => ⟨or_iff_not_and_not.mpr elsewhere, datagram, ?_⟩⟩
    split at returned
    · rename_i clean
      exact Prod.ext clean (Option.some.inj returned)
    · simp at returned
  · rw [if_neg datagram]
    split
    · exact ⟨none, rfl, by simp⟩
    · rw [recvArp_eq, flush_ok _ sendable]
      exact ⟨none, rfl, by simp⟩

end NetworkInterface

namespace AsyncNetworkInterface

structure Sound (iface : AsyncNetworkInterface) : Prop where
  sendable : iface.toNetworkInterface.Sendable
  received : ∀ dgram ∈ iface.datagramsOut, dgram.Serializable

theorem sound_of_idle {iface : AsyncNetworkInterface} (unsent : iface.dgramDelayQueue = [])
    (unrouted : iface.datagramsOut = []) : iface.Sound where
  sendable := by simp [NetworkInterface.Sendable, unsent]
  received := by simp [unrouted]

variable {self : AsyncNetworkInterface} (sound : self.Sound)
include sound

theorem Sound.sendDatagram {dgram : IPv4Datagram} (serializable : dgram.Serializable) (nextHop : Address) :
    (self.sendDatagram dgram nextHop).2 = .ok () ∧ (self.sendDatagram dgram nextHop).1.Sound :=
  ⟨self.toNetworkInterface.sendDatagram_ok serializable nextHop,
    (NetworkInterface.send_simulates sound.sendable serializable nextHop).sendable, sound.received⟩

theorem Sound.recvFrame {frame : EthernetFrame} (contiguous : frame.payload.Contiguous)
    (forwardable : frame.header.dst = self.ethernetAddress ∨ frame.header.dst = ethernetBroadcast →
      frame.header.type = EthernetHeader.typeIPv4 → IPv4Datagram.Forwardable frame.payload.concatenate) :
    (self.recvFrame frame).2 = .ok () ∧ (self.recvFrame frame).1.Sound := by
  obtain ⟨returned, result, parsed⟩ := NetworkInterface.recvFrame_ok sound.sendable contiguous
  have sendable : (self.toNetworkInterface.recvFrame frame).1.Sendable :=
    (NetworkInterface.recv_simulates sound.sendable frame).sendable
  rw [AsyncNetworkInterface.recvFrame]
  generalize self.toNetworkInterface.recvFrame frame = outcome at result sendable ⊢
  obtain ⟨iface, thrown⟩ := outcome
  simp only at result
  subst result
  cases returned with
  | none => exact ⟨rfl, sendable, sound.received⟩
  | some dgram =>
      obtain ⟨mine, datagram, parsed⟩ := parsed dgram rfl
      refine ⟨rfl, sendable, fun received member => ?_⟩
      rcases List.mem_append.mp member with before | last
      · exact sound.received received before
      · rw [List.mem_singleton.mp last]
        exact IPv4Datagram.serializable_of_parse (forwardable mine datagram) parsed

end AsyncNetworkInterface

namespace Router

def RoutesExist (self : Router) : Prop := ∀ entry ∈ self.routes.entries, entry.2.2 < self.interfaces.length

instance (self : Router) : Decidable self.RoutesExist := inferInstanceAs (Decidable (∀ _ ∈ _, _))

structure Sound (router : Router) : Prop where
  existing : router.RoutesExist
  interfaces : ∀ interface ∈ router.interfaces, interface.Sound

structure Safe (router : Router) (result : Router × Except Exception Unit) : Prop where
  ok : result.2 = .ok ()
  sound : result.1.Sound
  length : result.1.interfaces.length = router.interfaces.length

section Calls

theorem datagramsOut_onInterface {self : Router} {n : Nat} {interface : AsyncNetworkInterface}
    (present : self.interfaces[n]? = some interface)
    (call : AsyncNetworkInterface → AsyncNetworkInterface × Except Exception Unit) (m : Nat) :
    (self.onInterface n call).1.datagramsOut m =
      if m = n then (call interface).1.datagramsOut else self.datagramsOut m := by
  have within := (List.getElem?_eq_some_iff.mp present).1
  rw [onInterface_present present, datagramsOut, datagramsOut]
  by_cases same : m = n
  · subst same
    rw [if_pos rfl, List.getElem?_set_self within]
  · rw [if_neg same, List.getElem?_set_ne (Ne.symm same)]

theorem present_of_front {self : Router} {n : Nat} {dgram : IPv4Datagram} {rest : List IPv4Datagram}
    (front : self.datagramsOut n = dgram :: rest) :
    ∃ interface ∈ self.interfaces, self.interfaces[n]? = some interface ∧ interface.datagramsOut = dgram :: rest := by
  rw [datagramsOut] at front
  cases present : self.interfaces[n]? with
  | none => simp [present] at front
  | some interface => exact ⟨interface, List.mem_of_getElem? present, rfl, by simpa [present] using front⟩

variable {self : Router} (sound : self.Sound)
include sound

theorem Sound.onInterface {n : Nat} {interface : AsyncNetworkInterface}
    (present : self.interfaces[n]? = some interface)
    {call : AsyncNetworkInterface → AsyncNetworkInterface × Except Exception Unit}
    (safe : (call interface).2 = .ok () ∧ (call interface).1.Sound) : self.Safe (self.onInterface n call) := by
  rw [onInterface_present present]
  refine ⟨safe.1, ⟨?_, ?_⟩, List.length_set⟩
  · intro entry member
    rw [List.length_set]
    exact sound.existing entry member
  · intro other member
    rcases List.mem_or_eq_of_mem_set member with before | rfl
    · exact sound.interfaces other before
    · exact safe.2

theorem Sound.routeOneDatagram {dgram : IPv4Datagram} (serializable : dgram.Serializable) :
    self.Safe (self.routeOneDatagram dgram) ∧
      ∀ m, (self.routeOneDatagram dgram).1.datagramsOut m = self.datagramsOut m := by
  rw [routeOneDatagram_eq]
  cases decided : self.decision dgram with
  | none => exact ⟨⟨rfl, sound, rfl⟩, fun m => rfl⟩
  | some action =>
      have within : action.1 < self.interfaces.length := by
        rw [decision] at decided
        split at decided
        · simp at decided
        · obtain ⟨info, found, rfl⟩ := Option.map_eq_some_iff.mp decided
          obtain ⟨i, _, lookup⟩ := List.exists_of_findSome?_eq_some found
          exact sound.existing _ (AList.mem_lookup_iff.mp lookup)
      have present := List.getElem?_eq_getElem within
      have good := (sound.interfaces _ (List.getElem_mem within)).sendDatagram
        (IPv4Datagram.serializable_forwarded serializable) action.2
      refine ⟨sound.onInterface present good, fun m => ?_⟩
      refine (datagramsOut_onInterface present _ m).trans ?_
      split
      · rename_i same
        rw [same, datagramsOut, present]
        rfl
      · rfl

theorem Sound.routeFront {n : Nat} {dgram : IPv4Datagram} {rest : List IPv4Datagram}
    (front : self.datagramsOut n = dgram :: rest) :
    self.Safe (self.routeFront n) ∧
      ∀ m, (self.routeFront n).1.datagramsOut m = if m = n then rest else self.datagramsOut m := by
  obtain ⟨interface, member, _, queue⟩ := present_of_front front
  have serializable := (sound.interfaces interface member).received dgram (queue ▸ List.mem_cons_self ..)
  obtain ⟨routed, queues⟩ := sound.routeOneDatagram serializable
  rw [Router.routeFront, front]
  simp only
  generalize self.routeOneDatagram dgram = result at routed queues ⊢
  obtain ⟨next, outcome⟩ := result
  obtain ⟨rfl, soundNext, lengthNext⟩ := routed
  -- The datagram is still in front when it is popped.
  obtain ⟨interface, member, present, queue⟩ := present_of_front ((queues n).trans front)
  have good := soundNext.interfaces interface member
  have popped : next.Safe (next.popDatagram n) := by
    refine soundNext.onInterface present ⟨rfl, good.sendable, fun dgram later => ?_⟩
    exact good.received dgram (List.mem_of_mem_tail later)
  refine ⟨⟨popped.ok, popped.sound, popped.length.trans lengthNext⟩, fun m => ?_⟩
  refine (datagramsOut_onInterface present _ m).trans ?_
  rw [queue, queues m]
  rfl

theorem Sound.routeQueue (n : Nat) :
    self.Safe (self.routeQueue n) ∧
      ∀ m, (self.routeQueue n).1.datagramsOut m = if m = n then [] else self.datagramsOut m := by
  let body (state : Router × Except Exception Unit) : Router × Except Exception Unit := state.1.routeFront n
  let inv (state : Router × Except Exception Unit) : Prop :=
    self.Safe state ∧ ∀ m ≠ n, state.1.datagramsOut m = self.datagramsOut m
  have round : ∀ state, queueWaits n state = true → inv state → inv (body state) ∧
      ((body state).1.datagramsOut n).length < (state.1.datagramsOut n).length := by
    intro state running holds
    obtain ⟨safe, others⟩ := holds
    cases front : state.1.datagramsOut n with
    | nil => simp [queueWaits, front] at running
    | cons dgram rest =>
        obtain ⟨next, queues⟩ := safe.sound.routeFront front
        refine ⟨⟨⟨next.ok, next.sound, next.length.trans safe.length⟩, fun m other => ?_⟩, ?_⟩
        · rw [queues m, if_neg other]
          exact others m other
        · rw [queues n, if_pos rfl]
          exact Nat.lt_succ_self _
  have initial : inv (self, .ok ()) := ⟨⟨rfl, sound, rfl⟩, fun m _ => rfl⟩
  obtain ⟨safe, others⟩ := loop_invariant (queueWaits n) body inv
    (fun state running holds => (round state running holds).1) (self.datagramsOut n).length _ initial
  have stopped := loop_exits (queueWaits n) body inv (fun state => (state.1.datagramsOut n).length)
    (fun state running holds => (round state running holds).1)
    (fun state running holds => (round state running holds).2) _ _ initial (Nat.le_refl _)
  refine ⟨safe, fun m => ?_⟩
  by_cases same : m = n
  · subst same
    rw [if_pos rfl]
    change self.Safe (self.routeQueue m) at safe
    change queueWaits m (self.routeQueue m) = false at stopped
    generalize self.routeQueue m = result at safe stopped ⊢
    obtain ⟨final, outcome⟩ := result
    obtain ⟨rfl, _, _⟩ := safe
    simpa [queueWaits, Except.isOk, Except.toBool] using stopped
  · rw [if_neg same]
    exact others m same

theorem Sound.route :
    self.Safe self.route ∧ ∀ interface ∈ self.route.1.interfaces, interface.datagramsOut = [] := by
  have upTo (k : Nat) : self.Safe ((List.range k).foldl routeNext (self, .ok ())) ∧
      ∀ m < k, ((List.range k).foldl routeNext (self, .ok ())).1.datagramsOut m = [] := by
    induction k with
    | zero => exact ⟨⟨rfl, sound, rfl⟩, by simp⟩
    | succ k ih =>
        rw [List.range_succ, List.foldl_append]
        generalize (List.range k).foldl routeNext (self, .ok ()) = state at ih ⊢
        obtain ⟨current, outcome⟩ := state
        obtain ⟨⟨rfl, soundCurrent, length⟩, empty⟩ := ih
        obtain ⟨safe, queues⟩ := soundCurrent.routeQueue k
        refine ⟨⟨safe.ok, safe.sound, safe.length.trans length⟩, fun m within => ?_⟩
        refine (queues m).trans ?_
        split
        · rfl
        · exact empty m (by omega)
  obtain ⟨safe, empty⟩ := upTo self.interfaces.length
  refine ⟨safe, fun interface member => ?_⟩
  obtain ⟨m, present⟩ := List.mem_iff_getElem?.mp member
  have within := (List.getElem?_eq_some_iff.mp present).1
  have queue := empty m (safe.length ▸ within)
  rw [← Router.route, datagramsOut, present] at queue
  exact queue

end Calls

end Router

inductive RouterOp
  | recvFrame (n : Nat) (frame : EthernetFrame)
  | route
  | tick (n : Nat) (msSinceLastTick : Nat)
  deriving DecidableEq

namespace Router

def step (self : Router) : RouterOp → Router × Except Exception Unit
  | .recvFrame n frame => self.onInterface n fun interface => interface.recvFrame frame
  | .route => self.route
  | .tick n ms => self.onInterface n fun interface => (interface.tick ms, .ok ())

def next (self : Router) (op : RouterOp) : Router := (self.step op).1

def Legal (self : Router) : RouterOp → Prop
  | .recvFrame n frame => n < self.interfaces.length ∧ frame.payload.Contiguous
  | .route => True
  | .tick n _ => n < self.interfaces.length

def takes (self : Router) (n : Nat) (frame : EthernetFrame) : Bool :=
  self.interfaces[n]?.any fun interface =>
    frame.header.dst == interface.ethernetAddress || frame.header.dst == ethernetBroadcast

def BringsForwardable (self : Router) : RouterOp → Prop
  | .recvFrame n frame => self.takes n frame → frame.header.type = EthernetHeader.typeIPv4 →
      IPv4Datagram.Forwardable frame.payload.concatenate
  | _ => True

instance (self : Router) (op : RouterOp) : Decidable (self.Legal op) :=
  match op with
  | .recvFrame _ _ => inferInstanceAs (Decidable (_ ∧ _))
  | .route => inferInstanceAs (Decidable True)
  | .tick _ _ => inferInstanceAs (Decidable (_ < _))

instance (self : Router) (op : RouterOp) : Decidable (self.BringsForwardable op) :=
  match op with
  | .recvFrame _ _ => inferInstanceAs (Decidable (_ → _ → _))
  | .route => inferInstanceAs (Decidable True)
  | .tick _ _ => inferInstanceAs (Decidable True)

theorem Sound.step {self : Router} (sound : self.Sound) {op : RouterOp} (legal : self.Legal op)
    (forwardable : self.BringsForwardable op) : self.Safe (self.step op) := by
  cases op with
  | recvFrame n frame =>
      have present := List.getElem?_eq_getElem legal.1
      have good := sound.interfaces _ (List.getElem_mem legal.1)
      refine sound.onInterface present (good.recvFrame legal.2 fun mine => forwardable ?_)
      simpa [takes, present] using mine
  | route => exact sound.route.1
  | tick n ms =>
      have present := List.getElem?_eq_getElem legal
      have good := sound.interfaces _ (List.getElem_mem legal)
      have kept : (self.interfaces[n].tick ms).Sound := ⟨good.sendable, good.received⟩
      rw [Router.step]
      exact sound.onInterface present ⟨rfl, kept⟩

theorem run_sound {self : Router} (sound : self.Sound) {ops : List RouterOp}
    (allowed : AllAllowed next (fun self op => self.Legal op ∧ self.BringsForwardable op) self ops) :
    (ops.foldl next self).Sound := by
  induction ops generalizing self with
  | nil => exact sound
  | cons op ops ih => exact ih (sound.step allowed.1.1 allowed.1.2).sound allowed.2

theorem handles_safely (start : Router) (existing : start.RoutesExist)
    (interfaces : ∀ interface ∈ start.interfaces, interface.Sound) (ops : List RouterOp)
    (allowed : AllAllowed next (fun self op => self.Legal op ∧ self.BringsForwardable op) start ops) :
    ∀ before op after, ops = before ++ op :: after →
      let result := (before.foldl next start).step op
      result.2 = .ok () ∧ (op = .route → ∀ interface ∈ result.1.interfaces, interface.datagramsOut = []) := by
  rintro before op after rfl
  obtain ⟨allowedBefore, allowedOp, _⟩ := allAllowed_append.mp allowed
  have sound := run_sound ⟨existing, interfaces⟩ allowedBefore
  refine ⟨(sound.step allowedOp.1 allowedOp.2).ok, ?_⟩
  rintro rfl
  exact sound.route.2

def plainFrame (firstByte : UInt8) : EthernetFrame where
  header := { dst := Vector.replicate 6 2, src := Vector.replicate 6 4, type := EthernetHeader.typeIPv4 }
  payload := BufferList.ofBuffer [firstByte, 0, 0, 20, 0, 0, 0, 0, 64, 6, 0, 0, 0, 0, 0, 9, 0, 0, 0, 7]

def oneArmed : Router :=
  (addInterface {} { ethernetAddress := Vector.replicate 6 2, ipAddress := ⟨1, 0⟩ }).addRoute ⟨0, 0, none, 0⟩

theorem handles_safely_plain :
    oneArmed.RoutesExist ∧ (∀ interface ∈ oneArmed.interfaces, interface.Sound) ∧
      (([RouterOp.recvFrame 0 (plainFrame 0x45)].foldl next oneArmed).step .route).2 = .ok () := by
  have existing : oneArmed.RoutesExist := by decide
  have idle : ∀ interface ∈ oneArmed.interfaces, interface.dgramDelayQueue = [] ∧ interface.datagramsOut = [] := by
    decide
  have sound : ∀ interface ∈ oneArmed.interfaces, interface.Sound := fun interface member =>
    AsyncNetworkInterface.sound_of_idle (idle interface member).1 (idle interface member).2
  refine ⟨existing, sound, (handles_safely oneArmed existing sound
    [.recvFrame 0 (plainFrame 0x45), .route, .tick 0 10] ?_
    [.recvFrame 0 (plainFrame 0x45)] .route [.tick 0 10] rfl).1⟩
  decide +kernel

-- A datagram of version 5 is accepted, and throws when its turn comes, in `route` for a hop that is known.
theorem route_throws_on_wrong_version :
    let ops := [RouterOp.recvFrame 0 NetworkInterface.routerReply, .recvFrame 0 (plainFrame 0x55)]
    let router := ops.foldl next oneArmed
    oneArmed.RoutesExist ∧
      (∀ interface ∈ oneArmed.interfaces, interface.dgramDelayQueue = [] ∧ interface.datagramsOut = []) ∧
      AllAllowed next Legal oneArmed (ops ++ [.route]) ∧
      (router.step .route).2 = .error (.runtimeError "wrong IP version") ∧
      ((router.step .route).1.datagramsOut 0).length = 1 := by
  decide +kernel

end Router

end Sponge
