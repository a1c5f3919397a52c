import Sponge.NetworkInterface
import Sponge.Shared.Deferral

set_option autoImplicit false

namespace Sponge

open Shared

abbrev DgramDelivery := Delivery UInt32 IPv4Datagram EthernetAddress

namespace IPv4Datagram

def Serializable (dgram : IPv4Datagram) : Prop := ∃ payload, dgram.serialize = .ok payload

end IPv4Datagram

namespace NetworkInterface

structure Carries (ethernetAddress : EthernetAddress) (frame : EthernetFrame) (delivery : DgramDelivery) : Prop where
  header : frame.header = ⟨delivery.address, ethernetAddress, EthernetHeader.typeIPv4⟩
  payload : delivery.item.serialize = .ok frame.payload

def ipv4Frames (frames : List EthernetFrame) : List EthernetFrame :=
  frames.filter fun frame => frame.header.type == EthernetHeader.typeIPv4

def emissions : NetworkInterface → List InterfaceOp → List (List EthernetFrame)
  | _, [] => []
  | self, op :: ops => self.emitted op :: emissions (self.step op) ops

def sentTo (ip : UInt32) (ops : List InterfaceOp) : List IPv4Datagram :=
  ops.filterMap fun
    | .sendDatagram dgram nextHop => if nextHop.ipv4Numeric = ip then some dgram else none
    | _ => none

def queuedFor (self : NetworkInterface) (ip : UInt32) : List IPv4Datagram :=
  (self.dgramDelayQueue.filter fun delayed => delayed.nextHopIp = ip).map DelayedDgram.dgram

def hear (ethernetAddress : EthernetAddress) (learned : UInt32 → Option EthernetAddress) :
    InterfaceOp → UInt32 → Option EthernetAddress
  | .recvFrame frame =>
      match heard ethernetAddress frame with
      | none => learned
      | some message => Function.update learned message.senderIpAddress (some message.senderEthernetAddress)
  | _ => learned

def lastLearned (ethernetAddress : EthernetAddress) (ops : List InterfaceOp) : UInt32 → Option EthernetAddress :=
  ops.foldl (hear ethernetAddress) fun _ => none

section Refinement

def deferral (self : NetworkInterface) : Deferral UInt32 IPv4Datagram EthernetAddress where
  known ip := (self.addressTable.lookup ip).map Prod.fst
  waiting := self.dgramDelayQueue.map fun delayed => (delayed.nextHopIp, delayed.dgram)

def deferralOp (self : NetworkInterface) : InterfaceOp → DeferralOp UInt32 IPv4Datagram EthernetAddress
  | .sendDatagram dgram nextHop => .submit nextHop.ipv4Numeric dgram
  | .recvFrame frame =>
      match heard self.ethernetAddress frame with
      | none => .forget fun _ => false
      | some message => .learn message.senderIpAddress message.senderEthernetAddress
  | .tick ms => .forget fun ip => ((self.tick ms).addressTable.lookup ip).isNone

def deferralOps : NetworkInterface → List InterfaceOp → List (DeferralOp UInt32 IPv4Datagram EthernetAddress)
  | _, [] => []
  | self, op :: ops => self.deferralOp op :: deferralOps (self.step op) ops

def Sendable (self : NetworkInterface) : Prop := ∀ delayed ∈ self.dgramDelayQueue, delayed.dgram.Serializable

structure Simulates (iface : NetworkInterface) (op : InterfaceOp) : Prop where
  state : (iface.step op).deferral = iface.deferral.step (iface.deferralOp op)
  frames : List.Forall₂ (Carries iface.ethernetAddress) (ipv4Frames (iface.emitted op))
    (iface.deferral.delivered (iface.deferralOp op))
  sendable : (iface.step op).Sendable

theorem ipv4Frames_append (front back : List EthernetFrame) :
    ipv4Frames (front ++ back) = ipv4Frames front ++ ipv4Frames back := List.filter_append ..

theorem ipv4Frames_flush (self : NetworkInterface) (queue : List DelayedDgram) :
    ipv4Frames (self.flush queue).1 = (self.flush queue).1 := by
  refine List.filter_eq_self.mpr fun frame member => ?_
  simp [self.flush_frames queue frame member]

theorem ipv4Frames_arp {frames : List EthernetFrame}
    (arp : ∀ frame ∈ frames, frame.header.type = EthernetHeader.typeArp) : ipv4Frames frames = [] := by
  refine List.filter_eq_nil_iff.mpr fun frame member => ?_
  rw [arp frame member]
  decide

theorem deferral_learn (self : NetworkInterface) (message : ARPMessage) :
    (self.learn message).deferral.known =
      Function.update self.deferral.known message.senderIpAddress (some message.senderEthernetAddress) := by
  funext ip
  by_cases same : ip = message.senderIpAddress
  · subst same
    simp [deferral, learn]
  · simp [deferral, learn, same, AList.lookup_insert_ne]

theorem flush_deferral (self : NetworkInterface) {queue : List DelayedDgram}
    (serializable : ∀ delayed ∈ queue, delayed.dgram.Serializable) :
    let waiting := queue.map fun delayed => (delayed.nextHopIp, delayed.dgram)
    List.Forall₂ (Carries self.ethernetAddress) (self.flush queue).1 (Deferral.release self.deferral.known waiting) ∧
      (self.flush queue).2.1.map (fun delayed => (delayed.nextHopIp, delayed.dgram)) =
        Deferral.keep self.deferral.known waiting := by
  induction queue with
  | nil => exact ⟨.nil, rfl⟩
  | cons delayed rest ih =>
      obtain ⟨frames, kept⟩ := ih fun later member => serializable later (List.mem_cons_of_mem _ member)
      obtain ⟨payload, serialized⟩ := serializable delayed (List.mem_cons_self ..)
      simp only [List.map_cons, flush]
      cases mapped : self.addressTable.lookup delayed.nextHopIp with
      | none =>
          have unknown : self.deferral.known delayed.nextHopIp = none := by simp [deferral, mapped]
          simp only [Deferral.release, Deferral.keep, List.filterMap_cons, List.filter_cons, unknown] at frames kept ⊢
          exact ⟨frames, congrArg _ kept⟩
      | some mapping =>
          have known : self.deferral.known delayed.nextHopIp = some mapping.1 := by simp [deferral, mapped]
          simp only [Deferral.release, Deferral.keep, List.filterMap_cons, List.filter_cons, known,
            serialized] at frames kept ⊢
          exact ⟨.cons ⟨rfl, serialized⟩ frames, kept⟩

variable {self : NetworkInterface} (sendable : self.Sendable)
include sendable

theorem send_simulates {dgram : IPv4Datagram} (serializable : dgram.Serializable) (nextHop : Address) :
    self.Simulates (.sendDatagram dgram nextHop) := by
  cases mapped : self.addressTable.lookup nextHop.ipv4Numeric with
  | some mapping =>
      obtain ⟨payload, serialized⟩ := serializable
      have known : self.deferral.known nextHop.ipv4Numeric = some mapping.1 := by simp [deferral, mapped]
      have after : self.step (.sendDatagram dgram nextHop) = self.pushFrame (self.ipv4Frame mapping.1 payload) := by
        simp only [step, sendDatagram_mapped mapped, serialized]
      constructor
      · rw [after]
        simp only [deferralOp, Deferral.step, known]
        rfl
      · rw [emitted_of_append (congrArg framesOut after)]
        simp only [deferralOp, Deferral.delivered, Deferral.release, List.filterMap_cons, known]
        exact .cons ⟨rfl, serialized⟩ .nil
      · rw [after]
        exact sendable
  | none =>
      have unknown : self.deferral.known nextHop.ipv4Numeric = none := by simp [deferral, mapped]
      obtain ⟨timeout, frames, after, arp⟩ := step_send_unmapped mapped dgram
      constructor
      · rw [after]
        simp only [deferralOp, Deferral.step, unknown]
        simp [deferral, delay, pushFrames]
      · rw [emitted_of_append (congrArg framesOut after), ipv4Frames_arp arp]
        simp only [deferralOp, Deferral.delivered, Deferral.release, List.filterMap_cons, unknown]
        exact .nil
      · rw [after]
        intro delayed member
        rcases List.mem_append.mp member with before | last
        · exact sendable delayed before
        · rw [List.mem_singleton.mp last]
          exact serializable

theorem recv_simulates (frame : EthernetFrame) : self.Simulates (.recvFrame frame) := by
  cases hears : heard self.ethernetAddress frame with
  | none =>
      have after := step_unheard hears
      constructor
      · rw [after]
        simp [deferralOp, hears, Deferral.step]
      · rw [emitted_of_append ((congrArg framesOut after).trans (List.append_nil _).symm)]
        simp only [deferralOp, hears, Deferral.delivered]
        exact .nil
      · rwa [after]
  | some message =>
      have after := step_heard hears
      obtain ⟨frames, kept⟩ := (self.learn message).flush_deferral sendable
      rw [deferral_learn] at frames kept
      constructor
      · rw [after]
        simp only [deferralOp, hears, Deferral.step]
        rw [← deferral_learn] at kept ⊢
        exact congrArg (Deferral.mk _) kept
      · rw [emitted_heard hears, ipv4Frames_append, ipv4Frames_arp (self.replies_frames message), List.nil_append,
          ipv4Frames_flush]
        simp only [deferralOp, hears, Deferral.delivered]
        exact frames
      · rw [after]
        intro delayed member
        exact sendable delayed ((flush_sublist _ _).subset member)

theorem tick_simulates (ms : Nat) : self.Simulates (.tick ms) := by
  constructor
  · have known : (self.tick ms).deferral.known = fun ip =>
        if ((self.tick ms).addressTable.lookup ip).isNone then none else self.deferral.known ip := by
      funext ip
      simp only [deferral, tick, lookup_retain]
      cases self.addressTable.lookup ip with
      | none => rfl
      | some mapping =>
          rw [Option.filter_some]
          split <;> rfl
    exact congrArg (Deferral.mk · _) known
  · rw [emitted_of_append (List.append_nil _).symm]
    exact .nil
  · exact sendable

end Refinement

section Runs

def SendsSerializable (ops : List InterfaceOp) : Prop :=
  ∀ dgram nextHop, .sendDatagram dgram nextHop ∈ ops → dgram.Serializable

theorem SendsSerializable.cons {op : InterfaceOp} {ops : List InterfaceOp}
    (serializable : SendsSerializable (op :: ops)) : SendsSerializable [op] ∧ SendsSerializable ops := by
  constructor
  · intro dgram nextHop member
    exact serializable dgram nextHop (List.mem_cons.mpr (.inl (List.mem_singleton.mp member)))
  · intro dgram nextHop member
    exact serializable dgram nextHop (List.mem_cons_of_mem _ member)

theorem step_simulates {self : NetworkInterface} (sendable : self.Sendable) {op : InterfaceOp}
    (serializable : SendsSerializable [op]) : self.Simulates op := by
  cases op with
  | sendDatagram dgram nextHop =>
      exact send_simulates sendable (serializable dgram nextHop (List.mem_singleton_self _)) nextHop
  | recvFrame frame => exact recv_simulates sendable frame
  | tick ms => exact tick_simulates sendable ms

theorem run_refines {self : NetworkInterface} (sendable : self.Sendable) {ops : List InterfaceOp}
    (serializable : SendsSerializable ops) :
    (ops.foldl step self).deferral = (self.deferralOps ops).foldl Deferral.step self.deferral ∧
      List.Forall₂ (fun frames deliveries => List.Forall₂ (Carries self.ethernetAddress) (ipv4Frames frames) deliveries)
        (self.emissions ops) (self.deferral.log (self.deferralOps ops)) := by
  induction ops generalizing self with
  | nil => exact ⟨rfl, .nil⟩
  | cons op ops ih =>
      have first := step_simulates sendable serializable.cons.1
      obtain ⟨state, frames⟩ := ih first.sendable serializable.cons.2
      rw [first.state, (self.step_extends op).1] at frames
      rw [first.state] at state
      exact ⟨state, .cons first.frames frames⟩

theorem run_sendable {self : NetworkInterface} (sendable : self.Sendable) {ops : List InterfaceOp}
    (serializable : SendsSerializable ops) : (ops.foldl step self).Sendable := by
  induction ops generalizing self with
  | nil => exact sendable
  | cons op ops ih => exact ih (step_simulates sendable serializable.cons.1).sendable serializable.cons.2

theorem framesOut_run (self : NetworkInterface) (ops : List InterfaceOp) :
    (ops.foldl step self).framesOut = self.framesOut ++ (self.emissions ops).flatten := by
  induction ops generalizing self with
  | nil => exact (List.append_nil _).symm
  | cons op ops ih => rw [List.foldl_cons, ih, framesOut_step, emissions, List.flatten_cons, List.append_assoc]

theorem take_deferralOps (self : NetworkInterface) (ops : List InterfaceOp) (n : Nat) :
    (self.deferralOps ops).take n = self.deferralOps (ops.take n) := by
  induction ops generalizing self n with
  | nil => cases n <;> rfl
  | cons op ops ih =>
      cases n with
      | zero => rfl
      | succ n => exact congrArg _ (ih _ n)

theorem foldl_learn (self : NetworkInterface) (ops : List InterfaceOp) (learned : UInt32 → Option EthernetAddress) :
    (self.deferralOps ops).foldl Deferral.learn learned = ops.foldl (hear self.ethernetAddress) learned := by
  induction ops generalizing self learned with
  | nil => rfl
  | cons op ops ih =>
      rw [deferralOps, List.foldl_cons, List.foldl_cons, ih, (self.step_extends op).1]
      congr 1
      cases op with
      | sendDatagram dgram nextHop => rfl
      | recvFrame frame =>
          simp only [deferralOp, hear]
          cases heard self.ethernetAddress frame <;> rfl
      | tick ms => rfl

theorem flatMap_submittedFor (self : NetworkInterface) (ops : List InterfaceOp) (ip : UInt32) :
    (self.deferralOps ops).flatMap (Deferral.submittedFor ip) = sentTo ip ops := by
  induction ops generalizing self with
  | nil => rfl
  | cons op ops ih =>
      rw [deferralOps, List.flatMap_cons, ih, sentTo, sentTo, List.filterMap_cons]
      cases op with
      | sendDatagram dgram nextHop =>
          simp only [deferralOp, Deferral.submittedFor, Deferral.itemsFor_cons]
          split <;> rfl
      | recvFrame frame =>
          simp only [deferralOp]
          cases heard self.ethernetAddress frame <;> rfl
      | tick ms => rfl

theorem itemsFor_waiting (self : NetworkInterface) (ip : UInt32) :
    Deferral.itemsFor ip self.deferral.waiting = self.queuedFor ip := by
  rw [deferral, queuedFor]
  induction self.dgramDelayQueue with
  | nil => rfl
  | cons delayed rest ih =>
      rw [List.map_cons, Deferral.itemsFor_cons, ih, List.filter_cons]
      by_cases same : delayed.nextHopIp = ip <;> simp [same]

theorem delivers_each_once_in_order (ethernetAddress : EthernetAddress) (ipAddress : Address)
    (ops : List InterfaceOp) (serializable : SendsSerializable ops) :
    let start : NetworkInterface := { ethernetAddress, ipAddress }
    let final := ops.foldl step start
    final.framesOut = (start.emissions ops).flatten ∧ ∃ log : List (List DgramDelivery),
      List.Forall₂ (fun frames deliveries => List.Forall₂ (Carries ethernetAddress) (ipv4Frames frames) deliveries)
        (start.emissions ops) log ∧
      (∀ ip, Deferral.deliveredFor ip log.flatten ++ final.queuedFor ip = sentTo ip ops) ∧
      (∀ n deliveries, log[n]? = some deliveries → ∀ delivery ∈ deliveries,
        lastLearned ethernetAddress (ops.take (n + 1)) delivery.key = some delivery.address) ∧
      ∀ delayed ∈ final.dgramDelayQueue, final.addressTable.lookup delayed.nextHopIp = none := by
  intro start final
  have sendable : start.Sendable := fun _ member => absurd member List.not_mem_nil
  have settled : start.deferral.Settled := fun _ member => absurd member List.not_mem_nil
  have informed : start.deferral.Informed fun _ => none := by
    intro ip address known
    simp [start, deferral] at known
  obtain ⟨state, frames⟩ := run_refines sendable serializable
  refine ⟨start.framesOut_run ops, _, frames, ?_, ?_, ?_⟩
  · intro ip
    have fifo := Deferral.run_fifo settled (start.deferralOps ops) ip
    rwa [← state, itemsFor_waiting, flatMap_submittedFor, itemsFor_waiting] at fifo
  · intro n deliveries handed delivery member
    have learned := Deferral.run_addresses informed (start.deferralOps ops) n deliveries handed delivery member
    rwa [take_deferralOps, foldl_learn] at learned
  · intro delayed member
    have unknown := Deferral.run_settled settled (start.deferralOps ops)
    rw [← state] at unknown
    exact Option.map_eq_none_iff.mp (unknown _ (List.mem_map_of_mem member))

def emptyDgram : IPv4Datagram := { header := { len := 20 } }

def routerReply : EthernetFrame where
  header := { dst := Vector.replicate 6 2, src := Vector.replicate 6 4, type := EthernetHeader.typeArp }
  payload := BufferList.ofBuffer
    (ARPMessage.layout
      { opcode := ARPMessage.opcodeReply
        senderEthernetAddress := Vector.replicate 6 4
        senderIpAddress := 7 })

def mixedRun : List InterfaceOp :=
  [.sendDatagram emptyDgram ⟨7, 0⟩, .sendDatagram emptyDgram ⟨8, 0⟩, .sendDatagram emptyDgram ⟨7, 0⟩,
    .recvFrame routerReply, .tick 20, .sendDatagram emptyDgram ⟨7, 0⟩]

theorem mixedRun_serializable : SendsSerializable mixedRun := by
  intro dgram nextHop member
  have same : dgram = emptyDgram := by
    simp only [mixedRun, List.mem_cons, List.not_mem_nil, or_false, InterfaceOp.sendDatagram.injEq, reduceCtorEq,
      false_or] at member
    rcases member with ⟨same, _⟩ | ⟨same, _⟩ | ⟨same, _⟩ | ⟨same, _⟩ <;> exact same
  subst same
  exact emptyDgram.serialize_ok_iff.mpr (by decide)

theorem delivers_each_once_in_order_mixed :
    SendsSerializable mixedRun ∧ ∃ log : List (List DgramDelivery),
      Deferral.deliveredFor 7 log.flatten = [emptyDgram, emptyDgram, emptyDgram] ∧
      Deferral.deliveredFor 8 log.flatten ++ [emptyDgram] = [emptyDgram] := by
  obtain ⟨_, log, _, fifo, _⟩ :=
    delivers_each_once_in_order (Vector.replicate 6 2) ⟨1, 0⟩ mixedRun mixedRun_serializable
  have sent : sentTo 7 mixedRun = [emptyDgram, emptyDgram, emptyDgram] ∧ sentTo 8 mixedRun = [emptyDgram] := by decide
  have queued :
      (mixedRun.foldl step { ethernetAddress := Vector.replicate 6 2, ipAddress := ⟨1, 0⟩ }).queuedFor 7 = [] ∧
      (mixedRun.foldl step { ethernetAddress := Vector.replicate 6 2, ipAddress := ⟨1, 0⟩ }).queuedFor 8 =
        [emptyDgram] := by
    decide +kernel
  refine ⟨mixedRun_serializable, log, ?_, ?_⟩
  · have first := fifo 7
    rwa [queued.1, List.append_nil, sent.1] at first
  · have second := fifo 8
    rwa [queued.2, sent.2] at second

end Runs

end NetworkInterface

end Sponge
