import Sponge.InterfaceTable

set_option autoImplicit false

namespace Sponge

open Shared

namespace NetworkInterface

structure BringsArp (ethernetAddress : EthernetAddress) (frame : EthernetFrame) (message : ARPMessage) : Prop where
  type : frame.header.type = EthernetHeader.typeArp
  destination : frame.header.dst = ethernetAddress ∨ frame.header.dst = ethernetBroadcast
  payload : ∃ buffer, frame.payload.toBuffer = .ok buffer ∧ ({} : ARPMessage).parse buffer = (.noError, message)

def Affects (self : NetworkInterface) (frame : EthernetFrame) : Prop :=
  let after := self.step (.recvFrame frame)
  (∃ ip, after.addressTable.lookup ip ≠ self.addressTable.lookup ip) ∨
    after.dgramDelayQueue ≠ self.dgramDelayQueue ∨ self.emitted (.recvFrame frame) ≠ []

def dueTo (self : NetworkInterface) (message : ARPMessage) : List DgramDelivery :=
  (self.queuedFor message.senderIpAddress).map fun dgram =>
    ⟨message.senderIpAddress, dgram, message.senderEthernetAddress⟩

structure ArpOnly (iface : NetworkInterface) (frame : EthernetFrame) : Prop where
  affects : iface.Affects frame → ∃ message, BringsArp iface.ethernetAddress frame message
  sends : ∀ message, BringsArp iface.ethernetAddress frame message →
    ∃ released, iface.emitted (.recvFrame frame) = iface.replies message ++ released ∧
      List.Forall₂ (Carries iface.ethernetAddress) released (iface.dueTo message)

structure Repeats (iface : NetworkInterface) (message : ARPMessage) : Prop where
  mapping : iface.addressTable.lookup message.senderIpAddress =
    some (message.senderEthernetAddress, add64 iface.timer 30000)
  unasked : ¬(message.opcode = ARPMessage.opcodeRequest ∧ message.targetIpAddress = iface.ipAddress.ipv4Numeric)

section Acceptance

variable {ethernetAddress : EthernetAddress} {frame : EthernetFrame} {message : ARPMessage}

theorem BringsArp.heard (brings : BringsArp ethernetAddress frame message) :
    heard ethernetAddress frame = some message := by
  obtain ⟨buffer, payload, parsed⟩ := brings.payload
  have here : ¬(frame.header.dst ≠ ethernetAddress ∧ frame.header.dst ≠ ethernetBroadcast) := by
    rcases brings.destination with own | broadcast
    · exact fun elsewhere => elsewhere.1 own
    · exact fun elsewhere => elsewhere.2 broadcast
  have arp : frame.header.type ≠ EthernetHeader.typeIPv4 := by
    rw [brings.type]
    decide
  rw [NetworkInterface.heard, if_neg here, payload]
  simp only [if_neg arp, parsed, if_true]

theorem bringsArp_of_heard (hears : NetworkInterface.heard ethernetAddress frame = some message)
    (type : frame.header.type = EthernetHeader.typeArp) : BringsArp ethernetAddress frame message := by
  rw [NetworkInterface.heard] at hears
  split at hears
  next => simp at hears
  next here =>
    cases payload : frame.payload.toBuffer with
    | error thrown => simp [payload] at hears
    | ok buffer =>
        simp only [payload, type, show EthernetHeader.typeArp ≠ EthernetHeader.typeIPv4 by decide, if_false,
          Option.ite_none_right_eq_some, Option.some.injEq] at hears
        refine ⟨type, ?_, buffer, payload, Prod.ext hears.1 hears.2⟩
        by_contra elsewhere
        exact here (not_or.mp elsewhere)

end Acceptance

section Effect

theorem flush_idle (self : NetworkInterface) {queue : List DelayedDgram}
    (unmapped : ∀ delayed ∈ queue, self.addressTable.lookup delayed.nextHopIp = none) :
    self.flush queue = ([], queue, .ok ()) := by
  induction queue with
  | nil => rfl
  | cons delayed rest ih =>
      have later := ih fun other member => unmapped other (List.mem_cons_of_mem _ member)
      rw [flush, unmapped delayed (List.mem_cons_self ..), later]

theorem not_affects_unheard {self : NetworkInterface} {frame : EthernetFrame}
    (ignores : heard self.ethernetAddress frame = none) : ¬self.Affects frame := by
  simp [Affects, emitted, step_unheard ignores]

variable {self : NetworkInterface} (settled : self.deferral.Settled)
include settled

theorem flush_dueTo (sendable : self.Sendable) (message : ARPMessage) :
    List.Forall₂ (Carries self.ethernetAddress) ((self.learn message).flush self.dgramDelayQueue).1
      (self.dueTo message) := by
  have released := ((self.learn message).flush_deferral sendable).1
  have due := settled.release_learn message.senderIpAddress message.senderEthernetAddress
  rw [itemsFor_waiting] at due
  rw [deferral_learn] at released
  rw [dueTo, ← due]
  exact released

theorem flush_repeats {message : ARPMessage} (repeats : self.Repeats message) :
    (self.learn message).flush self.dgramDelayQueue = ([], self.dgramDelayQueue, .ok ()) := by
  refine flush_idle _ fun delayed member => ?_
  have unmapped : self.addressTable.lookup delayed.nextHopIp = none :=
    Option.map_eq_none_iff.mp (settled _ (List.mem_map_of_mem member))
  have other : delayed.nextHopIp ≠ message.senderIpAddress := by
    intro same
    rw [same, repeats.mapping] at unmapped
    exact Option.some_ne_none _ unmapped
  exact (AList.lookup_insert_ne other).trans unmapped

theorem affects_iff_not_repeats {frame : EthernetFrame} {message : ARPMessage}
    (hears : heard self.ethernetAddress frame = some message) : self.Affects frame ↔ ¬self.Repeats message := by
  have table (ip : UInt32) : (self.step (.recvFrame frame)).addressTable.lookup ip = _ :=
    (congrArg (fun iface => iface.addressTable.lookup ip) (step_heard hears)).trans (self.lookup_afterArp ip message)
  have queue : (self.step (.recvFrame frame)).dgramDelayQueue = _ := congrArg dgramDelayQueue (step_heard hears)
  constructor
  · intro affects repeats
    have idle := flush_repeats settled repeats
    rcases affects with ⟨ip, moved⟩ | moved | moved
    · rw [table] at moved
      split at moved
      next same => exact moved (by rw [← same, repeats.mapping])
      next => exact moved rfl
    · rw [queue] at moved
      exact moved (congrArg (fun flushed => flushed.2.1) idle)
    · rw [emitted_heard hears, replies, if_neg repeats.unasked, idle] at moved
      exact moved rfl
  · intro news
    by_contra still
    simp only [Affects, not_or, not_exists, not_not] at still
    refine news ⟨?_, fun asked => ?_⟩
    · have kept := still.1 message.senderIpAddress
      rwa [table, if_pos rfl, eq_comm] at kept
    · have silent := still.2.2
      rw [emitted_heard hears, replies, if_pos asked] at silent
      exact List.cons_ne_nil _ _ silent

theorem arpOnly_iff_repeats (sendable : self.Sendable) (frame : EthernetFrame) :
    self.ArpOnly frame ↔ (frame.header.type ≠ EthernetHeader.typeArp →
      ∀ message, heard self.ethernetAddress frame = some message → self.Repeats message) := by
  cases hears : heard self.ethernetAddress frame with
  | none =>
      have silent := not_affects_unheard hears
      refine iff_of_true ⟨fun affects => absurd affects silent, fun message brings => ?_⟩ (by simp)
      exact absurd (hears.symm.trans brings.heard) (by simp)
  | some message =>
      by_cases arp : frame.header.type = EthernetHeader.typeArp
      · refine iff_of_true ⟨fun _ => ⟨message, bringsArp_of_heard hears arp⟩, fun told brings => ?_⟩ (absurd arp)
        obtain rfl := Option.some.inj (hears.symm.trans brings.heard)
        exact ⟨_, emitted_heard hears, flush_dueTo settled sendable message⟩
      · -- Taken in without being ARP: the frame may have no effect at all.
        simp only [arp, ne_eq, not_false_eq_true, forall_const, Option.some.injEq, forall_eq']
        constructor
        · intro only
          by_contra news
          obtain ⟨_, brings⟩ := only.affects ((affects_iff_not_repeats settled hears).mpr news)
          exact arp brings.type
        · intro repeats
          refine ⟨fun affects => ?_, fun _ brings => absurd brings.type arp⟩
          exact absurd repeats ((affects_iff_not_repeats settled hears).mp affects)

end Effect

theorem recv_frame_arp_only (ethernetAddress : EthernetAddress) (ipAddress : Address) (ops : List InterfaceOp)
    (serializable : SendsSerializable ops) (frame : EthernetFrame) :
    let iface := ops.foldl step { ethernetAddress, ipAddress }
    iface.ArpOnly frame ↔ (frame.header.type ≠ EthernetHeader.typeArp →
      ∀ message, heard ethernetAddress frame = some message → iface.Repeats message) := by
  intro iface
  have initial : Sendable { ethernetAddress, ipAddress } := fun _ member => absurd member List.not_mem_nil
  have settled : iface.deferral.Settled := by
    rw [(run_refines initial serializable).1]
    exact Deferral.run_settled (fun _ member => absurd member List.not_mem_nil) _
  have decided := arpOnly_iff_repeats settled (run_sendable initial serializable) frame
  rwa [run_ethernetAddress] at decided

theorem recv_frame_arp_only_mixed :
    SendsSerializable mixedRun ∧
      (mixedRun.foldl step { ethernetAddress := Vector.replicate 6 2, ipAddress := ⟨1, 0⟩ }).ArpOnly routerReply := by
  have decided := recv_frame_arp_only (Vector.replicate 6 2) ⟨1, 0⟩ mixedRun mixedRun_serializable routerReply
  exact ⟨mixedRun_serializable, decided.mpr fun other => absurd rfl other⟩

def mistypedReply : EthernetFrame := { routerReply with header := { routerReply.header with type := 0x86dd } }

-- The first datagram does not say its own length, so the walk ends at it and the second one stays as well.
def blockedRun : List InterfaceOp := [.sendDatagram {} ⟨7, 0⟩, .sendDatagram emptyDgram ⟨7, 0⟩]

theorem recv_frame_not_arp_only :
    ¬ArpOnly { ethernetAddress := Vector.replicate 6 2, ipAddress := ⟨1, 0⟩ } mistypedReply ∧
      ¬ArpOnly (blockedRun.foldl step { ethernetAddress := Vector.replicate 6 2, ipAddress := ⟨1, 0⟩ })
        routerReply := by
  constructor
  · intro only
    obtain ⟨message, brings⟩ := only.affects (.inl ⟨7, by decide +kernel⟩)
    exact absurd brings.type (by decide)
  · intro only
    let message : ARPMessage :=
      { opcode := ARPMessage.opcodeReply, senderEthernetAddress := Vector.replicate 6 4, senderIpAddress := 7 }
    have brings : BringsArp (Vector.replicate 6 2) routerReply message :=
      ⟨rfl, .inl rfl, message.layout, rfl, ARPMessage.parse_layout rfl _⟩
    obtain ⟨released, sent, carried⟩ := only.sends message brings
    have silent : NetworkInterface.emitted
        (blockedRun.foldl step { ethernetAddress := Vector.replicate 6 2, ipAddress := ⟨1, 0⟩ })
        (.recvFrame routerReply) = [] := by decide +kernel
    rw [silent] at sent
    obtain ⟨_, rfl⟩ := List.append_eq_nil_iff.mp sent.symm
    exact absurd carried.length_eq (by decide +kernel)

end NetworkInterface

end Sponge
