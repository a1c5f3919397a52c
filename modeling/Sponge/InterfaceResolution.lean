import Sponge.DatagramPassage
import Sponge.Shared.Resolution

set_option autoImplicit false

namespace Sponge

open Shared

namespace IPv4Datagram

def resent (dgram : IPv4Datagram) : IPv4Datagram :=
  ⟨{ dgram.header with cksum := dgram.header.computedCksum }, .ofBuffer dgram.payload.concatenate⟩

variable {dgram : IPv4Datagram}

-- The checksum is computed anew at every hop, and its old value does not count.
theorem resent_forwarded_resent (dgram : IPv4Datagram) :
    (Router.forwarded dgram.resent).resent = (Router.forwarded dgram).resent := by
  simp only [resent, Router.forwarded, BufferList.concatenate_ofBuffer]
  rfl

theorem WellFormed.resent (formed : dgram.WellFormed) : dgram.resent.WellFormed where
  version := formed.version
  long := formed.long
  short := formed.short
  offset := formed.offset
  totalLength := by
    rw [IPv4Datagram.resent, BufferList.size_ofBuffer, ← BufferList.size_eq]
    exact formed.totalLength

theorem WellFormed.forwarded (formed : dgram.WellFormed) : (Router.forwarded dgram).WellFormed :=
  ⟨formed.version, formed.long, formed.short, formed.offset, formed.totalLength⟩

theorem WellFormed.serialize_eq (formed : dgram.WellFormed) :
    dgram.serialize = .ok ((BufferList.ofBuffer dgram.header.sealedBytes).append dgram.payload) :=
  IPv4Datagram.serialize_eq formed.version formed.long formed.size

theorem WellFormed.serializable (formed : dgram.WellFormed) : dgram.Serializable := ⟨_, formed.serialize_eq⟩

theorem WellFormed.parse_written (formed : dgram.WellFormed) {payload : BufferList}
    (written : dgram.serialize = .ok payload) (before : IPv4Datagram) :
    before.parse payload.concatenate = (.noError, dgram.resent) := by
  rw [formed.serialize_eq] at written
  cases written
  rw [BufferList.concatenate_append, BufferList.concatenate_ofBuffer]
  exact formed.parse_sealed before

end IPv4Datagram

section Frames

variable {S : Type} (mac : S → EthernetAddress) (ip : S → UInt32)

structure ARPMessage.SentBy (sender : S) (message : ARPMessage) : Prop where
  supported : message.supported
  ipAddress : message.senderIpAddress = ip sender
  ethernetAddress : message.senderEthernetAddress = mac sender

def EthernetFrame.Conveys (frame : EthernetFrame) : Notice S UInt32 IPv4Datagram → Prop
  | .request sender target => frame.header = ⟨ethernetBroadcast, mac sender, EthernetHeader.typeArp⟩ ∧
      ∃ message : ARPMessage, message.SentBy mac ip sender ∧ frame.payload.concatenate = message.layout ∧
        message.opcode = ARPMessage.opcodeRequest ∧ message.targetIpAddress = target
  | .reply sender receiver => frame.header = ⟨mac receiver, mac sender, EthernetHeader.typeArp⟩ ∧
      ∃ message : ARPMessage, message.SentBy mac ip sender ∧ frame.payload.concatenate = message.layout ∧
        message.opcode = ARPMessage.opcodeReply
  | .data sender receiver item => frame.header = ⟨mac receiver, mac sender, EthernetHeader.typeIPv4⟩ ∧
      ∃ (dgram : IPv4Datagram) (payload : BufferList), dgram.WellFormed ∧ dgram.serialize = .ok payload ∧
        frame.payload.concatenate = payload.concatenate ∧ dgram.resent = item

variable {mac ip}

theorem EthernetFrame.Conveys.of_content {frame other : EthernetFrame} {notice : Notice S UInt32 IPv4Datagram}
    (conveys : frame.Conveys mac ip notice) (header : other.header = frame.header)
    (content : other.payload.concatenate = frame.payload.concatenate) : other.Conveys mac ip notice := by
  cases notice with
  | request sender target => rwa [Conveys, header, content]
  | reply sender receiver => rwa [Conveys, header, content]
  | data sender receiver item => rwa [Conveys, header, content]

end Frames

namespace DelayedDgram

structure Waits (delayed : DelayedDgram) (entry : UInt32 × IPv4Datagram) : Prop where
  hop : delayed.nextHopIp = entry.1
  formed : delayed.dgram.WellFormed
  item : delayed.dgram.resent = entry.2

end DelayedDgram

namespace AsyncNetworkInterface

variable {S : Type} (mac : S → EthernetAddress) (ip : S → UInt32) (me : S)

structure Represents (iface : AsyncNetworkInterface) (r : Resolver S UInt32 IPv4Datagram) : Prop where
  ethernetAddress : iface.ethernetAddress = mac me
  ipAddress : iface.ipAddress.ipv4Numeric = ip me
  known : iface.deferral.known = fun key => (r.deferral.known key).map mac
  waiting : List.Forall₂ DelayedDgram.Waits iface.dgramDelayQueue r.deferral.waiting
  frames : List.Forall₂ (EthernetFrame.Conveys mac ip) iface.framesOut r.out
  received : iface.datagramsOut = r.inbox.map Prod.snd
  formed : ∀ dgram ∈ iface.datagramsOut, dgram.WellFormed

end AsyncNetworkInterface

namespace NetworkInterface

variable {S : Type} {mac : S → EthernetAddress} {me : S}

theorem flush_conveys (ip : S → UInt32) {iface : NetworkInterface} (address : iface.ethernetAddress = mac me)
    {known : UInt32 → Option S} (table : iface.deferral.known = fun key => (known key).map mac)
    {queue : List DelayedDgram} {waiting : List (UInt32 × IPv4Datagram)}
    (waits : List.Forall₂ DelayedDgram.Waits queue waiting) :
    List.Forall₂ (EthernetFrame.Conveys mac ip) (iface.flush queue).1
        ((Deferral.release known waiting).map fun delivery => .data me delivery.address delivery.item) ∧
      List.Forall₂ DelayedDgram.Waits (iface.flush queue).2.1 (Deferral.keep known waiting) := by
  induction waits with
  | nil => exact ⟨.nil, .nil⟩
  | @cons delayed entry queue waiting first rest ih =>
      obtain ⟨frames, kept⟩ := ih
      have lookup := congrFun table delayed.nextHopIp
      simp only [deferral, first.hop] at lookup
      rw [flush, first.hop]
      cases found : known entry.1 with
      | none =>
          rw [found, Option.map_none, Option.map_eq_none_iff] at lookup
          simp only [Deferral.release, Deferral.keep, List.filterMap_cons, List.filter_cons, found,
            lookup] at frames kept ⊢
          exact ⟨frames, .cons first kept⟩
      | some station =>
          rw [found, Option.map_some, Option.map_eq_some_iff] at lookup
          obtain ⟨mapping, mapped, same⟩ := lookup
          have written := first.formed.serialize_eq
          simp only [Deferral.release, Deferral.keep, List.filterMap_cons, List.filter_cons, found, mapped,
            written] at frames kept ⊢
          refine ⟨.cons ⟨?_, delayed.dgram, _, first.formed, written, rfl, first.item⟩ frames, kept⟩
          simp only [ipv4Frame, same, address]

theorem recvFrame_elsewhere {iface : NetworkInterface} {frame : EthernetFrame}
    (other : frame.header.dst ≠ iface.ethernetAddress) (unicast : frame.header.dst ≠ ethernetBroadcast) :
    iface.recvFrame frame = (iface, .ok none) := by
  rw [recvFrame, if_pos ⟨other, unicast⟩]

variable (iface : NetworkInterface) {frame : EthernetFrame}
  (mine : frame.header.dst = iface.ethernetAddress ∨ frame.header.dst = ethernetBroadcast)
  (contiguous : frame.payload.Contiguous)
include mine contiguous

theorem recvFrame_arp (arp : frame.header.type = EthernetHeader.typeArp) {message : ARPMessage}
    (supported : message.supported) (content : frame.payload.concatenate = message.layout) :
    iface.recvFrame frame = iface.recvArp message := by
  have other : frame.header.type ≠ EthernetHeader.typeIPv4 := arp ▸ by decide
  rw [recvFrame, if_neg (not_and_or.mpr (mine.imp not_not.mpr not_not.mpr)),
    BufferList.toBuffer_of_contiguous contiguous, content]
  simp only [if_neg other, ARPMessage.parse_layout supported, ne_eq, not_true_eq_false, if_false]

theorem recvFrame_datagram (ipv4 : frame.header.type = EthernetHeader.typeIPv4) {dgram : IPv4Datagram}
    (parsed : ({} : IPv4Datagram).parse frame.payload.concatenate = (.noError, dgram)) :
    iface.recvFrame frame = (iface, .ok (some dgram)) := by
  rw [recvFrame, if_neg (not_and_or.mpr (mine.imp not_not.mpr not_not.mpr)),
    BufferList.toBuffer_of_contiguous contiguous]
  simp only [if_pos ipv4, parsed, if_true]

end NetworkInterface

namespace AsyncNetworkInterface.Represents

variable {S : Type} {mac : S → EthernetAddress} {ip : S → UInt32} {me : S}
  {iface : AsyncNetworkInterface} {r : Resolver S UInt32 IPv4Datagram} (represents : iface.Represents mac ip me r)
include represents

theorem sendable : iface.toNetworkInterface.Sendable := by
  intro delayed member
  obtain ⟨n, within, same⟩ := List.getElem_of_mem member
  exact same ▸ ((List.forall₂_iff_get.mp represents.waiting).2 n within
    (represents.waiting.length_eq ▸ within)).formed.serializable

theorem sound : iface.Sound := ⟨represents.sendable, fun dgram member => (represents.formed dgram member).serializable⟩

theorem learn {message : ARPMessage} {sender : S} (sent : message.SentBy mac ip sender)
    {notes : List (Notice S UInt32 IPv4Datagram)}
    (replies : List.Forall₂ (EthernetFrame.Conveys mac ip) (iface.replies message) notes) :
    ({ iface with toNetworkInterface := iface.afterArp message } : AsyncNetworkInterface).Represents mac ip me
      (r.act me (.learn (ip sender) sender) notes) := by
  have table : (iface.learn message).deferral.known =
      fun key => (Function.update r.deferral.known (ip sender) (some sender) key).map mac := by
    rw [NetworkInterface.deferral_learn, represents.known, sent.ipAddress, sent.ethernetAddress]
    funext key
    by_cases same : key = ip sender
    · simp [same]
    · simp [same]
  have address : (iface.learn message).ethernetAddress = mac me := represents.ethernetAddress
  obtain ⟨frames, kept⟩ := NetworkInterface.flush_conveys ip address table represents.waiting
  refine ⟨represents.ethernetAddress, represents.ipAddress, table, kept, ?_, represents.received, represents.formed⟩
  exact List.rel_append represents.frames (List.rel_append replies frames)

theorem recvArp {message : ARPMessage} {sender : S} (sent : message.SentBy mac ip sender)
    {notes : List (Notice S UInt32 IPv4Datagram)}
    (replies : List.Forall₂ (EthernetFrame.Conveys mac ip) (iface.replies message) notes) {frame : EthernetFrame}
    (taken : iface.toNetworkInterface.recvFrame frame = iface.recvArp message) :
    (iface.recvFrame frame).2 = .ok () ∧
      (iface.recvFrame frame).1.Represents mac ip me (r.act me (.learn (ip sender) sender) notes) := by
  have flushed := (iface.learn message).flush_ok represents.sendable
  rw [NetworkInterface.recvArp_eq] at taken
  rw [AsyncNetworkInterface.recvFrame, taken, flushed]
  exact ⟨rfl, represents.learn sent replies⟩

theorem ignored {frame : EthernetFrame} (other : frame.header.dst ≠ mac me)
    (unicast : frame.header.dst ≠ ethernetBroadcast) :
    (iface.recvFrame frame).2 = .ok () ∧ (iface.recvFrame frame).1.Represents mac ip me r := by
  rw [← represents.ethernetAddress] at other
  rw [AsyncNetworkInterface.recvFrame, NetworkInterface.recvFrame_elsewhere other unicast]
  exact ⟨rfl, represents⟩

theorem recvFrame [DecidableEq S] (injective : Function.Injective mac)
    (unicast : ∀ station, mac station ≠ ethernetBroadcast) {frame : EthernetFrame}
    (contiguous : frame.payload.Contiguous) {notice : Notice S UInt32 IPv4Datagram}
    (conveys : frame.Conveys mac ip notice) :
    (iface.recvFrame frame).2 = .ok () ∧ (iface.recvFrame frame).1.Represents mac ip me (r.hear ip me notice) := by
  cases notice with
  | request sender target =>
      obtain ⟨header, message, sent, content, request, rfl⟩ := conveys
      have taken := iface.recvFrame_arp (.inr (congrArg EthernetHeader.dst header)) contiguous
        (congrArg EthernetHeader.type header) sent.supported content
      refine represents.recvArp sent ?_ taken
      rw [NetworkInterface.replies, represents.ipAddress]
      by_cases asked : message.targetIpAddress = ip me
      · rw [if_pos ⟨request, asked⟩, if_pos asked]
        refine .cons ⟨?_, iface.arpReply message, ⟨rfl, represents.ipAddress, represents.ethernetAddress⟩, ?_, rfl⟩ .nil
        · simp only [NetworkInterface.arpFrame, sent.ethernetAddress, represents.ethernetAddress]
        · exact BufferList.concatenate_ofBuffer _
      · rw [if_neg fun both => asked both.2, if_neg asked]
        exact .nil
  | reply sender receiver =>
      obtain ⟨header, message, sent, content, reply⟩ := conveys
      have dst : frame.header.dst = mac receiver := congrArg EthernetHeader.dst header
      rw [Resolver.hear]
      split
      next mine =>
        have taken := iface.recvFrame_arp (.inl (dst.trans (mine ▸ represents.ethernetAddress.symm))) contiguous
          (congrArg EthernetHeader.type header) sent.supported content
        refine represents.recvArp sent ?_ taken
        rw [NetworkInterface.replies, if_neg fun both => absurd (reply.symm.trans both.1) (by decide)]
        exact .nil
      next elsewhere =>
        exact represents.ignored (fun same => elsewhere (injective (dst.symm.trans same))) (dst ▸ unicast receiver)
  | data sender receiver item =>
      obtain ⟨header, dgram, payload, formed, written, content, rfl⟩ := conveys
      have dst : frame.header.dst = mac receiver := congrArg EthernetHeader.dst header
      rw [Resolver.hear]
      split
      next mine =>
        have taken := iface.recvFrame_datagram (.inl (dst.trans (mine ▸ represents.ethernetAddress.symm))) contiguous
          (congrArg EthernetHeader.type header) (content ▸ formed.parse_written written {})
        rw [AsyncNetworkInterface.recvFrame, taken]
        refine ⟨rfl, represents.ethernetAddress, represents.ipAddress, represents.known, represents.waiting,
          represents.frames, ?_, fun arrived member => ?_⟩
        · rw [represents.received, List.map_append]
          rfl
        · rcases List.mem_append.mp member with before | last
          · exact represents.formed arrived before
          · rw [List.mem_singleton.mp last]
            exact formed.resent
      next elsewhere =>
        exact represents.ignored (fun same => elsewhere (injective (dst.symm.trans same))) (dst ▸ unicast receiver)

theorem tick (ms : Nat) :
    ∃ gone, (iface.tick ms).Represents mac ip me (r.forget me gone) := by
  refine ⟨fun key => ((iface.toNetworkInterface.tick ms).addressTable.lookup key).isNone, represents.ethernetAddress,
    represents.ipAddress, ?_, represents.waiting, ?_, represents.received, represents.formed⟩
  · have state := congrArg Deferral.known (NetworkInterface.tick_simulates represents.sendable ms).state
    refine state.trans (funext fun key => ?_)
    simp only [NetworkInterface.deferralOp, Deferral.step, represents.known, Resolver.forget, Resolver.act]
    split <;> rfl
  · have unchanged : (r.forget me fun key =>
        ((iface.toNetworkInterface.tick ms).addressTable.lookup key).isNone).out = r.out := List.append_nil _
    rw [unchanged]
    exact represents.frames

theorem waits_of_pending {hop : UInt32} (pending : iface.pending hop) :
    Deferral.itemsFor hop r.deferral.waiting ≠ [] := by
  obtain ⟨delayed, member, waits⟩ := List.any_eq_true.mp pending
  obtain ⟨n, within, same⟩ := List.getElem_of_mem member
  have there : n < r.deferral.waiting.length := represents.waiting.length_eq ▸ within
  have entry := (List.forall₂_iff_get.mp represents.waiting).2 n within there
  have hops : delayed.nextHopIp = hop := by
    rw [Bool.and_eq_true, beq_iff_eq] at waits
    exact waits.1
  refine List.ne_nil_of_mem (List.mem_filterMap.mpr ⟨_, List.get_mem r.deferral.waiting ⟨n, there⟩, if_pos ?_⟩)
  rw [← entry.hop, ← hops, ← same]
  rfl

theorem sendDatagram_unmapped {nextHop : Address}
    (unmapped : iface.addressTable.lookup nextHop.ipv4Numeric = none) (dgram : IPv4Datagram) :
    ∃ (asks : Bool) (timeout : Nat) (frames : List EthernetFrame),
      (asks = true ∨ Deferral.itemsFor nextHop.ipv4Numeric r.deferral.waiting ≠ []) ∧
      iface.toNetworkInterface.sendDatagram dgram nextHop =
        ((iface.delay dgram nextHop.ipv4Numeric timeout).pushFrames frames, .ok ()) ∧
      List.Forall₂ (EthernetFrame.Conveys mac ip) frames (if asks then [.request me nextHop.ipv4Numeric] else []) := by
  by_cases pending : iface.pending nextHop.ipv4Numeric
  · refine ⟨false, iface.timer, [], .inr (represents.waits_of_pending pending), ?_, .nil⟩
    rw [NetworkInterface.sendDatagram_pending unmapped pending, NetworkInterface.pushFrames, List.append_nil]
  · refine ⟨true, _, _, .inl rfl, NetworkInterface.sendDatagram_asking unmapped pending dgram, ?_⟩
    refine .cons ⟨?_, iface.arpRequest nextHop.ipv4Numeric,
      ⟨rfl, represents.ipAddress, represents.ethernetAddress⟩, ?_, rfl, rfl⟩ .nil
    · simp only [NetworkInterface.arpFrame, represents.ethernetAddress]
    · exact BufferList.concatenate_ofBuffer _

theorem sendDatagram {dgram : IPv4Datagram} (formed : dgram.WellFormed) (nextHop : Address) :
    ∃ asks, (asks = true ∨ Deferral.itemsFor nextHop.ipv4Numeric r.deferral.waiting ≠ []) ∧
      (iface.sendDatagram dgram nextHop).2 = .ok () ∧
      (iface.sendDatagram dgram nextHop).1.Represents mac ip me
        (r.submit me nextHop.ipv4Numeric dgram.resent asks) := by
  have table := congrFun represents.known nextHop.ipv4Numeric
  simp only [NetworkInterface.deferral] at table
  cases known : r.deferral.known nextHop.ipv4Numeric with
  | some station =>
      rw [known, Option.map_some, Option.map_eq_some_iff] at table
      obtain ⟨mapping, mapped, same⟩ := table
      refine ⟨true, .inl rfl, ?_⟩
      rw [AsyncNetworkInterface.sendDatagram, NetworkInterface.sendDatagram_mapped mapped, formed.serialize_eq]
      refine ⟨rfl, represents.ethernetAddress, represents.ipAddress, ?_, ?_, ?_, represents.received, represents.formed⟩
      · simp only [Resolver.submit, Resolver.act, Deferral.step, known]
        exact represents.known
      · simp only [Resolver.submit, Resolver.act, Deferral.step, known]
        exact represents.waiting
      · simp only [Resolver.submit, Resolver.act, Deferral.delivered, Deferral.release, known, List.filterMap_cons]
        refine List.rel_append represents.frames (.cons ⟨?_, dgram, _, formed, formed.serialize_eq, rfl, rfl⟩ .nil)
        simp only [NetworkInterface.ipv4Frame, same, represents.ethernetAddress]
  | none =>
      rw [known, Option.map_none, Option.map_eq_none_iff] at table
      obtain ⟨asks, timeout, frames, legal, sent, asking⟩ := represents.sendDatagram_unmapped table dgram
      refine ⟨asks, legal, ?_⟩
      rw [AsyncNetworkInterface.sendDatagram, sent]
      refine ⟨rfl, represents.ethernetAddress, represents.ipAddress, ?_, ?_, ?_, represents.received, represents.formed⟩
      · simp only [Resolver.submit, Resolver.act, Deferral.step, known]
        exact represents.known
      · simp only [Resolver.submit, Resolver.act, Deferral.step, known]
        exact List.rel_append represents.waiting (.cons ⟨rfl, formed, rfl⟩ .nil)
      · simp only [Resolver.submit, Resolver.act, Deferral.delivered, Deferral.release, known, List.filterMap_cons,
          List.filterMap_nil, Option.map_none, List.map_nil, List.append_nil, and_true]
        exact List.rel_append represents.frames asking

end AsyncNetworkInterface.Represents

end Sponge
