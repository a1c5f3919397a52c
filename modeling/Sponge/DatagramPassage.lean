import Sponge.EthernetCodec
import Sponge.RouterSafety

set_option autoImplicit false

namespace Sponge

open Shared

namespace IPv4Datagram

structure FieldsFit (dgram : IPv4Datagram) : Prop where
  hlen : dgram.header.hlen.toNat ≤ 15
  offset : dgram.header.offset.toNat < 2 ^ 13

variable {self before arrived : IPv4Datagram}

theorem fieldsFit_of_parse {bytes : Bytes} (parsed : ({} : IPv4Datagram).parse bytes = (.noError, arrived)) :
    arrived.FieldsFit := by
  have long := long_of_parse parsed
  have header : arrived.header = IPv4Header.ofBytes bytes := by
    by_cases framed : WellFramed bytes
    · rw [parse_framed long _ framed] at parsed
      cases parsed
      rfl
    · rw [parse_unframed long _ framed] at parsed
      obtain ⟨-, rfl⟩ := Prod.mk.inj parsed
      rfl
  constructor
  · rw [header, ofBytes_hlen long]
    exact Nat.le_of_lt_succ (Nat.mod_lt _ (by decide))
  · rw [header]
    simp only [IPv4Header.ofBytes, UInt16.toNat_and, UInt16.reduceToNat]
    exact Nat.and_lt_two_pow _ (by decide)

theorem contiguous_of_parse {bytes : Bytes}
    (parsed : before.parse bytes = (.noError, arrived)) : arrived.payload.Contiguous := by
  have contiguous : (before.parse bytes).2.payload.Contiguous := by
    unfold parse
    generalize before.header.parse ⟨bytes, .noError⟩ = called
    obtain ⟨⟨_, header⟩, p⟩ := called
    dsimp only
    split <;> exact Nat.le_refl 1
  rwa [parsed] at contiguous

-- A datagram that is written and accepted again comes back as it was, whether its lengths add up or wrap around.
theorem resent_eq (fits : self.FieldsFit) {bytes : BufferList} (written : self.serialize = .ok bytes)
    (parsed : before.parse bytes.concatenate = (.noError, arrived)) :
    arrived = ⟨{ self.header with cksum := self.header.computedCksum }, .ofBuffer self.payload.concatenate⟩ := by
  obtain ⟨version, headerLong, size⟩ := self.serialize_ok_iff.mp ⟨bytes, written⟩
  rw [serialize_eq version headerLong size] at written
  cases written
  rw [BufferList.concatenate_append, BufferList.concatenate_ofBuffer] at parsed
  have header : IPv4Header.ofBytes (self.header.sealedBytes ++ self.payload.concatenate) =
      { self.header with cksum := self.header.computedCksum } :=
    @IPv4Header.ofBytes_layout { self.header with cksum := self.header.computedCksum } version
      (Nat.lt_succ_of_le fits.hlen) fits.offset self.payload.concatenate
  have sealedLength := IPv4Header.sealedBytes_length headerLong
  have length : (self.header.sealedBytes ++ self.payload.concatenate).length =
      4 * self.header.hlen.toNat + self.payload.size := by
    rw [List.length_append, sealedLength, BufferList.size_eq]
  have long : 20 ≤ (self.header.sealedBytes ++ self.payload.concatenate).length := by omega
  have nibble : headerLengthNibble (self.header.sealedBytes ++ self.payload.concatenate) = self.header.hlen.toNat := by
    rw [← ofBytes_hlen long, header]
  have total : totalLengthField (self.header.sealedBytes ++ self.payload.concatenate) = self.header.len.toNat := by
    rw [← ofBytes_len long, header]
  by_cases framed : WellFramed (self.header.sealedBytes ++ self.payload.concatenate)
  · rw [parse_framed long before framed, header, nibble, List.drop_left' sealedLength] at parsed
    exact (Prod.mk.inj parsed).2.symm
  · rw [parse_unframed long before framed, header, nibble, total, ← payloadLength_toNat, ← size, length] at parsed
    obtain ⟨accepted, same⟩ := Prod.mk.inj parsed
    -- With options the payload would have been read from too early on.
    have plain : 4 * self.header.hlen.toNat = 20 := by
      split at accepted
      · omega
      · cases accepted
    rw [List.drop_left' (sealedLength.trans plain)] at same
    exact same.symm

end IPv4Datagram

structure Lasting (P : IPv4Datagram → Prop) : Prop where
  resent : ∀ dgram payload arrived, P dgram → dgram.serialize = .ok payload →
    ({} : IPv4Datagram).parse payload.concatenate = (.noError, arrived) → P arrived
  forwarded : ∀ dgram, P dgram → P (Router.forwarded dgram)

def EthernetFrame.Brings (P : IPv4Datagram → Prop) (frame : EthernetFrame) : Prop :=
  frame.header.type = EthernetHeader.typeIPv4 →
    ∀ dgram, ({} : IPv4Datagram).parse frame.payload.concatenate = (.noError, dgram) → P dgram

theorem forall_parsed {α : Type} {outcome : ParseResult × α} {P : α → Prop} :
    (outcome.1 = .noError → P outcome.2) ↔ ∀ x, outcome = (.noError, x) → P x := by
  constructor
  · rintro holds x rfl
    exact holds rfl
  · intro all accepted
    exact all outcome.2 (by rw [← accepted])

instance (P : IPv4Datagram → Prop) [DecidablePred P] (frame : EthernetFrame) : Decidable (frame.Brings P) :=
  decidable_of_iff (frame.header.type = EthernetHeader.typeIPv4 →
      (({} : IPv4Datagram).parse frame.payload.concatenate).1 = .noError →
        P (({} : IPv4Datagram).parse frame.payload.concatenate).2)
    (imp_congr_right fun _ => forall_parsed)

theorem EthernetFrame.brings_arp {P : IPv4Datagram → Prop} {frame : EthernetFrame}
    (arp : frame.header.type = EthernetHeader.typeArp) : frame.Brings P :=
  fun ipv4 => absurd (arp.symm.trans ipv4) (by decide)

theorem BufferList.concatenate_of_toBuffer {self : BufferList} {buffer : Bytes} (taken : self.toBuffer = .ok buffer) :
    self.concatenate = buffer := by
  obtain ⟨buffers⟩ := self
  match buffers, taken with
  | [], taken => cases taken; rfl
  | [_], taken => cases taken; simp [concatenate]

namespace NetworkInterface

structure Holds (P : IPv4Datagram → Prop) (iface : NetworkInterface) : Prop where
  queue : ∀ delayed ∈ iface.dgramDelayQueue, P delayed.dgram
  frames : ∀ frame ∈ iface.framesOut, frame.Brings P

variable {P : IPv4Datagram → Prop} {self : NetworkInterface}

theorem Holds.mono {Q : IPv4Datagram → Prop} (holds : self.Holds P) (weaker : ∀ dgram, P dgram → Q dgram) :
    self.Holds Q where
  queue := fun delayed member => weaker _ (holds.queue delayed member)
  frames := fun frame member ipv4 dgram parsed => weaker _ (holds.frames frame member ipv4 dgram parsed)

theorem flush_written (self : NetworkInterface) (queue : List DelayedDgram) :
    ∀ frame ∈ (self.flush queue).1, ∃ delayed ∈ queue, ∃ payload,
      delayed.dgram.serialize = .ok payload ∧ frame.payload = payload := by
  fun_induction self.flush queue with
  | case1 => simp
  | case2 _ _ _ _ _ _ flushed ih =>
      intro frame member
      obtain ⟨delayed, waiting, written⟩ := ih frame (by rwa [flushed])
      exact ⟨delayed, List.mem_cons_of_mem _ waiting, written⟩
  | case3 => simp
  | case4 delayed _ _ _ _ payload written _ _ _ flushed ih =>
      intro frame member
      rcases List.mem_cons.mp member with rfl | later
      · exact ⟨delayed, List.mem_cons_self, payload, written, rfl⟩
      · obtain ⟨other, waiting, written⟩ := ih frame (by rwa [flushed])
        exact ⟨other, List.mem_cons_of_mem _ waiting, written⟩

theorem recvFrame_returned {frame : EthernetFrame} {dgram : IPv4Datagram}
    (returned : (self.recvFrame frame).2 = .ok (some dgram)) :
    frame.header.type = EthernetHeader.typeIPv4 ∧
      ({} : IPv4Datagram).parse frame.payload.concatenate = (.noError, dgram) := by
  rw [recvFrame] at returned
  split at returned
  · cases returned
  cases taken : frame.payload.toBuffer with
  | error thrown =>
      rw [taken] at returned
      cases returned
  | ok buffer =>
      rw [taken] at returned
      dsimp only at returned
      split at returned
      next ipv4 =>
        rw [BufferList.concatenate_of_toBuffer taken]
        cases parsed : ({} : IPv4Datagram).parse buffer with
        | mk result arrived =>
            rw [parsed] at returned
            dsimp only at returned
            split at returned
            next accepted =>
              cases returned
              exact ⟨ipv4, by rw [accepted]⟩
            next => cases returned
      next =>
        split at returned
        · cases returned
        · rw [recvArp_eq] at returned
          dsimp only at returned
          cases thrown : ((self.learn _).flush self.dgramDelayQueue).2.2 with
          | ok _ =>
              rw [thrown] at returned
              cases returned
          | error what =>
              rw [thrown] at returned
              cases returned

variable (lasting : Lasting P) (holds : self.Holds P)
include lasting holds

theorem Holds.sendDatagram {dgram : IPv4Datagram} (sent : P dgram) (nextHop : Address) :
    (self.sendDatagram dgram nextHop).1.Holds P := by
  cases mapped : self.addressTable.lookup nextHop.ipv4Numeric with
  | some mapping =>
      rw [sendDatagram_mapped mapped]
      cases written : dgram.serialize with
      | error thrown => exact holds
      | ok payload =>
          refine ⟨holds.queue, fun frame member => ?_⟩
          rcases List.mem_append.mp member with before | last
          · exact holds.frames frame before
          · rw [List.mem_singleton.mp last]
            exact fun _ arrived parsed => lasting.resent dgram payload arrived sent written parsed
  | none =>
      obtain ⟨timeout, frames, after, arp⟩ := step_send_unmapped mapped dgram
      change (self.step (.sendDatagram dgram nextHop)).Holds P
      rw [after]
      constructor
      · intro delayed member
        rcases List.mem_append.mp member with before | last
        · exact holds.queue delayed before
        · rw [List.mem_singleton.mp last]
          exact sent
      · intro frame member
        rcases List.mem_append.mp member with before | last
        · exact holds.frames frame before
        · exact EthernetFrame.brings_arp (arp frame last)

theorem Holds.afterArp (message : ARPMessage) : (self.afterArp message).Holds P where
  queue := fun delayed member => holds.queue delayed ((flush_sublist _ _).subset member)
  frames := by
    intro frame member
    rcases List.mem_append.mp member with before | new
    · exact holds.frames frame before
    · rcases List.mem_append.mp new with reply | flushed
      · exact EthernetFrame.brings_arp (self.replies_frames message frame reply)
      · obtain ⟨delayed, waiting, payload, written, same⟩ := flush_written _ _ frame flushed
        intro _ arrived parsed
        rw [same] at parsed
        exact lasting.resent _ payload arrived (holds.queue delayed waiting) written parsed

theorem Holds.recvFrame {frame : EthernetFrame} (brings : frame.Brings P) :
    (self.recvFrame frame).1.Holds P ∧ ∀ dgram, (self.recvFrame frame).2 = .ok (some dgram) → P dgram := by
  constructor
  · change (self.step (.recvFrame frame)).Holds P
    cases hears : heard self.ethernetAddress frame with
    | none =>
        rw [step_unheard hears]
        exact holds
    | some message =>
        rw [step_heard hears]
        exact holds.afterArp lasting message
  · intro dgram returned
    obtain ⟨ipv4, parsed⟩ := recvFrame_returned returned
    exact brings ipv4 dgram parsed

omit lasting in
theorem Holds.tick (ms : Nat) : (self.tick ms).Holds P := ⟨holds.queue, holds.frames⟩

end NetworkInterface

namespace AsyncNetworkInterface

structure Holds (P : IPv4Datagram → Prop) (iface : AsyncNetworkInterface) : Prop where
  interface : iface.toNetworkInterface.Holds P
  received : ∀ dgram ∈ iface.datagramsOut, P dgram

theorem holds_of_idle {P : IPv4Datagram → Prop} {iface : AsyncNetworkInterface} (unsent : iface.dgramDelayQueue = [])
    (silent : iface.framesOut = []) (unrouted : iface.datagramsOut = []) : iface.Holds P where
  interface := ⟨by simp [unsent], by simp [silent]⟩
  received := by simp [unrouted]

variable {P : IPv4Datagram → Prop} {self : AsyncNetworkInterface}

theorem Holds.mono {Q : IPv4Datagram → Prop} (holds : self.Holds P) (weaker : ∀ dgram, P dgram → Q dgram) :
    self.Holds Q :=
  ⟨holds.interface.mono weaker, fun dgram member => weaker _ (holds.received dgram member)⟩

theorem Holds.recvFrame (lasting : Lasting P) (holds : self.Holds P) {frame : EthernetFrame}
    (brings : frame.Brings P) : (self.recvFrame frame).1.Holds P := by
  obtain ⟨interface, returned⟩ := holds.interface.recvFrame lasting brings
  rw [AsyncNetworkInterface.recvFrame]
  generalize self.toNetworkInterface.recvFrame frame = outcome at interface returned ⊢
  obtain ⟨iface, result⟩ := outcome
  rcases result with thrown | none | dgram
  · exact ⟨interface, holds.received⟩
  · exact ⟨interface, holds.received⟩
  · refine ⟨interface, fun other member => ?_⟩
    rcases List.mem_append.mp member with before | last
    · exact holds.received other before
    · rw [List.mem_singleton.mp last]
      exact returned dgram rfl

end AsyncNetworkInterface

namespace Router

def Holds (P : IPv4Datagram → Prop) (router : Router) : Prop := ∀ interface ∈ router.interfaces, interface.Holds P

variable {P : IPv4Datagram → Prop} {self : Router}

theorem Holds.mono {Q : IPv4Datagram → Prop} (holds : self.Holds P) (weaker : ∀ dgram, P dgram → Q dgram) :
    self.Holds Q :=
  fun interface member => (holds interface member).mono weaker

theorem Holds.onInterface (holds : self.Holds P) (n : Nat)
    {call : AsyncNetworkInterface → AsyncNetworkInterface × Except Exception Unit}
    (keeps : ∀ interface : AsyncNetworkInterface, interface.Holds P → (call interface).1.Holds P) :
    (self.onInterface n call).1.Holds P := by
  cases present : self.interfaces[n]? with
  | none => simpa only [Router.onInterface, present] using holds
  | some interface =>
      rw [onInterface_present present]
      intro other member
      rcases List.mem_or_eq_of_mem_set member with before | rfl
      · exact holds other before
      · exact keeps interface (holds interface (List.mem_of_getElem? present))

theorem Holds.routeOneDatagram (lasting : Lasting P) (holds : self.Holds P) {dgram : IPv4Datagram}
    (received : P dgram) : (self.routeOneDatagram dgram).1.Holds P := by
  rw [routeOneDatagram_eq]
  cases self.decision dgram with
  | none => exact holds
  | some action =>
      refine holds.onInterface action.1 fun interface before => ?_
      exact ⟨before.interface.sendDatagram lasting (lasting.forwarded dgram received) action.2, before.received⟩

theorem Holds.routeFront (lasting : Lasting P) (holds : self.Holds P) (n : Nat) : (self.routeFront n).1.Holds P := by
  cases front : self.datagramsOut n with
  | nil =>
      rw [Router.routeFront, front]
      exact holds
  | cons dgram rest =>
      obtain ⟨interface, member, -, queue⟩ := present_of_front front
      have routed := holds.routeOneDatagram lasting
        ((holds interface member).received dgram (queue ▸ List.mem_cons_self))
      rw [Router.routeFront, front]
      dsimp only
      generalize self.routeOneDatagram dgram = result at routed ⊢
      obtain ⟨next, outcome⟩ := result
      cases outcome with
      | error thrown => exact routed
      | ok _ =>
          refine Holds.onInterface routed n fun interface before => ?_
          exact ⟨before.interface, fun dgram later => before.received dgram (List.mem_of_mem_tail later)⟩

theorem Holds.route (lasting : Lasting P) (holds : self.Holds P) : self.route.1.Holds P := by
  rw [Router.route]
  generalize List.range self.interfaces.length = numbers
  suffices ∀ state : Router × Except Exception Unit, state.1.Holds P →
      (numbers.foldl routeNext state).1.Holds P from this (self, .ok ()) holds
  induction numbers with
  | nil => exact fun _ before => before
  | cons n numbers ih =>
      rintro ⟨router, result⟩ before
      refine ih _ ?_
      cases result with
      | error thrown => exact before
      | ok _ =>
          exact loop_invariant (queueWaits n) (fun state => state.1.routeFront n) (fun state => state.1.Holds P)
            (fun _ _ kept => kept.routeFront lasting n) _ _ before

def Fed (P : IPv4Datagram → Prop) : RouterOp → Prop
  | .recvFrame _ frame => frame.Brings P
  | _ => True

theorem Holds.next (lasting : Lasting P) (holds : self.Holds P) {op : RouterOp} (fed : Fed P op) :
    (self.next op).Holds P := by
  cases op with
  | recvFrame n frame => exact holds.onInterface n fun _ before => before.recvFrame lasting fed
  | route => exact holds.route lasting
  | tick n ms => exact holds.onInterface n fun _ before => ⟨before.interface.tick ms, before.received⟩

end Router

end Sponge
