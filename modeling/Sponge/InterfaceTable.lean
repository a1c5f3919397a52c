import Sponge.InterfaceDelivery
import Sponge.InterfaceRequests
import Sponge.Shared.Latest

set_option autoImplicit false

namespace Sponge

open Shared

namespace InterfaceOp

theorem elapsed_snoc (ops : List InterfaceOp) (op : InterfaceOp) :
    elapsed (ops ++ [op]) = elapsed ops + op.duration := by
  simp [elapsed]

end InterfaceOp

namespace NetworkInterface

def tells (ethernetAddress : EthernetAddress) (ip : UInt32) : InterfaceOp → Option EthernetAddress
  | .recvFrame frame =>
      match heard ethernetAddress frame with
      | none => none
      | some message => if message.senderIpAddress = ip then some message.senderEthernetAddress else none
  | _ => none

def Fresh (ethernetAddress : EthernetAddress) (ops : List InterfaceOp) (ip : UInt32) (mac : EthernetAddress) : Prop :=
  ∃ since, Latest (tells ethernetAddress ip) ops mac since ∧ InterfaceOp.elapsed since ≤ 30000

def concerns (ethernetAddress : EthernetAddress) (ip : UInt32) (op : InterfaceOp) : Bool :=
  match op with
  | .tick _ => true
  | op => (tells ethernetAddress ip op).isSome

def outgoing (self : NetworkInterface) : InterfaceOp → List (UInt32 × IPv4Datagram)
  | .sendDatagram dgram nextHop => [(nextHop.ipv4Numeric, dgram)]
  | .recvFrame _ => self.dgramDelayQueue.map fun delayed => (delayed.nextHopIp, delayed.dgram)
  | .tick _ => []

section Lookup

variable (self : NetworkInterface) (ip : UInt32)

theorem send_keeps_table (dgram : IPv4Datagram) (nextHop : Address) :
    (self.step (.sendDatagram dgram nextHop)).addressTable = self.addressTable ∧
      (self.step (.sendDatagram dgram nextHop)).timer = self.timer := by
  cases mapped : self.addressTable.lookup nextHop.ipv4Numeric with
  | some mapping =>
      rw [step, sendDatagram_mapped mapped]
      cases dgram.serialize <;> exact ⟨rfl, rfl⟩
  | none =>
      obtain ⟨timeout, frames, after, _⟩ := step_send_unmapped mapped dgram
      rw [after]
      exact ⟨rfl, rfl⟩

theorem lookup_told {op : InterfaceOp} {mac : EthernetAddress} (told : tells self.ethernetAddress ip op = some mac) :
    (self.step op).addressTable.lookup ip = some (mac, add64 self.timer 30000) ∧ (self.step op).timer = self.timer := by
  cases op with
  | sendDatagram dgram nextHop => simp [tells] at told
  | tick ms => simp [tells] at told
  | recvFrame frame =>
      cases hears : heard self.ethernetAddress frame with
      | none => simp [tells, hears] at told
      | some message =>
          simp only [tells, hears, Option.ite_none_right_eq_some, Option.some.injEq] at told
          rw [step_heard hears, lookup_afterArp, if_pos told.1, told.2]
          exact ⟨rfl, rfl⟩

theorem lookup_quiet {op : InterfaceOp} (quiet : tells self.ethernetAddress ip op = none)
    (timeless : ∀ ms, op ≠ .tick ms) :
    (self.step op).addressTable.lookup ip = self.addressTable.lookup ip ∧ (self.step op).timer = self.timer := by
  cases op with
  | sendDatagram dgram nextHop =>
      obtain ⟨table, timer⟩ := self.send_keeps_table dgram nextHop
      exact ⟨by rw [table], timer⟩
  | tick ms => exact absurd rfl (timeless ms)
  | recvFrame frame =>
      cases hears : heard self.ethernetAddress frame with
      | none =>
          rw [step_unheard hears]
          exact ⟨rfl, rfl⟩
      | some message =>
          simp only [tells, hears, ite_eq_right_iff, reduceCtorEq, imp_false] at quiet
          rw [step_heard hears, lookup_afterArp, if_neg quiet]
          exact ⟨rfl, rfl⟩

end Lookup

structure Leased (ip : UInt32) (iface : NetworkInterface) (ops : List InterfaceOp) : Prop where
  clock : iface.timer = InterfaceOp.elapsed ops
  mapping : ∀ mac expiry, iface.addressTable.lookup ip = some (mac, expiry) ↔
    ∃ since, Latest (tells iface.ethernetAddress ip) ops mac since ∧ InterfaceOp.elapsed since ≤ 30000 ∧
      expiry + InterfaceOp.elapsed since = InterfaceOp.elapsed ops + 30000

section Leased

variable {ip : UInt32} {self : NetworkInterface} {ops : List InterfaceOp} (leased : Leased ip self ops)
include leased

theorem Leased.told {op : InterfaceOp} {told : EthernetAddress} (tellsIt : tells self.ethernetAddress ip op = some told)
    (timeless : op.duration = 0) (bound : InterfaceOp.elapsed ops + 30000 < 2 ^ 64) :
    Leased ip (self.step op) (ops ++ [op]) := by
  obtain ⟨found, timer⟩ := self.lookup_told ip tellsIt
  have expires : add64 self.timer 30000 = InterfaceOp.elapsed ops + 30000 := by
    rw [leased.clock, add64_of_lt bound]
  have now : InterfaceOp.elapsed (ops ++ [op]) = InterfaceOp.elapsed ops := by
    rw [InterfaceOp.elapsed_snoc, timeless, Nat.add_zero]
  constructor
  · rw [timer, leased.clock, now]
  · intro mac expiry
    rw [found, expires, (self.step_extends op).1, now]
    simp only [latest_snoc_told tellsIt, Option.some.injEq, Prod.mk.injEq]
    constructor
    · rintro ⟨rfl, rfl⟩
      exact ⟨[], ⟨rfl, rfl⟩, by simp [InterfaceOp.elapsed]⟩
    · rintro ⟨since, ⟨rfl, rfl⟩, _, expiry_eq⟩
      exact ⟨rfl, by simpa [InterfaceOp.elapsed] using expiry_eq.symm⟩

theorem Leased.quiet {op : InterfaceOp} (quiet : tells self.ethernetAddress ip op = none)
    (timeless : ∀ ms, op ≠ .tick ms) : Leased ip (self.step op) (ops ++ [op]) := by
  obtain ⟨kept, timer⟩ := self.lookup_quiet ip quiet timeless
  have instant : op.duration = 0 := by
    cases op with
    | tick ms => exact absurd rfl (timeless ms)
    | sendDatagram dgram nextHop => rfl
    | recvFrame frame => rfl
  constructor
  · rw [timer, leased.clock, InterfaceOp.elapsed_snoc, instant, Nat.add_zero]
  · intro mac expiry
    have unmoved (front : List InterfaceOp) : InterfaceOp.elapsed (front ++ [op]) = InterfaceOp.elapsed front := by
      rw [InterfaceOp.elapsed_snoc, instant, Nat.add_zero]
    rw [kept, leased.mapping, (self.step_extends op).1, unmoved]
    simp only [latest_snoc_quiet quiet]
    constructor
    · rintro ⟨since, latest, lease⟩
      exact ⟨since ++ [op], ⟨since, latest, rfl⟩, by rwa [unmoved]⟩
    · rintro ⟨_, ⟨since, latest, rfl⟩, lease⟩
      exact ⟨since, latest, by rwa [unmoved] at lease⟩

theorem Leased.tick {ms : Nat} (bound : InterfaceOp.elapsed ops + ms + 30000 < 2 ^ 64) :
    Leased ip (self.step (.tick ms)) (ops ++ [.tick ms]) := by
  have passed : add64 self.timer ms = InterfaceOp.elapsed ops + ms := by
    rw [leased.clock, add64_of_lt (by omega)]
  have duration (front : List InterfaceOp) :
      InterfaceOp.elapsed (front ++ [.tick ms]) = InterfaceOp.elapsed front + ms :=
    InterfaceOp.elapsed_snoc front (.tick ms)
  constructor
  · exact passed.trans (duration ops).symm
  · intro mac expiry
    have silent : tells self.ethernetAddress ip (.tick ms) = none := rfl
    simp only [step]
    rw [lookup_tick, leased.mapping, passed, duration]
    change _ ↔ ∃ since, Latest (tells self.ethernetAddress ip) _ mac since ∧ _ ∧ _
    simp only [latest_snoc_quiet silent]
    constructor
    · rintro ⟨⟨since, latest, young, expiry_eq⟩, alive⟩
      refine ⟨since ++ [.tick ms], ⟨since, latest, rfl⟩, ?_, ?_⟩ <;> rw [duration] <;> omega
    · rintro ⟨_, ⟨since, latest, rfl⟩, young, expiry_eq⟩
      rw [duration] at young expiry_eq
      exact ⟨⟨since, latest, by omega, by omega⟩, by omega⟩

theorem Leased.step {op : InterfaceOp} (bound : InterfaceOp.elapsed (ops ++ [op]) + 30000 < 2 ^ 64) :
    Leased ip (self.step op) (ops ++ [op]) := by
  rw [InterfaceOp.elapsed_snoc] at bound
  cases op with
  | tick ms => exact leased.tick bound
  | sendDatagram dgram nextHop => exact leased.quiet rfl (by simp)
  | recvFrame frame =>
      cases told : tells self.ethernetAddress ip (.recvFrame frame) with
      | none => exact leased.quiet told (by simp)
      | some mac => exact leased.told told rfl bound

end Leased

-- The history grows at its end, so the induction is on the reversed list.
theorem run_leased (ip : UInt32) (ethernetAddress : EthernetAddress) (ipAddress : Address) (ops : List InterfaceOp)
    (bound : InterfaceOp.elapsed ops + 30000 < 2 ^ 64) :
    Leased ip (ops.foldl step { ethernetAddress, ipAddress }) ops := by
  induction ops using List.reverseRecOn with
  | nil =>
      refine ⟨rfl, fun mac expiry => ⟨fun found => absurd found (by simp), ?_⟩⟩
      rintro ⟨since, latest, _⟩
      exact absurd latest not_latest_nil
  | append_singleton ops op ih =>
      rw [List.foldl_append]
      have before := InterfaceOp.elapsed_snoc ops op
      exact (ih (by omega)).step bound

theorem run_ethernetAddress (self : NetworkInterface) (ops : List InterfaceOp) :
    (ops.foldl step self).ethernetAddress = self.ethernetAddress := by
  induction ops generalizing self with
  | nil => rfl
  | cons op ops ih => rw [List.foldl_cons, ih, (self.step_extends op).1]

theorem run_lookup_fresh (ethernetAddress : EthernetAddress) (ipAddress : Address) {ops : List InterfaceOp}
    (bound : InterfaceOp.elapsed ops + 30000 < 2 ^ 64) (ip : UInt32) (mac : EthernetAddress) :
    (∃ expiry, (ops.foldl step { ethernetAddress, ipAddress }).addressTable.lookup ip = some (mac, expiry)) ↔
      Fresh ethernetAddress ops ip mac := by
  have leased := run_leased ip ethernetAddress ipAddress ops bound
  simp only [leased.mapping, run_ethernetAddress, Fresh]
  constructor
  · rintro ⟨_, since, latest, young, _⟩
    exact ⟨since, latest, young⟩
  · rintro ⟨since, latest, young⟩
    exact ⟨InterfaceOp.elapsed ops + 30000 - InterfaceOp.elapsed since, since, latest, young, by omega⟩

section Sending

theorem flush_mapped (self : NetworkInterface) (queue : List DelayedDgram) :
    ∀ frame ∈ (self.flush queue).1, ∃ delayed ∈ queue, ∃ expiry,
      self.addressTable.lookup delayed.nextHopIp = some (frame.header.dst, expiry) ∧
        delayed.dgram.serialize = .ok frame.payload := by
  fun_induction self.flush queue with
  | case1 => simp
  | case2 _ _ _ _ _ _ flushed ih =>
      intro frame member
      obtain ⟨delayed, waiting, sent⟩ := ih frame (by rwa [flushed])
      exact ⟨delayed, List.mem_cons_of_mem _ waiting, sent⟩
  | case3 => simp
  | case4 delayed _ mapped expiry found payload serialized _ _ _ flushed ih =>
      intro frame member
      rcases List.mem_cons.mp member with rfl | later
      · exact ⟨delayed, List.mem_cons_self .., expiry, found, serialized⟩
      · obtain ⟨other, waiting, sent⟩ := ih frame (by rwa [flushed])
        exact ⟨other, List.mem_cons_of_mem _ waiting, sent⟩

theorem emitted_mapped (self : NetworkInterface) (op : InterfaceOp) :
    ∀ frame ∈ self.emitted op, frame.header.type = EthernetHeader.typeIPv4 → ∃ entry ∈ self.outgoing op,
      (∃ expiry, (self.step op).addressTable.lookup entry.1 = some (frame.header.dst, expiry)) ∧
        entry.2.serialize = .ok frame.payload := by
  intro frame member datagram
  cases op with
  | sendDatagram dgram nextHop =>
      refine ⟨_, List.mem_singleton_self _, ?_⟩
      rw [(self.send_keeps_table dgram nextHop).1]
      cases mapped : self.addressTable.lookup nextHop.ipv4Numeric with
      | some mapping =>
          cases serialized : dgram.serialize with
          | error thrown =>
              have silent : self.step (.sendDatagram dgram nextHop) = self := by
                simp only [step, sendDatagram_mapped mapped, serialized]
              simp [emitted, silent] at member
          | ok payload =>
              have pushed : (self.step (.sendDatagram dgram nextHop)).framesOut =
                  self.framesOut ++ [self.ipv4Frame mapping.1 payload] := by
                simp only [step, sendDatagram_mapped mapped, serialized]
                rfl
              rw [emitted_of_append pushed, List.mem_singleton] at member
              subst member
              exact ⟨⟨mapping.2, rfl⟩, rfl⟩
      | none =>
          obtain ⟨timeout, frames, after, arp⟩ := step_send_unmapped mapped dgram
          rw [emitted_of_append (congrArg framesOut after)] at member
          exact absurd (datagram.symm.trans (arp frame member)) (by decide)
  | recvFrame received =>
      cases hears : heard self.ethernetAddress received with
      | none => simp [emitted, step_unheard hears] at member
      | some message =>
          rw [emitted_heard hears, List.mem_append] at member
          rcases member with reply | released
          · exact absurd (datagram.symm.trans (self.replies_frames message frame reply)) (by decide)
          · obtain ⟨delayed, waiting, expiry, found, serialized⟩ := flush_mapped _ _ frame released
            rw [step_heard hears]
            exact ⟨_, List.mem_map_of_mem waiting, ⟨expiry, found⟩, serialized⟩
  | tick ms => simp [emitted, step, tick] at member

end Sending

section Independence

structure Alike (ip : UInt32) (iface other : NetworkInterface) : Prop where
  address : iface.ethernetAddress = other.ethernetAddress
  timer : iface.timer = other.timer
  lookup : iface.addressTable.lookup ip = other.addressTable.lookup ip

variable {ip : UInt32} {self other : NetworkInterface}

theorem Alike.step (alike : Alike ip self other) (op : InterfaceOp) : Alike ip (self.step op) (other.step op) := by
  have address : (self.step op).ethernetAddress = (other.step op).ethernetAddress := by
    rw [(self.step_extends op).1, (other.step_extends op).1, alike.address]
  by_cases time : ∃ ms, op = .tick ms
  · obtain ⟨ms, rfl⟩ := time
    refine ⟨address, congrArg (add64 · ms) alike.timer, Option.ext fun mapping => ?_⟩
    exact (self.lookup_tick ip ms mapping).trans
      (by rw [alike.lookup, alike.timer]; exact (other.lookup_tick ip ms mapping).symm)
  · rw [not_exists] at time
    cases told : tells self.ethernetAddress ip op with
    | none =>
        obtain ⟨first, firstTimer⟩ := self.lookup_quiet ip told time
        obtain ⟨second, secondTimer⟩ := other.lookup_quiet ip (alike.address ▸ told) time
        exact ⟨address, by rw [firstTimer, secondTimer, alike.timer], by rw [first, second, alike.lookup]⟩
    | some mac =>
        obtain ⟨first, firstTimer⟩ := self.lookup_told ip told
        obtain ⟨second, secondTimer⟩ := other.lookup_told ip (alike.address ▸ told)
        exact ⟨address, by rw [firstTimer, secondTimer, alike.timer], by rw [first, second, alike.timer]⟩

theorem Alike.skip (alike : Alike ip self other) {op : InterfaceOp}
    (unconcerned : concerns self.ethernetAddress ip op = false) : Alike ip (self.step op) other := by
  have timeless (ms : Nat) : op ≠ .tick ms := by
    rintro rfl
    simp [concerns] at unconcerned
  have quiet : tells self.ethernetAddress ip op = none := by
    cases op <;> simp_all [concerns]
  obtain ⟨kept, timer⟩ := self.lookup_quiet ip quiet timeless
  exact ⟨(self.step_extends op).1.trans alike.address, timer.trans alike.timer, kept.trans alike.lookup⟩

theorem run_concerning (alike : Alike ip self other) (ops : List InterfaceOp) :
    Alike ip (ops.foldl step self) ((ops.filter (concerns self.ethernetAddress ip)).foldl step other) := by
  induction ops generalizing self other with
  | nil => exact alike
  | cons op ops ih =>
      have address := (self.step_extends op).1
      cases concerned : concerns self.ethernetAddress ip op with
      | true =>
          rw [List.filter_cons_of_pos concerned, List.foldl_cons, List.foldl_cons, ← address]
          exact ih (alike.step op)
      | false =>
          rw [List.filter_cons_of_neg (by simp [concerned]), List.foldl_cons, ← address]
          exact ih (alike.skip concerned)

end Independence

theorem address_table_fresh (ethernetAddress : EthernetAddress) (ipAddress : Address) (ops : List InterfaceOp)
    (bound : InterfaceOp.elapsed ops + 30000 < 2 ^ 64) :
    let start : NetworkInterface := { ethernetAddress, ipAddress }
    let iface := ops.foldl step start
    (∀ ip mac, (∃ expiry, iface.addressTable.lookup ip = some (mac, expiry)) ↔ Fresh ethernetAddress ops ip mac) ∧
      (∀ op, ∀ frame ∈ iface.emitted op, frame.header.type = EthernetHeader.typeIPv4 → ∃ entry ∈ iface.outgoing op,
        entry.2.serialize = .ok frame.payload ∧ Fresh ethernetAddress (ops ++ [op]) entry.1 frame.header.dst) ∧
      ∀ ip, iface.addressTable.lookup ip =
        ((ops.filter (concerns ethernetAddress ip)).foldl step start).addressTable.lookup ip := by
  intro start iface
  refine ⟨run_lookup_fresh ethernetAddress ipAddress bound, ?_, ?_⟩
  · intro op frame member datagram
    obtain ⟨entry, going, mapped, serialized⟩ := iface.emitted_mapped op frame member datagram
    have later : InterfaceOp.elapsed (ops ++ [op]) + 30000 < 2 ^ 64 := by
      rw [InterfaceOp.elapsed_snoc]
      cases op with
      | tick ms => simp [outgoing] at going
      | sendDatagram dgram nextHop => exact bound
      | recvFrame received => exact bound
    have after : iface.step op = (ops ++ [op]).foldl step start := by rw [List.foldl_append]; rfl
    rw [after] at mapped
    exact ⟨entry, going, serialized, (run_lookup_fresh ethernetAddress ipAddress later _ _).mp mapped⟩
  · intro ip
    have alike : Alike ip start start := ⟨rfl, rfl, rfl⟩
    exact (run_concerning alike ops).lookup

def leaseRun : List InterfaceOp := [.sendDatagram emptyDgram ⟨7, 0⟩, .recvFrame routerReply, .tick 30000]

theorem address_table_fresh_lease :
    Fresh (Vector.replicate 6 2) leaseRun 7 (Vector.replicate 6 4) ∧
      ¬Fresh (Vector.replicate 6 2) (leaseRun ++ [.tick 1]) 7 (Vector.replicate 6 4) := by
  have during := (address_table_fresh (Vector.replicate 6 2) ⟨1, 0⟩ leaseRun (by decide)).1
  have after := (address_table_fresh (Vector.replicate 6 2) ⟨1, 0⟩ (leaseRun ++ [.tick 1]) (by decide)).1
  refine ⟨(during 7 _).mp ⟨30000, by decide +kernel⟩, fun fresh => ?_⟩
  obtain ⟨expiry, found⟩ := (after 7 _).mpr fresh
  have gone : ((leaseRun ++ [InterfaceOp.tick 1]).foldl step
      { ethernetAddress := Vector.replicate 6 2, ipAddress := ⟨1, 0⟩ }).addressTable.lookup 7 = none := by
    decide +kernel
  rw [gone] at found
  exact Option.some_ne_none _ found.symm

end NetworkInterface

end Sponge
