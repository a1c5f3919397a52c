import Sponge.NetworkInterface

set_option autoImplicit false

namespace Sponge

open Shared

namespace InterfaceOp

def duration : InterfaceOp → Nat
  | .tick ms => ms
  | _ => 0

def elapsed (ops : List InterfaceOp) : Nat := (ops.map duration).sum

end InterfaceOp

namespace NetworkInterface

def isRequestFor (ip : UInt32) (frame : EthernetFrame) : Bool :=
  frame.header.type == EthernetHeader.typeArp &&
    match frame.payload.toBuffer with
    | .error _ => false
    | .ok buffer =>
        let (result, message) := ({} : ARPMessage).parse buffer
        result == .noError && message.opcode == ARPMessage.opcodeRequest && message.targetIpAddress == ip

def requests (self : NetworkInterface) (ip : UInt32) (op : InterfaceOp) : List EthernetFrame :=
  (self.emitted op).filter (isRequestFor ip)

def requestTimes (ip : UInt32) : NetworkInterface → Nat → List InterfaceOp → List Nat
  | _, _, [] => []
  | self, now, op :: ops =>
      (self.requests ip op).map (fun _ => now) ++ requestTimes ip (self.step op) (now + op.duration) ops

section Requests

theorem isRequestFor_arpFrame (self : NetworkInterface) (dst : EthernetAddress) {message : ARPMessage}
    (supported : message.supported) (ip : UInt32) :
    isRequestFor ip (self.arpFrame dst message.layout) =
      (message.opcode == ARPMessage.opcodeRequest && message.targetIpAddress == ip) := by
  simp [isRequestFor, arpFrame, ARPMessage.parse_layout supported]

theorem isRequestFor_ipv4 {frame : EthernetFrame} (ipv4 : frame.header.type = EthernetHeader.typeIPv4) (ip : UInt32) :
    isRequestFor ip frame = false := by
  simp [isRequestFor, ipv4, EthernetHeader.typeIPv4, EthernetHeader.typeArp]

theorem requests_heard {self : NetworkInterface} {frame : EthernetFrame} {message : ARPMessage}
    (hears : heard self.ethernetAddress frame = some message) (ip : UInt32) :
    self.requests ip (.recvFrame frame) = [] := by
  rw [requests, emitted_heard hears, List.filter_append, List.append_eq_nil_iff]
  constructor
  · rw [replies]
    split
    · rw [List.filter_cons, isRequestFor_arpFrame _ _ (arpReply_supported _ _)]
      rfl
    · rfl
  · refine List.filter_eq_nil_iff.mpr fun frame member => ?_
    simp [isRequestFor_ipv4 (flush_frames _ _ frame member)]

theorem requests_of_unchanged {self : NetworkInterface} {op : InterfaceOp}
    (silent : (self.step op).framesOut = self.framesOut) (ip : UInt32) : self.requests ip op = [] := by
  rw [requests, emitted_of_append (silent.trans (List.append_nil _).symm)]
  rfl

variable {self : NetworkInterface} {nextHop : Address}

theorem requests_mapped {mapping : EthernetAddress × Nat}
    (mapped : self.addressTable.lookup nextHop.ipv4Numeric = some mapping) (dgram : IPv4Datagram) (ip : UInt32) :
    self.requests ip (.sendDatagram dgram nextHop) = [] := by
  have after : (self.step (.sendDatagram dgram nextHop)).framesOut = _ :=
    congrArg (fun result => result.1.framesOut) (sendDatagram_mapped mapped dgram)
  cases serialized : dgram.serialize with
  | error thrown =>
      simp only [serialized] at after
      exact requests_of_unchanged after ip
  | ok payload =>
      simp only [serialized] at after
      rw [requests, emitted_of_append after]
      rfl

variable (unmapped : self.addressTable.lookup nextHop.ipv4Numeric = none)
include unmapped

theorem requests_pending (pending : self.pending nextHop.ipv4Numeric) (dgram : IPv4Datagram) (ip : UInt32) :
    self.requests ip (.sendDatagram dgram nextHop) = [] :=
  requests_of_unchanged (congrArg (fun result => result.1.framesOut) (sendDatagram_pending unmapped pending dgram)) ip

theorem requests_asking (idle : ¬self.pending nextHop.ipv4Numeric) (dgram : IPv4Datagram) (ip : UInt32) :
    self.requests ip (.sendDatagram dgram nextHop) =
      if nextHop.ipv4Numeric = ip then
        [self.arpFrame ethernetBroadcast (self.arpRequest nextHop.ipv4Numeric).layout]
      else
        [] := by
  have after : (self.step (.sendDatagram dgram nextHop)).framesOut = _ :=
    congrArg (fun result => result.1.framesOut) (sendDatagram_asking unmapped idle dgram)
  rw [requests, emitted_of_append after, List.filter_cons, isRequestFor_arpFrame _ _ (arpRequest_supported _ _)]
  simp [arpRequest]

end Requests

structure Paced (ip : UInt32) (iface : NetworkInterface) (now : Nat) (times : List Nat) : Prop where
  clock : iface.timer = now
  past : ∀ time ∈ times, time ≤ now
  -- A timeout in the future was set by a request; the others mark datagrams that found one pending.
  timeouts : ∀ delayed ∈ iface.dgramDelayQueue, delayed.nextHopIp = ip →
    delayed.timeout ≤ now ∨ ∃ time ∈ times, delayed.timeout = time + 5000
  -- A recent request is answered, or its datagram still waits.
  recent : ∀ time ∈ times, now < time + 5000 → (iface.addressTable.lookup ip).isSome ∨
    ∃ delayed ∈ iface.dgramDelayQueue, delayed.nextHopIp = ip ∧ delayed.timeout = time + 5000
  -- A mapping outlives every request made before it, so its expiry cannot uncover a recent one.
  outlives : ∀ mapping, iface.addressTable.lookup ip = some mapping → ∀ time ∈ times, time + 30000 ≤ mapping.2
  apart : times.Pairwise fun earlier later => earlier + 5000 ≤ later

section Pacing

variable {ip : UInt32} {self : NetworkInterface} {now : Nat} {times : List Nat} (paced : Paced ip self now times)
include paced

theorem Paced.pending_iff (unmapped : self.addressTable.lookup ip = none) :
    self.pending ip ↔ ∃ time ∈ times, now < time + 5000 := by
  simp only [pending, List.any_eq_true, Bool.and_eq_true, beq_iff_eq, decide_eq_true_eq, paced.clock]
  constructor
  · intro ⟨delayed, member, same, future⟩
    rcases paced.timeouts delayed member same with expired | ⟨time, asked, timeout⟩
    · omega
    · exact ⟨time, asked, by omega⟩
  · intro ⟨time, asked, future⟩
    rcases paced.recent time asked future with mapped | ⟨delayed, member, same, timeout⟩
    · simp [unmapped] at mapped
    · exact ⟨delayed, member, same, by omega⟩

theorem Paced.tick {ms : Nat} (bound : now + ms + 30000 < 2 ^ 64) :
    Paced ip (self.tick ms) (now + ms) times := by
  have clock : (self.tick ms).timer = now + ms := by
    have timer : (self.tick ms).timer = add64 self.timer ms := rfl
    rw [timer, paced.clock, add64_of_lt (by omega)]
  have table (mapping : EthernetAddress × Nat) : (self.tick ms).addressTable.lookup ip = some mapping ↔
      self.addressTable.lookup ip = some mapping ∧ now + ms ≤ mapping.2 := by
    rw [← clock]
    exact self.lookup_tick ip ms mapping
  refine ⟨clock, ?_, ?_, ?_, ?_, paced.apart⟩
  · intro time asked
    have := paced.past time asked
    omega
  · intro delayed member same
    refine (paced.timeouts delayed member same).imp_left fun expired => ?_
    omega
  · intro time asked recent
    refine (paced.recent time asked (by omega)).imp_left fun mapped => ?_
    obtain ⟨mapping, found⟩ := Option.isSome_iff_exists.mp mapped
    have := paced.outlives mapping found time asked
    exact Option.isSome_iff_exists.mpr ⟨mapping, (table mapping).mpr ⟨found, by omega⟩⟩
  · intro mapping found
    exact paced.outlives mapping ((table mapping).mp found).1

theorem Paced.afterArp (bound : now + 30000 < 2 ^ 64) (message : ARPMessage) :
    Paced ip (self.afterArp message) now times := by
  have table := self.lookup_afterArp ip message
  rw [paced.clock, add64_of_lt (by omega)] at table
  refine ⟨paced.clock, paced.past, ?_, ?_, ?_, paced.apart⟩
  · intro delayed member
    exact paced.timeouts delayed ((flush_sublist _ _).subset member)
  · intro time asked recent
    rcases paced.recent time asked recent with mapped | ⟨delayed, member, same, timeout⟩
    · left
      rw [table]
      split
      · rfl
      · exact mapped
    · rcases flush_kept_or_mapped (self.learn message) _ delayed member with kept | mapped
      · exact .inr ⟨delayed, kept, same, timeout⟩
      · exact .inl (same ▸ mapped)
  · intro mapping found time asked
    have past := paced.past time asked
    rw [table] at found
    split at found
    · rw [← Option.some.inj found]
      exact Nat.add_le_add_right past _
    · exact paced.outlives mapping found time asked

theorem Paced.pushFrames (frames : List EthernetFrame) : Paced ip (self.pushFrames frames) now times :=
  ⟨paced.clock, paced.past, paced.timeouts, paced.recent, paced.outlives, paced.apart⟩

theorem Paced.delay (dgram : IPv4Datagram) (nextHopIp : UInt32) {timeout : Nat}
    (expired : nextHopIp = ip → timeout ≤ now) : Paced ip (self.delay dgram nextHopIp timeout) now times := by
  refine ⟨paced.clock, paced.past, ?_, ?_, paced.outlives, paced.apart⟩
  · intro delayed member same
    rcases List.mem_append.mp member with before | last
    · exact paced.timeouts delayed before same
    · rw [List.mem_singleton.mp last] at same ⊢
      exact .inl (expired same)
  · intro time asked recent
    refine (paced.recent time asked recent).imp_right fun ⟨delayed, member, found⟩ => ?_
    exact ⟨delayed, List.mem_append_left _ member, found⟩

theorem Paced.ask (unmapped : self.addressTable.lookup ip = none) (idle : ¬self.pending ip) (dgram : IPv4Datagram) :
    Paced ip (self.delay dgram ip (now + 5000)) now (times ++ [now]) := by
  refine ⟨paced.clock, ?_, ?_, ?_, ?_, ?_⟩
  · simpa [or_imp, forall_and] using paced.past
  · intro delayed member same
    rcases List.mem_append.mp member with before | last
    · refine (paced.timeouts delayed before same).imp_right fun ⟨time, asked, timeout⟩ => ?_
      exact ⟨time, List.mem_append_left _ asked, timeout⟩
    · rw [List.mem_singleton.mp last]
      exact .inr ⟨now, List.mem_append_right _ (List.mem_singleton_self _), rfl⟩
  · intro time asked recent
    rcases List.mem_append.mp asked with before | last
    · exact absurd ((paced.pending_iff unmapped).mpr ⟨time, before, recent⟩) idle
    · rw [List.mem_singleton.mp last]
      exact .inr ⟨_, List.mem_append_right _ (List.mem_singleton_self _), rfl, rfl⟩
  · intro mapping found
    have none_found : self.addressTable.lookup ip = some mapping := found
    simp [unmapped] at none_found
  · refine List.pairwise_append.mpr ⟨paced.apart, List.pairwise_singleton _ _, ?_⟩
    intro time asked later member
    rw [List.mem_singleton.mp member]
    by_contra recent
    exact idle ((paced.pending_iff unmapped).mpr ⟨time, asked, by omega⟩)

theorem Paced.send (bound : now + 30000 < 2 ^ 64) (dgram : IPv4Datagram) (nextHop : Address) :
    Paced ip (self.step (.sendDatagram dgram nextHop)) now
      (times ++ (self.requests ip (.sendDatagram dgram nextHop)).map fun _ => now) := by
  cases mapped : self.addressTable.lookup nextHop.ipv4Numeric with
  | some mapping =>
      rw [requests_mapped mapped, List.map_nil, List.append_nil, NetworkInterface.step, sendDatagram_mapped mapped]
      cases dgram.serialize with
      | error thrown => exact paced
      | ok payload => exact paced.pushFrames _
  | none =>
      by_cases pending : self.pending nextHop.ipv4Numeric
      · rw [requests_pending mapped pending, List.map_nil, List.append_nil, NetworkInterface.step,
          sendDatagram_pending mapped pending]
        exact paced.delay dgram _ fun _ => Nat.le_of_eq paced.clock
      · have timeout : add64 self.timer 5000 = now + 5000 := by rw [paced.clock, add64_of_lt (by omega)]
        rw [requests_asking mapped pending, NetworkInterface.step, sendDatagram_asking mapped pending, timeout]
        by_cases same : nextHop.ipv4Numeric = ip
        · rw [if_pos same]
          rw [same] at mapped pending ⊢
          exact (paced.ask mapped pending dgram).pushFrames _
        · rw [if_neg same, List.map_nil, List.append_nil]
          exact (paced.delay dgram _ fun equal => absurd equal same).pushFrames _

theorem Paced.step {op : InterfaceOp} (bound : now + op.duration + 30000 < 2 ^ 64) :
    Paced ip (self.step op) (now + op.duration) (times ++ (self.requests ip op).map fun _ => now) := by
  cases op with
  | sendDatagram dgram nextHop => exact paced.send bound dgram nextHop
  | recvFrame frame =>
      cases hears : heard self.ethernetAddress frame with
      | none =>
          have after := step_unheard hears
          rw [requests_of_unchanged (congrArg framesOut after), List.map_nil, List.append_nil, after]
          exact paced
      | some message =>
          rw [requests_heard hears, List.map_nil, List.append_nil, step_heard hears]
          exact paced.afterArp bound message
  | tick ms =>
      rw [requests_of_unchanged rfl, List.map_nil, List.append_nil]
      exact paced.tick bound

end Pacing

theorem run_paced {ip : UInt32} {self : NetworkInterface} {now : Nat} {times : List Nat}
    (paced : Paced ip self now times) {ops : List InterfaceOp}
    (bound : now + InterfaceOp.elapsed ops + 30000 < 2 ^ 64) :
    Paced ip (ops.foldl step self) (now + InterfaceOp.elapsed ops) (times ++ requestTimes ip self now ops) := by
  induction ops generalizing self now times with
  | nil => simpa [requestTimes, InterfaceOp.elapsed] using paced
  | cons op ops ih =>
      have total : now + InterfaceOp.elapsed (op :: ops) = now + op.duration + InterfaceOp.elapsed ops := by
        rw [InterfaceOp.elapsed, List.map_cons, List.sum_cons, Nat.add_assoc]
        rfl
      rw [total] at bound ⊢
      rw [List.foldl_cons, requestTimes, ← List.append_assoc]
      exact ih (paced.step (by omega)) bound

-- A datagram makes the interface ask just when its hop is unmapped and the last request for it is five seconds old.
theorem requests_paced (ethernetAddress : EthernetAddress) (ipAddress : Address) (ops : List InterfaceOp)
    (bound : InterfaceOp.elapsed ops + 30000 < 2 ^ 64) :
    let start : NetworkInterface := { ethernetAddress, ipAddress }
    let iface := ops.foldl step start
    (∀ dgram nextHop,
      (∃ frame ∈ iface.emitted (.sendDatagram dgram nextHop), isRequestFor nextHop.ipv4Numeric frame) ↔
        iface.addressTable.lookup nextHop.ipv4Numeric = none ∧
          ∀ time ∈ requestTimes nextHop.ipv4Numeric start 0 ops, time + 5000 ≤ InterfaceOp.elapsed ops) ∧
    ∀ ip, (requestTimes ip start 0 ops).Pairwise fun earlier later => earlier + 5000 ≤ later := by
  intro start iface
  have initial (ip : UInt32) : Paced ip start 0 [] :=
    ⟨rfl, by simp, by simp [start], by simp, by simp, List.Pairwise.nil⟩
  have paced (ip : UInt32) : Paced ip iface (InterfaceOp.elapsed ops) (requestTimes ip start 0 ops) := by
    simpa using run_paced (initial ip) (by simpa using bound)
  refine ⟨?_, fun ip => (paced ip).apart⟩
  intro dgram nextHop
  have asks : (∃ frame ∈ iface.emitted (.sendDatagram dgram nextHop), isRequestFor nextHop.ipv4Numeric frame) ↔
      iface.requests nextHop.ipv4Numeric (.sendDatagram dgram nextHop) ≠ [] := by
    simp [requests, List.filter_eq_nil_iff]
  rw [asks]
  cases mapped : iface.addressTable.lookup nextHop.ipv4Numeric with
  | some mapping => simp [requests_mapped mapped]
  | none =>
      have pending_iff := (paced _).pending_iff mapped
      by_cases pending : iface.pending nextHop.ipv4Numeric
      · obtain ⟨time, asked, recent⟩ := pending_iff.mp pending
        simp only [requests_pending mapped pending, ne_eq, not_true_eq_false, true_and, false_iff]
        intro apart
        have := apart time asked
        omega
      · simp only [requests_asking mapped pending, if_true, ne_eq, List.cons_ne_nil, not_false_eq_true, true_and,
          true_iff]
        intro time asked
        by_contra recent
        exact pending (pending_iff.mpr ⟨time, asked, by omega⟩)

def askingRun : List InterfaceOp :=
  [.sendDatagram {} ⟨7, 0⟩, .tick 4999, .sendDatagram {} ⟨7, 0⟩, .tick 1]

theorem requests_paced_asking :
    let start : NetworkInterface := { ethernetAddress := Vector.replicate 6 2, ipAddress := ⟨1, 0⟩ }
    InterfaceOp.elapsed askingRun + 30000 < 2 ^ 64 ∧ requestTimes 7 start 0 askingRun = [0] ∧
      ∃ frame ∈ (askingRun.foldl step start).emitted (.sendDatagram {} ⟨7, 0⟩), isRequestFor 7 frame := by
  intro start
  have bound : InterfaceOp.elapsed askingRun + 30000 < 2 ^ 64 := by decide
  have times : requestTimes 7 start 0 askingRun = [0] := by decide +kernel
  have unmapped : (askingRun.foldl step start).addressTable.lookup 7 = none := by decide +kernel
  refine ⟨bound, times, ((requests_paced _ ⟨1, 0⟩ askingRun bound).1 {} ⟨7, 0⟩).mpr ⟨unmapped, ?_⟩⟩
  intro time asked
  have first : time ∈ [0] := times ▸ asked
  rw [List.mem_singleton.mp first]
  decide

end NetworkInterface

end Sponge
