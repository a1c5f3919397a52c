import Sponge.ARPMessage
import Sponge.Shared.FiniteMap
import Sponge.Shared.Word64
import Sponge.TCPOverIPv4

set_option autoImplicit false

namespace Sponge

open Shared

structure DelayedDgram where
  dgram : IPv4Datagram
  nextHopIp : UInt32
  timeout : Nat
  deriving DecidableEq

structure NetworkInterface where
  ethernetAddress : EthernetAddress
  ipAddress : Address
  framesOut : List EthernetFrame := []
  timer : Nat := 0
  addressTable : AList fun _ : UInt32 => EthernetAddress × Nat := ∅
  dgramDelayQueue : List DelayedDgram := []

namespace NetworkInterface

def pushFrames (self : NetworkInterface) (frames : List EthernetFrame) : NetworkInterface :=
  { self with framesOut := self.framesOut ++ frames }

def pushFrame (self : NetworkInterface) (frame : EthernetFrame) : NetworkInterface := self.pushFrames [frame]

def delay (self : NetworkInterface) (dgram : IPv4Datagram) (nextHopIp : UInt32) (timeout : Nat) : NetworkInterface :=
  { self with dgramDelayQueue := self.dgramDelayQueue ++ [⟨dgram, nextHopIp, timeout⟩] }

def ipv4Frame (self : NetworkInterface) (dst : EthernetAddress) (payload : BufferList) : EthernetFrame where
  header := { dst, src := self.ethernetAddress, type := EthernetHeader.typeIPv4 }
  payload

def arpFrame (self : NetworkInterface) (dst : EthernetAddress) (payload : Bytes) : EthernetFrame where
  header := { dst, src := self.ethernetAddress, type := EthernetHeader.typeArp }
  payload := BufferList.ofBuffer payload

def arpRequest (self : NetworkInterface) (nextHopIp : UInt32) : ARPMessage where
  opcode := ARPMessage.opcodeRequest
  senderIpAddress := self.ipAddress.ipv4Numeric
  senderEthernetAddress := self.ethernetAddress
  targetIpAddress := nextHopIp

def arpReply (self : NetworkInterface) (recvArp : ARPMessage) : ARPMessage where
  opcode := ARPMessage.opcodeReply
  senderIpAddress := self.ipAddress.ipv4Numeric
  senderEthernetAddress := self.ethernetAddress
  targetIpAddress := recvArp.senderIpAddress
  targetEthernetAddress := recvArp.senderEthernetAddress

def pending (self : NetworkInterface) (nextHopIp : UInt32) : Bool :=
  self.dgramDelayQueue.any fun delayed => delayed.nextHopIp == nextHopIp && delayed.timeout > self.timer

-- A call that throws leaves the interface as it was at the throw.
def sendDatagram (self : NetworkInterface) (dgram : IPv4Datagram) (nextHop : Address) :
    NetworkInterface × Except Exception Unit :=
  let nextHopIp := nextHop.ipv4Numeric
  match self.addressTable.lookup nextHopIp with
  | some (mapped, _) =>
      match dgram.serialize with
      | .error thrown => (self, .error thrown)
      | .ok payload => (self.pushFrame (self.ipv4Frame mapped payload), .ok ())
  | none =>
      if self.pending nextHopIp then
        (self.delay dgram nextHopIp self.timer, .ok ())
      else
        let self := self.delay dgram nextHopIp (add64 self.timer (5 * 1000))
        match (self.arpRequest nextHopIp).serialize with
        | .error thrown => (self, .error thrown)
        | .ok payload => (self.pushFrame (self.arpFrame ethernetBroadcast payload), .ok ())

def learn (self : NetworkInterface) (recvArp : ARPMessage) : NetworkInterface :=
  let mapping := (recvArp.senderEthernetAddress, add64 self.timer (30 * 1000))
  { self with addressTable := self.addressTable.insert recvArp.senderIpAddress mapping }

def reply (self : NetworkInterface) (recvArp : ARPMessage) : NetworkInterface × Except Exception Unit :=
  if recvArp.opcode = ARPMessage.opcodeRequest ∧ recvArp.targetIpAddress = self.ipAddress.ipv4Numeric then
    match (self.arpReply recvArp).serialize with
    | .error thrown => (self, .error thrown)
    | .ok payload => (self.pushFrame (self.arpFrame recvArp.senderEthernetAddress payload), .ok ())
  else
    (self, .ok ())

def flush (self : NetworkInterface) :
    List DelayedDgram → List EthernetFrame × List DelayedDgram × Except Exception Unit
  | [] => ([], [], .ok ())
  | delayed :: rest =>
      match self.addressTable.lookup delayed.nextHopIp with
      | none =>
          let (frames, kept, result) := self.flush rest
          (frames, delayed :: kept, result)
      | some (mapped, _) =>
          match delayed.dgram.serialize with
          | .error thrown => ([], delayed :: rest, .error thrown)
          | .ok payload =>
              let (frames, kept, result) := self.flush rest
              (self.ipv4Frame mapped payload :: frames, kept, result)

def flushQueue (self : NetworkInterface) : NetworkInterface × Except Exception Unit :=
  let (frames, kept, result) := self.flush self.dgramDelayQueue
  ({ self.pushFrames frames with dgramDelayQueue := kept }, result)

def recvArp (self : NetworkInterface) (message : ARPMessage) :
    NetworkInterface × Except Exception (Option IPv4Datagram) :=
  match (self.learn message).reply message with
  | (self, .error thrown) => (self, .error thrown)
  | (self, .ok ()) =>
      match self.flushQueue with
      | (self, .error thrown) => (self, .error thrown)
      | (self, .ok ()) => (self, .ok none)

-- Every type but IPv4 is read as ARP; both parsers take the payload as one `Buffer`.
def recvFrame (self : NetworkInterface) (frame : EthernetFrame) :
    NetworkInterface × Except Exception (Option IPv4Datagram) :=
  if frame.header.dst ≠ self.ethernetAddress ∧ frame.header.dst ≠ ethernetBroadcast then
    (self, .ok none)
  else
    match frame.payload.toBuffer with
    | .error thrown => (self, .error thrown)
    | .ok buffer =>
        if frame.header.type = EthernetHeader.typeIPv4 then
          let (result, dgram) := ({} : IPv4Datagram).parse buffer
          (self, .ok (if result = .noError then some dgram else none))
        else
          let (result, message) := ({} : ARPMessage).parse buffer
          if result ≠ .noError then (self, .ok none) else self.recvArp message

def tick (self : NetworkInterface) (msSinceLastTick : Nat) : NetworkInterface :=
  let timer := add64 self.timer msSinceLastTick
  { self with timer, addressTable := retain (fun _ mapping => ¬mapping.2 < timer) self.addressTable }

end NetworkInterface

inductive InterfaceOp
  | sendDatagram (dgram : IPv4Datagram) (nextHop : Address)
  | recvFrame (frame : EthernetFrame)
  | tick (msSinceLastTick : Nat)

namespace NetworkInterface

def step (self : NetworkInterface) : InterfaceOp → NetworkInterface
  | .sendDatagram dgram nextHop => (self.sendDatagram dgram nextHop).1
  | .recvFrame frame => (self.recvFrame frame).1
  | .tick ms => self.tick ms

def emitted (self : NetworkInterface) (op : InterfaceOp) : List EthernetFrame :=
  (self.step op).framesOut.drop self.framesOut.length

theorem emitted_of_append {self : NetworkInterface} {op : InterfaceOp} {frames : List EthernetFrame}
    (pushed : (self.step op).framesOut = self.framesOut ++ frames) : self.emitted op = frames := by
  rw [emitted, pushed, List.drop_left]

section Sending

theorem arpRequest_supported (self : NetworkInterface) (ip : UInt32) : (self.arpRequest ip).supported := rfl

theorem arpReply_supported (self : NetworkInterface) (message : ARPMessage) : (self.arpReply message).supported := rfl

variable {self : NetworkInterface} {nextHop : Address}

theorem sendDatagram_mapped {mapping : EthernetAddress × Nat}
    (mapped : self.addressTable.lookup nextHop.ipv4Numeric = some mapping) (dgram : IPv4Datagram) :
    self.sendDatagram dgram nextHop =
      match dgram.serialize with
      | .error thrown => (self, .error thrown)
      | .ok payload => (self.pushFrame (self.ipv4Frame mapping.1 payload), .ok ()) := by
  simp only [sendDatagram, mapped]

variable (unmapped : self.addressTable.lookup nextHop.ipv4Numeric = none)
include unmapped

theorem sendDatagram_pending (pending : self.pending nextHop.ipv4Numeric) (dgram : IPv4Datagram) :
    self.sendDatagram dgram nextHop = (self.delay dgram nextHop.ipv4Numeric self.timer, .ok ()) := by
  simp only [sendDatagram, unmapped, pending, if_true]

theorem sendDatagram_asking (idle : ¬self.pending nextHop.ipv4Numeric) (dgram : IPv4Datagram) :
    self.sendDatagram dgram nextHop =
      ((self.delay dgram nextHop.ipv4Numeric (add64 self.timer 5000)).pushFrame
        (self.arpFrame ethernetBroadcast (self.arpRequest nextHop.ipv4Numeric).layout), .ok ()) := by
  simp only [sendDatagram, unmapped]
  rw [if_neg idle, ARPMessage.serialize_supported (arpRequest_supported _ _)]
  rfl

theorem step_send_unmapped (dgram : IPv4Datagram) :
    ∃ timeout frames, self.step (.sendDatagram dgram nextHop) =
        (self.delay dgram nextHop.ipv4Numeric timeout).pushFrames frames ∧
      ∀ frame ∈ frames, frame.header.type = EthernetHeader.typeArp := by
  by_cases pending : self.pending nextHop.ipv4Numeric
  · refine ⟨self.timer, [], ?_, by simp⟩
    simp only [step, sendDatagram_pending unmapped pending, pushFrames, List.append_nil]
  · refine ⟨_, _, congrArg Prod.fst (sendDatagram_asking unmapped pending dgram), ?_⟩
    intro frame member
    rw [List.mem_singleton.mp member]
    rfl

end Sending

section Receiving

def heard (ethernetAddress : EthernetAddress) (frame : EthernetFrame) : Option ARPMessage :=
  if frame.header.dst ≠ ethernetAddress ∧ frame.header.dst ≠ ethernetBroadcast then
    none
  else
    match frame.payload.toBuffer with
    | .error _ => none
    | .ok buffer =>
        if frame.header.type = EthernetHeader.typeIPv4 then
          none
        else
          let (result, message) := ({} : ARPMessage).parse buffer
          if result = .noError then some message else none

theorem recvFrame_state (self : NetworkInterface) (frame : EthernetFrame) :
    (self.recvFrame frame).1 =
      match heard self.ethernetAddress frame with
      | none => self
      | some message => (self.recvArp message).1 := by
  rw [recvFrame, heard]
  by_cases elsewhere : frame.header.dst ≠ self.ethernetAddress ∧ frame.header.dst ≠ ethernetBroadcast
  · rw [if_pos elsewhere, if_pos elsewhere]
  · rw [if_neg elsewhere, if_neg elsewhere]
    cases frame.payload.toBuffer with
    | error thrown => rfl
    | ok buffer =>
        by_cases datagram : frame.header.type = EthernetHeader.typeIPv4
        · simp only [if_pos datagram]
        · simp only [if_neg datagram]
          by_cases clean : (({} : ARPMessage).parse buffer).1 = .noError
          · simp only [clean, ne_eq, not_true_eq_false, if_false, if_true]
          · simp only [clean, ne_eq, not_false_eq_true, if_true, if_false]

def replies (self : NetworkInterface) (message : ARPMessage) : List EthernetFrame :=
  if message.opcode = ARPMessage.opcodeRequest ∧ message.targetIpAddress = self.ipAddress.ipv4Numeric then
    [self.arpFrame message.senderEthernetAddress (self.arpReply message).layout]
  else
    []

theorem reply_eq (self : NetworkInterface) (message : ARPMessage) :
    self.reply message = (self.pushFrames (self.replies message), .ok ()) := by
  rw [reply, replies]
  split
  · rw [ARPMessage.serialize_supported (arpReply_supported _ _)]
    rfl
  · rw [pushFrames, List.append_nil]

@[simp] theorem flush_pushFrames (self : NetworkInterface) (frames : List EthernetFrame)
    (queue : List DelayedDgram) : (self.pushFrames frames).flush queue = self.flush queue := by
  induction queue with
  | nil => rfl
  | cons delayed rest ih =>
      simp only [flush, ih]
      rfl

def afterArp (self : NetworkInterface) (message : ARPMessage) : NetworkInterface :=
  let flushed := (self.learn message).flush self.dgramDelayQueue
  { (self.learn message).pushFrames (self.replies message ++ flushed.1) with dgramDelayQueue := flushed.2.1 }

theorem recvArp_eq (self : NetworkInterface) (message : ARPMessage) :
    self.recvArp message =
      (self.afterArp message, ((self.learn message).flush self.dgramDelayQueue).2.2.map fun _ => none) := by
  have queue : ((self.learn message).pushFrames (self.replies message)).dgramDelayQueue = self.dgramDelayQueue := rfl
  have answers : (self.learn message).replies message = self.replies message := rfl
  rw [recvArp, reply_eq]
  simp only [flushQueue, answers, flush_pushFrames, queue, afterArp]
  cases ((self.learn message).flush self.dgramDelayQueue).2.2 <;> simp [pushFrames, Except.map]

theorem step_heard {self : NetworkInterface} {frame : EthernetFrame} {message : ARPMessage}
    (hears : heard self.ethernetAddress frame = some message) :
    self.step (.recvFrame frame) = self.afterArp message := by
  rw [step, recvFrame_state, hears]
  exact congrArg Prod.fst (self.recvArp_eq message)

theorem emitted_heard {self : NetworkInterface} {frame : EthernetFrame} {message : ARPMessage}
    (hears : heard self.ethernetAddress frame = some message) :
    self.emitted (.recvFrame frame) = self.replies message ++ ((self.learn message).flush self.dgramDelayQueue).1 :=
  emitted_of_append (congrArg framesOut (step_heard hears))

theorem step_unheard {self : NetworkInterface} {frame : EthernetFrame}
    (ignores : heard self.ethernetAddress frame = none) : self.step (.recvFrame frame) = self := by
  rw [step, recvFrame_state, ignores]

theorem lookup_afterArp (self : NetworkInterface) (ip : UInt32) (message : ARPMessage) :
    (self.afterArp message).addressTable.lookup ip =
      if message.senderIpAddress = ip then some (message.senderEthernetAddress, add64 self.timer 30000)
      else self.addressTable.lookup ip := by
  have table : (self.afterArp message).addressTable = self.addressTable.insert message.senderIpAddress
      (message.senderEthernetAddress, add64 self.timer 30000) := rfl
  rw [table]
  split
  next same => rw [same, AList.lookup_insert]
  next other => exact AList.lookup_insert_ne (Ne.symm other)

theorem replies_frames (self : NetworkInterface) (message : ARPMessage) :
    ∀ frame ∈ self.replies message, frame.header.type = EthernetHeader.typeArp := by
  rw [replies]
  split
  · intro frame member
    rw [List.mem_singleton.mp member]
    rfl
  · simp

theorem flush_frames (self : NetworkInterface) (queue : List DelayedDgram) :
    ∀ frame ∈ (self.flush queue).1, frame.header.type = EthernetHeader.typeIPv4 := by
  fun_induction self.flush queue with
  | case1 => simp
  | case2 _ _ _ _ _ _ flushed ih => simpa [flushed] using ih
  | case3 => simp
  | case4 _ _ _ _ _ _ _ _ _ _ flushed ih =>
      intro frame member
      rcases List.mem_cons.mp member with rfl | later
      · rfl
      · exact ih frame (by rwa [flushed])

theorem flush_sublist (self : NetworkInterface) (queue : List DelayedDgram) :
    (self.flush queue).2.1.Sublist queue := by
  fun_induction self.flush queue with
  | case1 => exact .slnil
  | case2 _ _ _ _ _ _ flushed ih => exact .cons_cons _ (by simpa [flushed] using ih)
  | case3 => exact .refl _
  | case4 _ _ _ _ _ _ _ _ _ _ flushed ih => exact .cons _ (by simpa [flushed] using ih)

theorem flush_kept_or_mapped (self : NetworkInterface) (queue : List DelayedDgram) :
    ∀ delayed ∈ queue, delayed ∈ (self.flush queue).2.1 ∨ (self.addressTable.lookup delayed.nextHopIp).isSome := by
  fun_induction self.flush queue with
  | case1 => simp
  | case2 _ _ _ _ _ _ flushed ih =>
      intro delayed member
      rcases List.mem_cons.mp member with rfl | later
      · exact .inl (List.mem_cons_self ..)
      · exact (ih delayed later).imp_left fun kept => List.mem_cons_of_mem _ (by simpa [flushed] using kept)
  | case3 => exact fun _ member => .inl member
  | case4 _ _ _ _ mapped _ _ _ _ _ flushed ih =>
      intro delayed member
      rcases List.mem_cons.mp member with rfl | later
      · exact .inr (by rw [mapped]; rfl)
      · exact (ih delayed later).imp_left fun kept => by simpa [flushed] using kept

end Receiving

theorem lookup_tick (self : NetworkInterface) (ip : UInt32) (ms : Nat) (mapping : EthernetAddress × Nat) :
    (self.tick ms).addressTable.lookup ip = some mapping ↔
      self.addressTable.lookup ip = some mapping ∧ add64 self.timer ms ≤ mapping.2 := by
  have kept : (self.tick ms).addressTable =
      retain (fun _ mapping => ¬mapping.2 < add64 self.timer ms) self.addressTable := rfl
  rw [kept, lookup_retain]
  simp [Option.filter_eq_some_iff]

theorem step_extends (self : NetworkInterface) (op : InterfaceOp) :
    (self.step op).ethernetAddress = self.ethernetAddress ∧ self.framesOut <+: (self.step op).framesOut := by
  cases op with
  | sendDatagram dgram nextHop =>
      cases mapped : self.addressTable.lookup nextHop.ipv4Numeric with
      | some mapping =>
          rw [step, sendDatagram_mapped mapped]
          cases dgram.serialize with
          | error thrown => exact ⟨rfl, List.prefix_refl _⟩
          | ok payload => exact ⟨rfl, List.prefix_append ..⟩
      | none =>
          obtain ⟨timeout, frames, after, _⟩ := step_send_unmapped mapped dgram
          rw [after]
          exact ⟨rfl, List.prefix_append ..⟩
  | recvFrame frame =>
      cases hears : heard self.ethernetAddress frame with
      | none =>
          rw [step_unheard hears]
          exact ⟨rfl, List.prefix_refl _⟩
      | some message =>
          rw [step_heard hears]
          exact ⟨rfl, List.prefix_append ..⟩
  | tick ms => exact ⟨rfl, List.prefix_refl _⟩

theorem framesOut_step (self : NetworkInterface) (op : InterfaceOp) :
    (self.step op).framesOut = self.framesOut ++ self.emitted op := by
  obtain ⟨frames, pushed⟩ := (self.step_extends op).2
  rw [emitted_of_append pushed.symm, pushed]

end NetworkInterface

end Sponge
