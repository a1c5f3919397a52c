import Sponge.ConnectionCalls
import Sponge.SpongeSocket

set_option autoImplicit false

namespace Sponge

open Shared EventLoop FileDescriptor

theorem TCPSender.fillWindow_isEnded (s : TCPSender) : s.fillWindow.stream.isEnded = s.stream.isEnded := by
  apply s.fillWindow_invariant fun t => t.stream.isEnded = s.stream.isEnded
  · rfl
  · rfl
  · exact fun t same => t.sendNext_emits.ended.trans same

namespace TCPConnection

theorem segmentReceived_isEnded (c : TCPConnection) (seg : TCPSegment) :
    (c.segmentReceived seg).sender.stream.isEnded = c.sender.stream.isEnded := by
  have accepted : (c.accept seg).sender.stream.isEnded = c.sender.stream.isEnded := by
    rw [(c.accept_eq seg).2]
    split <;> rfl
  have noted : ((c.accept seg).acknowledge seg).sender.stream.isEnded = c.sender.stream.isEnded := by
    simp only [acknowledge]
    split
    · refine (TCPSender.fillWindow_isEnded _).trans ?_
      rw [(TCPSender.ackReceived_frame ..).2.1, accepted]
    · exact accepted
  have closes (c : TCPConnection) : c.closeIfDone.sender = c.sender := by
    simp only [closeIfDone]
    split_ifs <;> rfl
  have answers (c : TCPConnection) : c.answer.sender.stream = c.sender.stream := by
    simp only [answer]
    split <;> rfl
  simp only [segmentReceived]
  split_ifs
  · exact (TCPSender.fillWindow_isEnded _).trans noted
  · rw [closes, answers, noted]
  · rw [closes, noted]

theorem tick_isEnded (c : TCPConnection) (ms : Nat) :
    (c.tick ms).sender.stream.isEnded = c.sender.stream.isEnded := by
  have ticked : (c.passTime ms).sender.stream.isEnded = c.sender.stream.isEnded := by
    rw [passTime_sender, TCPSender.tick_frame]
  simp only [tick]
  split <;> exact ticked

end TCPConnection

namespace Endpoint

variable (e : Endpoint)

theorem step_isEnded {event : Event} (other : event ≠ .endInputStream) :
    (e.step event).conn.sender.stream.isEnded = e.conn.sender.stream.isEnded := by
  cases event with
  | endInputStream => exact absurd rfl other
  | connect => exact TCPSender.fillWindow_isEnded _
  | write data => exact TCPSender.fillWindow_isEnded _
  | read len | popOutput len | transmit => rfl
  | tick ms => exact e.conn.tick_isEnded ms
  | deliver seg => exact e.conn.segmentReceived_isEnded seg

theorem next_of_returned {seg : TCPSegment}
    (returned : e.conn.call (.deliver seg) = (e.conn.segmentReceived seg, .ok ())) :
    { e with conn := e.conn.next (.deliver seg) } = e.step (.deliver seg) := by
  rw [TCPConnection.next, returned]
  rfl

end Endpoint

namespace Host

variable {α π : Type} [DatagramAdapter α π] (h : Host α)

theorem receive_cases (packet : Option π) :
    (h.receive packet).1.datagramAdapter = (DatagramAdapter.read h.datagramAdapter packet).1 ∧
      ((h.receive packet).1.tcp = h.tcp ∨
        ∃ seg, (DatagramAdapter.read h.datagramAdapter packet).2 = .ok (some seg) ∧
          (h.receive packet).1.tcp = { h.tcp with conn := h.tcp.conn.next (.deliver seg) }) := by
  unfold receive
  split
  next read => exact ⟨by rw [read], .inl rfl⟩
  next read => exact ⟨by rw [read], .inl rfl⟩
  next read => exact ⟨by rw [read], .inr ⟨_, by rw [read], rfl⟩⟩

theorem transmit_cases :
    h.transmit.1 = h ∨ ∃ front rest, h.tcp.conn.segmentsOut = front :: rest ∧
      h.transmit.1.datagramAdapter = (DatagramAdapter.write h.datagramAdapter front).1 ∧
      (h.transmit.1.tcp = h.tcp ∨ h.transmit.1.tcp = h.tcp.step .transmit) := by
  unfold transmit
  split
  next => exact .inl rfl
  next front rest queue =>
    refine .inr ⟨front, rest, queue, ?_⟩
    split
    next written => exact ⟨by rw [written], .inl rfl⟩
    next written => exact ⟨by rw [written], .inr rfl⟩

theorem step_conn (event : HostEvent π) :
    (h.step event).tcp.conn = h.tcp.conn ∨ ∃ call, (h.step event).tcp.conn = h.tcp.conn.next call := by
  cases event with
  | write data => exact .inr ⟨.write data, rfl⟩
  | endInputStream => exact .inr ⟨.endInputStream, rfl⟩
  | popOutput len => exact .inr ⟨.popOutput len, rfl⟩
  | tick ms => exact .inr ⟨.tick ms, rfl⟩
  | receive packet =>
      rcases (h.receive_cases packet).2 with same | ⟨seg, -, after⟩
      · exact .inl (congrArg Endpoint.conn same)
      · exact .inr ⟨.deliver seg, congrArg Endpoint.conn after⟩
  | transmit =>
      rcases h.transmit_cases with same | ⟨front, -, -, -, same | after⟩
      · exact .inl (congrArg (fun h => h.tcp.conn) same)
      · exact .inl (congrArg Endpoint.conn same)
      · exact .inr ⟨.transmit, congrArg Endpoint.conn after⟩

theorem step_receiver {inv : TCPReceiver → Prop} (keeps : TCPConnection.KeepsReceiver inv)
    (before : inv h.tcp.conn.receiver) (event : HostEvent π) : inv (h.step event).tcp.conn.receiver := by
  rcases h.step_conn event with same | ⟨call, after⟩
  · rwa [same]
  · rw [after]
    exact keeps.call before call

structure Internal (h h' : Host α) : Prop where
  accepted : h'.tcp.accepted = h.tcp.accepted
  delivered : h'.tcp.delivered = h.tcp.delivered
  isEnded : h'.tcp.conn.sender.stream.isEnded = h.tcp.conn.sender.stream.isEnded

omit [DatagramAdapter α π] in
theorem Internal.of_step {h h' : Host α} {event : Event} (after : h'.tcp = h.tcp.step event)
    (internal : ∃ seg ms, event = .deliver seg ∨ event = .transmit ∨ event = .tick ms) : h.Internal h' := by
  have isEnded : event ≠ .endInputStream := by
    obtain ⟨seg, ms, rfl | rfl | rfl⟩ := internal <;> exact nofun
  refine ⟨?_, ?_, by rw [after, h.tcp.step_isEnded isEnded]⟩ <;> rw [after] <;>
    obtain ⟨seg, ms, rfl | rfl | rfl⟩ := internal <;> rfl

omit [DatagramAdapter α π] in
theorem Internal.of_same {h h' : Host α} (after : h'.tcp = h.tcp) : h.Internal h' :=
  ⟨by rw [after], by rw [after], by rw [after]⟩

theorem receive_internal (packet : Option π) : h.Internal (h.receive packet).1 := by
  rcases (h.receive_cases packet).2 with same | ⟨seg, -, after⟩
  · exact .of_same same
  · rcases h.tcp.conn.deliver_cases seg with ⟨-, noted⟩ | ⟨-, returned⟩
    · refine ⟨by rw [after], by rw [after], ?_⟩
      rw [after, TCPConnection.next, noted.frame]
    · exact .of_step (after.trans (h.tcp.next_of_returned returned)) ⟨seg, 0, .inl rfl⟩

theorem transmit_internal : h.Internal h.transmit.1 := by
  rcases h.transmit_cases with same | ⟨front, -, -, -, same | after⟩
  · exact .of_same (by rw [same])
  · exact .of_same same
  · exact .of_step after ⟨front, 0, .inr (.inl rfl)⟩

theorem tick_internal (ms : Nat) : h.Internal (h.tick ms).1 := by
  have after : (h.tick ms).1.tcp = h.tcp.step (.tick ms) := rfl
  exact .of_step after ⟨{}, ms, .inr (.inr rfl)⟩

theorem next {offered : Option π → Prop} {start h : Host α} (run : Reaches step (Legal offered) start h)
    (event : HostEvent π) (legal : h.Legal offered event) : Reaches step (Legal offered) start (h.step event) :=
  run.step legal

end Host

namespace TCPSpongeSocket

variable {α π : Type} [DatagramAdapter α π]

structure Relays (s : TCPSpongeSocket α π) : Prop where
  accepted : s.tcp.accepted = s.threadData.received
  delivered : s.tcp.delivered = s.threadData.sent
  closes : s.tcp.conn.sender.stream.isEnded = true → s.outboundShutdown = true

structure Sound (offered : Option π → Prop) (start : Host α) (s : TCPSpongeSocket α π) : Prop where
  relays : s.Relays
  offers : offered s.kernel.packet
  reached : Reaches Host.step (Host.Legal offered) start s.toHost

def Live (id : SocketRule) (s : TCPSpongeSocket α π) : Prop := id ∉ s.cancelled

def Armed : SocketRule → TCPSpongeSocket α π → Prop
  | .threadIn, s => s.outboundShutdown = false
  | _, _ => True

section Callbacks

variable {offered : Option π → Prop} {start : Host α} {s : TCPSpongeSocket α π}

omit [DatagramAdapter α π] in
theorem Relays.internal (relays : s.Relays) {host : Host α} (internal : s.toHost.Internal host) (acked : Bool) :
    { s with toHost := host, fullyAcked := acked }.Relays where
  accepted := internal.accepted.trans relays.accepted
  delivered := internal.delivered.trans relays.delivered
  closes := fun ended => relays.closes (internal.isEnded.symm.trans ended)

theorem Sound.datagramIn (sound : s.Sound offered start) : s.datagramIn.1.Sound offered start := by
  have reached := Host.next sound.reached (.receive s.kernel.packet) sound.offers
  have internal := s.toHost.receive_internal s.kernel.packet
  have after (acked : Bool) :
      { s with toHost := (s.toHost.receive s.kernel.packet).1, fullyAcked := acked }.Sound offered start :=
    ⟨sound.relays.internal internal acked, sound.offers, reached⟩
  unfold TCPSpongeSocket.datagramIn
  generalize s.toHost.receive s.kernel.packet = received at after
  obtain ⟨host, result⟩ := received
  cases result with
  | error thrown => exact after s.fullyAcked
  | ok _ => exact after _

theorem write_all (c : TCPConnection) {data : Bytes} (room : data.length ≤ c.remainingOutboundCapacity) :
    (c.write data).1 = data.length := c.sender.stream.appendLength_of_room data room

theorem Sound.threadIn (sound : s.Sound offered start) (armed : Armed .threadIn s) :
    s.threadIn.1.Sound offered start := by
  have cases := s.threadData.read_cases s.tcp.conn.remainingOutboundCapacity s.kernel.threadRead
  have isOpen : s.tcp.conn.sender.stream.isEnded = false := by
    by_contra ended
    exact absurd (sound.relays.closes (by simpa using ended)) (by rw [armed]; decide)
  unfold TCPSpongeSocket.threadIn
  generalize s.threadData.read s.tcp.conn.remainingOutboundCapacity s.kernel.threadRead = called at cases ⊢
  obtain ⟨threadData, result⟩ := called
  rcases cases with ⟨data, rfl, reads⟩ | ⟨failed, reads⟩
  · have all := write_all s.tcp.conn reads.within
    have accepted : (s.tcp.step (.write data)).accepted = threadData.received := by
      rw [reads.received, ← sound.relays.accepted]
      change s.tcp.accepted ++ data.take (s.tcp.conn.write data).1 = _
      rw [all, List.take_length]
    have delivered : s.tcp.delivered = threadData.sent := sound.relays.delivered.trans reads.sent.symm
    have stays : (s.tcp.step (.write data)).conn.sender.stream.isEnded = _ := s.tcp.step_isEnded nofun
    have written := Host.next sound.reached (.write data) isOpen
    dsimp only
    rw [if_neg (by rw [all]; exact fun differs => differs rfl)]
    split
    next =>
      have ended := Host.next written .endInputStream trivial
      exact ⟨⟨accepted, delivered, fun _ => rfl⟩, sound.offers, ended⟩
    next =>
      refine ⟨⟨accepted, delivered, fun ended => ?_⟩, sound.offers, written⟩
      rw [stays, isOpen] at ended
      cases ended
  · cases result with
    | ok data => cases failed
    | error thrown =>
        have received : threadData.received = s.threadData.received := by rw [reads.received, List.append_nil]
        exact ⟨⟨sound.relays.accepted.trans received.symm, sound.relays.delivered.trans reads.sent.symm,
          sound.relays.closes⟩, sound.offers, sound.reached⟩

theorem Sound.threadOut (sound : s.Sound offered start) : s.threadOut.1.Sound offered start := by
  have cases := s.threadData.write_front s.tcp.conn.inboundStream 65536 s.kernel.threadWrite
  unfold TCPSpongeSocket.threadOut
  dsimp only at cases ⊢
  generalize s.threadData.write _ false _ = called at cases ⊢
  obtain ⟨threadData, result⟩ := called
  rcases cases with ⟨n, rfl, writes, -⟩ | ⟨failed, rfl⟩
  · have popped := Host.next sound.reached (.popOutput n) trivial
    have accepted : s.tcp.accepted = threadData.received := sound.relays.accepted.trans writes.received.symm
    have delivered : (s.tcp.step (.popOutput n)).delivered = threadData.sent := by
      rw [writes.sent, ← sound.relays.delivered]
      change s.tcp.delivered ++ s.tcp.conn.inboundStream.peekOutput n = _
      rw [ByteStream.peekOutput, if_neg (by exact Nat.not_lt.mpr writes.within)]
    dsimp only
    split
    next =>
      cases s.kernel.threadShutdown <;>
        exact ⟨⟨accepted, delivered, sound.relays.closes⟩, sound.offers, popped⟩
    next => exact ⟨⟨accepted, delivered, sound.relays.closes⟩, sound.offers, popped⟩
  · cases result with
    | ok data => cases failed
    | error thrown => exact ⟨sound.relays, sound.offers, sound.reached⟩

theorem Sound.datagramOut (sound : s.Sound offered start) : s.datagramOut.1.Sound offered start := by
  refine loop_invariant queued (fun state => state.1.transmit)
    (fun state : Host α × Except Exception Unit => { s with toHost := state.1 }.Sound offered start) ?_ _
    (s.toHost, .ok ()) sound
  intro state _ before
  have reached := Host.next before.reached .transmit trivial
  exact ⟨before.relays.internal state.1.transmit_internal s.fullyAcked, before.offers, reached⟩

theorem Sound.callback (sound : s.Sound offered start) {id : SocketRule} (armed : Armed id s) :
    ((rule id).callback s).1.Sound offered start := by
  cases id with
  | datagramIn => exact sound.datagramIn
  | threadIn => exact sound.threadIn armed
  | threadOut => exact sound.threadOut
  | datagramOut => exact sound.datagramOut

theorem Sound.note (sound : s.Sound offered start) (id : SocketRule) : (s.note id).Sound offered start :=
  ⟨⟨sound.relays.accepted, sound.relays.delivered, sound.relays.closes⟩, sound.offers, sound.reached⟩

theorem Sound.cancel (sound : s.Sound offered start) (id : SocketRule) :
    ((rule id).cancel s).1.Sound offered start := by
  cases id with
  | datagramIn => exact sound.note _
  | threadOut => exact sound.note _
  | datagramOut => exact sound.note _
  | threadIn =>
      have ended := Host.next sound.reached .endInputStream trivial
      have after : s.endOutbound.Sound offered start :=
        ⟨⟨sound.relays.accepted, sound.relays.delivered, fun _ => rfl⟩, sound.offers, ended⟩
      exact after.note _

structure Frame (id : SocketRule) (s s' : TCPSpongeSocket α π) : Prop where
  cancelled : s'.cancelled = s.cancelled
  kernel : s'.kernel = s.kernel
  outboundShutdown : id ≠ .threadIn → s'.outboundShutdown = s.outboundShutdown

theorem callback_frame (id : SocketRule) (s : TCPSpongeSocket α π) : Frame id s ((rule id).callback s).1 := by
  cases id with
  | datagramIn =>
      simp only [rule, TCPSpongeSocket.datagramIn]
      split <;> exact ⟨rfl, rfl, fun _ => rfl⟩
  | threadIn =>
      simp only [rule, TCPSpongeSocket.threadIn]
      split
      · exact ⟨rfl, rfl, fun _ => rfl⟩
      · split_ifs <;> exact ⟨rfl, rfl, fun other => absurd rfl other⟩
  | threadOut =>
      simp only [rule, TCPSpongeSocket.threadOut]
      split
      · exact ⟨rfl, rfl, fun _ => rfl⟩
      · split
        · split <;> exact ⟨rfl, rfl, fun _ => rfl⟩
        · exact ⟨rfl, rfl, fun _ => rfl⟩
  | datagramOut => exact ⟨rfl, rfl, fun _ => rfl⟩

theorem cancel_frame (id : SocketRule) (s : TCPSpongeSocket α π) :
    ((rule id).cancel s).1.cancelled = s.cancelled ++ [id] ∧ ((rule id).cancel s).1.kernel = s.kernel ∧
      (id ≠ .threadIn → ((rule id).cancel s).1.outboundShutdown = s.outboundShutdown) := by
  cases id <;> exact ⟨rfl, rfl, fun other => by first | rfl | exact absurd rfl other⟩

theorem cancel_returns (id : SocketRule) (s : TCPSpongeSocket α π) : ((rule id).cancel s).2 = .ok () := by
  cases id <;> rfl

omit [DatagramAdapter α π] in
theorem armed_of_same {s' : TCPSpongeSocket α π} {id other : SocketRule} (different : id ≠ other)
    (same : id ≠ .threadIn → s'.outboundShutdown = s.outboundShutdown) (armed : Armed other s) : Armed other s' := by
  cases other with
  | threadIn => exact (same different).trans armed
  | datagramIn | threadOut | datagramOut => trivial

theorem arms {id : SocketRule} (interested : (rule id).interest s = true) : Armed id s := by
  cases id with
  | threadIn =>
      simp only [rule, Bool.and_eq_true, Bool.not_eq_true'] at interested
      exact interested.1.2
  | datagramIn | threadOut | datagramOut => trivial

theorem keeps (offered : Option π → Prop) (start : Host α) : Keeps rule (Sound offered start) Live Armed where
  arms := fun _ _ _ _ _ interested => arms interested
  callback := by
    intro id s sound alive armed
    exact ⟨sound.callback armed, by rwa [Live, (callback_frame id s).cancelled]⟩
  cancel := fun id s sound _ => ⟨sound.cancel id, fun failed => by rw [cancel_returns] at failed; cases failed⟩
  others := by
    intro id other s different _ _ alive
    constructor
    · rw [Live, (cancel_frame id s).1, List.mem_append, List.mem_singleton]
      exact fun member => member.elim alive different.symm
    · rw [Live, (callback_frame id s).cancelled]
      exact fun _ => alive
  othersArmed := fun id _ s different _ _ armed =>
    ⟨armed_of_same different (cancel_frame id s).2.2 armed,
      fun _ => armed_of_same different (callback_frame id s).outboundShutdown armed⟩

end Callbacks

structure Between (offered : Option π → Prop) (start : Host α) (state : List SocketRule × TCPSpongeSocket α π) :
    Prop where
  distinct : state.1.Nodup
  relays : state.2.Relays
  reached : Reaches Host.step (Host.Legal offered) start state.2.toHost
  lives : ∀ id ∈ state.1, Live id state.2
  within : state.1.Sublist allRules
  known : ∀ id, id ∈ state.1 ∨ id ∈ state.2.cancelled

section Rounds

variable {offered : Option π → Prop} {start : Host α} {state : List SocketRule × TCPSpongeSocket α π}

theorem Between.holds (between : Between offered start state) {kernel : SocketKernel π}
    (offers : offered kernel.packet) : Holds (Sound offered start) Live state.1 { state.2 with kernel } where
  distinct := between.distinct
  holds := ⟨⟨between.relays.accepted, between.relays.delivered, between.relays.closes⟩, offers, between.reached⟩
  lives := between.lives

theorem Between.waited (between : Between offered start state) {kernel : SocketKernel π}
    (offers : offered kernel.packet) (poll : Poll) :
    let waited := waitNextEvent rule state.1 poll { state.2 with kernel }
    Between offered start (waited.1, waited.2.1) := by
  have holds := (keeps offered start).waitNextEvent poll (between.holds offers)
  refine ⟨holds.distinct, holds.holds.relays, holds.holds.reached, holds.lives,
    (waitNextEvent_sublist ..).trans between.within, fun id => ?_⟩
  refine @waitNextEvent_gone _ _ rule (fun id s => id ∈ s.cancelled) ?_ ?_ id _ poll _ (between.known id)
  · intro id s _
    rw [(cancel_frame id s).1]
    exact List.mem_append_right _ List.mem_cons_self
  · intro id other s already
    rw [(cancel_frame other s).1, (callback_frame other s).cancelled]
    exact ⟨List.mem_append_left _ already, already⟩

theorem Between.tick (between : Between offered start state) (ms : Nat) :
    Between offered start (state.1, { state.2 with toHost := (state.2.toHost.tick ms).1 }) :=
  { between with
    relays := between.relays.internal (state.2.toHost.tick_internal ms) state.2.fullyAcked
    reached := Host.next between.reached (.tick ms) trivial }

theorem Between.step (between : Between offered start state) {op : Round π} (offers : offered op.kernel.packet) :
    Between offered start (step state op) := by
  have waited := between.waited offers op.poll
  simp only [TCPSpongeSocket.step, tcpRound]
  generalize waitNextEvent rule state.1 op.poll { state.2 with kernel := op.kernel } = called at waited ⊢
  obtain ⟨rules, s, result⟩ := called
  cases result with
  | error thrown => exact waited
  | ok result =>
      dsimp only
      split_ifs
      · exact waited
      · exact waited.tick op.elapsed
      · exact waited

theorem between_start (offered : Option π → Prop) {start : Host α} {kernel : SocketKernel π}
    (unwritten : start.tcp.accepted = []) (unread : start.tcp.delivered = [])
    (isOpen : start.tcp.conn.sender.stream.isEnded = false) :
    Between offered start (allRules, { toHost := start, kernel }) where
  distinct := show allRules.Nodup by decide
  relays := ⟨unwritten, unread, fun ended => absurd ended (by rw [isOpen]; decide)⟩
  reached := .start
  lives := fun _ _ => List.not_mem_nil
  within := List.Sublist.refl _
  known := fun id => .inl (show id ∈ allRules by cases id <;> decide)

theorem Between.foldl (between : Between offered start state) {ops : List (Round π)}
    (offers : ∀ op ∈ ops, offered op.kernel.packet) : Between offered start (ops.foldl TCPSpongeSocket.step state) := by
  induction ops generalizing state with
  | nil => exact between
  | cons op ops ih =>
      rw [List.forall_mem_cons] at offers
      exact ih (between.step offers.1) offers.2

end Rounds

end TCPSpongeSocket

inductive Opening
  | connect
  | listenAndAccept
  deriving DecidableEq

def Opening.host {α : Type} (opening : Opening) (cfg : TCPConfig) (randomIsn : WrappingInt32) (datagramAdapter : α) :
    Host α where
  datagramAdapter := datagramAdapter
  tcp := match opening with
    | .connect => (Endpoint.new cfg randomIsn).step .connect
    | .listenAndAccept => .new cfg randomIsn

def Opening.socket {α π : Type} (opening : Opening) (cfg : TCPConfig) (randomIsn : WrappingInt32) (datagramAdapter : α)
    (kernel : SocketKernel π) : List SocketRule × TCPSpongeSocket α π :=
  (TCPSpongeSocket.allRules, { toHost := opening.host cfg randomIsn datagramAdapter, kernel })

namespace TCPSpongeSocket

variable {α π : Type} [DatagramAdapter α π] (opening : Opening) (cfg : TCPConfig) (randomIsn : WrappingInt32)
  (datagramAdapter : α) (kernel : SocketKernel π)

theorem between_opening (offered : Option π → Prop) : Between offered (opening.host cfg randomIsn datagramAdapter)
    (opening.socket cfg randomIsn datagramAdapter kernel) := by
  cases opening with
  | connect => exact between_start offered rfl rfl (TCPSender.fillWindow_isEnded _)
  | listenAndAccept => exact between_start offered rfl rfl rfl

theorem socket_relays (ops : List (Round π)) :
    let s := (ops.foldl step (opening.socket cfg randomIsn datagramAdapter kernel)).2
    s.tcp.accepted = s.threadData.received ∧ s.tcp.delivered = s.threadData.sent ∧
      Reaches Host.step (Host.Legal fun packet => ∃ op ∈ ops, op.kernel.packet = packet)
        (opening.host cfg randomIsn datagramAdapter) s.toHost := by
  have between := between_opening opening cfg randomIsn datagramAdapter kernel
    fun packet => ∃ op ∈ ops, op.kernel.packet = packet
  have last := between.foldl fun op member => ⟨op, member, rfl⟩
  exact ⟨last.relays.accepted, last.relays.delivered, last.reached⟩

end TCPSpongeSocket

namespace Host

variable {α π : Type} [DatagramAdapter α π]

structure Dependable (offered : Option π → Prop) (h : Host α) : Prop where
  reads : h.tcp.conn.receiver.Addressable → ∀ packet, offered packet → (h.receive packet).2 = .ok ()
  counts : ∀ packet, offered packet → (DatagramAdapter.fd h.datagramAdapter).readCount ≠
    (DatagramAdapter.fd (h.receive packet).1.datagramAdapter).readCount
  writes : h.transmit.2 = .ok ()
  ticks : ∀ ms, (h.tick ms).2 = .ok ()

end Host

structure SocketKernel.Honest {π : Type} (kernel : SocketKernel π) : Prop where
  threadRead : ReadsHonestly kernel.threadRead
  threadWrite : WritesHonestly kernel.threadWrite
  threadShutdown : kernel.threadShutdown = true

namespace TCPSpongeSocket

variable {α π : Type} [DatagramAdapter α π] {offered : Option π → Prop} {start : Host α} {s : TCPSpongeSocket α π}

section Returns

theorem datagramIn_ok (dependable : s.toHost.Dependable offered) (offers : offered s.kernel.packet)
    (addressable : s.tcp.conn.receiver.Addressable) :
    s.datagramIn.2 = .ok () ∧ (DatagramAdapter.fd s.datagramAdapter).readCount ≠
      (DatagramAdapter.fd s.datagramIn.1.datagramAdapter).readCount := by
  have reads := dependable.reads addressable _ offers
  have counts := dependable.counts _ offers
  unfold datagramIn
  generalize s.toHost.receive s.kernel.packet = received at reads counts ⊢
  obtain ⟨host, result⟩ := received
  cases result with
  | error thrown => cases reads
  | ok _ => exact ⟨rfl, counts⟩

omit [DatagramAdapter α π] in
theorem threadIn_ok (honest : ReadsHonestly s.kernel.threadRead) :
    s.threadIn.2 = .ok () ∧ s.threadIn.1.threadData.readCount = s.threadData.readCount + 1 := by
  obtain ⟨ok, count⟩ := s.threadData.read_ok s.tcp.conn.remainingOutboundCapacity _ honest
  have cases := s.threadData.read_cases s.tcp.conn.remainingOutboundCapacity s.kernel.threadRead
  unfold threadIn
  generalize s.threadData.read s.tcp.conn.remainingOutboundCapacity s.kernel.threadRead = called at ok count cases ⊢
  obtain ⟨threadData, result⟩ := called
  rcases cases with ⟨data, rfl, reads⟩ | ⟨failed, -⟩
  · dsimp only
    rw [if_neg (by rw [write_all s.tcp.conn reads.within]; exact fun differs => differs rfl)]
    split <;> exact ⟨rfl, count⟩
  · rw [ok] at failed
    cases failed

omit [DatagramAdapter α π] in
theorem threadOut_ok (honest : WritesHonestly s.kernel.threadWrite) (succeeds : s.kernel.threadShutdown = true) :
    s.threadOut.2 = .ok () ∧ s.threadData.writeCount ≠ s.threadOut.1.threadData.writeCount := by
  have ok := s.threadData.write_front_ok s.tcp.conn.inboundStream 65536 honest
  have cases := s.threadData.write_front s.tcp.conn.inboundStream 65536 s.kernel.threadWrite
  unfold threadOut
  dsimp only at ok cases ⊢
  generalize s.threadData.write _ false _ = called at ok cases ⊢
  obtain ⟨threadData, result⟩ := called
  rcases cases with ⟨n, rfl, -, count⟩ | ⟨failed, -⟩
  · have counts := count_ne_succ s.threadData.writeCount
    dsimp only at count ⊢
    rw [succeeds]
    split <;> refine ⟨rfl, ?_⟩
    · change s.threadData.writeCount ≠ threadData.writeCount + 1
      rw [count]
      exact counts.2
    · rw [count]
      exact counts.1
  · rw [ok] at failed
    cases failed

-- Everything on the queue is written, so that there is nothing left to be interested in.
theorem datagramOut_ok (dependable : ∀ h, Reaches Host.step (Host.Legal offered) start h → h.Dependable offered)
    (reached : Reaches Host.step (Host.Legal offered) start s.toHost) :
    s.datagramOut.2 = .ok () ∧ s.datagramOut.1.tcp.conn.segmentsOut = [] := by
  let inv (state : Host α × Except Exception Unit) : Prop :=
    state.2 = .ok () ∧ Reaches Host.step (Host.Legal offered) start state.1
  have kept (state : Host α × Except Exception Unit) (_ : queued state = true) (before : inv state) :
      inv state.1.transmit :=
    ⟨(dependable state.1 before.2).writes, Host.next before.2 .transmit trivial⟩
  have shorter (state : Host α × Except Exception Unit) (waiting : queued state = true) (before : inv state) :
      state.1.transmit.1.tcp.conn.segmentsOut.length < state.1.tcp.conn.segmentsOut.length := by
    have writes := (dependable state.1 before.2).writes
    unfold Host.transmit at writes ⊢
    split at writes <;> rename_i queue
    · simp [queued, queue] at waiting
    · split at writes
      · cases writes
      · simp [queue, Endpoint.step, Endpoint.transmit]
  have initial : inv (s.toHost, .ok ()) := ⟨rfl, reached⟩
  have last := loop_invariant queued (fun state => state.1.transmit) inv kept s.tcp.conn.segmentsOut.length _ initial
  have stopped := loop_exits queued (fun state => state.1.transmit) inv
    (fun state => state.1.tcp.conn.segmentsOut.length) kept shorter s.tcp.conn.segmentsOut.length _ initial le_rfl
  have drained {state : Host α × Except Exception Unit} (ok : state.2 = .ok ()) (stopped : queued state = false) :
      state.1.tcp.conn.segmentsOut = [] := by
    simpa [queued, ok, Except.isOk, Except.toBool] using stopped
  exact ⟨last.1, drained last.1 stopped⟩

-- A rule that can be called without a throw: what is read from the network must have a place in the stream.
def Ready (id : SocketRule) (s : TCPSpongeSocket α π) : Prop :=
  Armed id s ∧ (id = .datagramIn → s.tcp.conn.receiver.Addressable)

theorem callback_addressable {id : SocketRule} (other : id ≠ .datagramIn)
    (addressable : s.tcp.conn.receiver.Addressable) :
    ((rule id).callback s).1.tcp.conn.receiver.Addressable := by
  cases id with
  | datagramIn => exact absurd rfl other
  | threadIn =>
      simp only [rule, threadIn]
      split
      · exact addressable
      · split_ifs <;> exact addressable
  | threadOut =>
      have popped (n : Nat) : (s.tcp.step (.popOutput n)).conn.receiver.Addressable :=
        (s.tcp.conn.receiver.addressable_popOutput_iff n).mpr addressable
      simp only [rule, threadOut]
      split
      · exact addressable
      · split
        · split <;> exact popped _
        · exact popped _
  | datagramOut =>
      refine loop_invariant queued (fun state => state.1.transmit)
        (fun state : Host α × Except Exception Unit => state.1.tcp.conn.receiver.Addressable) ?_ _
        (s.toHost, .ok ()) addressable
      intro state _ before
      rcases state.1.transmit_cases with same | ⟨front, -, -, -, same | after⟩
      · rwa [same]
      · rwa [same]
      · rw [after]
        exact before

theorem cancel_addressable (id : SocketRule) (addressable : s.tcp.conn.receiver.Addressable) :
    ((rule id).cancel s).1.tcp.conn.receiver.Addressable := by
  cases id <;> exact addressable

theorem serves (dependable : ∀ h, Reaches Host.step (Host.Legal offered) start h → h.Dependable offered) :
    Serves rule (fun s => s.Sound offered start ∧ s.kernel.Honest) Live Ready where
  callback := by
    intro id s both alive ready
    have kept := (keeps offered start).callback id s both.1 alive ready.1
    exact ⟨⟨kept.1, by rw [(callback_frame id s).kernel]; exact both.2⟩, kept.2⟩
  cancel := by
    intro id s both alive
    have kept := (keeps offered start).cancel id s both.1 alive
    exact ⟨⟨kept.1, by rw [(cancel_frame id s).2.1]; exact both.2⟩, kept.2⟩
  others := by
    intro id other s different both own alive
    have kept := (keeps offered start).others id other s different both.1 own alive
    exact ⟨kept.1, fun ready => kept.2 ready.1⟩
  othersArmed := by
    intro id other s different both own ready
    have kept := (keeps offered start).othersArmed id other s different both.1 own ready.1
    refine ⟨⟨kept.1, fun reads => cancel_addressable id (ready.2 reads)⟩, fun armed => ⟨kept.2 armed.1, fun reads => ?_⟩⟩
    exact callback_addressable (fun same => different (same.trans reads.symm)) (ready.2 reads)
  cancels := fun id s _ _ => cancel_returns id s
  returns := by
    intro id s both _ ready
    cases id with
    | datagramIn => exact (datagramIn_ok (dependable _ both.1.reached) both.1.offers (ready.2 rfl)).1
    | threadIn => exact (threadIn_ok both.2.threadRead).1
    | threadOut => exact (threadOut_ok both.2.threadWrite both.2.threadShutdown).1
    | datagramOut => exact (datagramOut_ok dependable both.1.reached).1
  services := by
    intro id s both _ ready
    cases id with
    | datagramIn => exact .inl (datagramIn_ok (dependable _ both.1.reached) both.1.offers (ready.2 rfl)).2
    | threadIn =>
        have count := (threadIn_ok both.2.threadRead).2
        simp only [rule, Rule.serviceCount, count]
        exact .inl (count_ne_succ _).1
    | threadOut => exact .inl (threadOut_ok both.2.threadWrite both.2.threadShutdown).2
    | datagramOut =>
        have nothing := (datagramOut_ok dependable both.1.reached).2
        exact .inr (by simp [rule, nothing])

end Returns

section Exit

variable {state : List SocketRule × TCPSpongeSocket α π}

theorem Between.round_returns (between : Between offered start state)
    (dependable : ∀ h, Reaches Host.step (Host.Legal offered) start h → h.Dependable offered) {op : Round π}
    (intact : op.poll.Intact) (honest : op.kernel.Honest) (offers : offered op.kernel.packet)
    (addressable : state.2.tcp.conn.receiver.Addressable) : ∃ goesOn, (tcpRound state op).2.2 = .ok goesOn := by
  have holds := between.holds offers
  have waited := between.waited offers op.poll
  have armed := ((keeps offered start).setUp holds).waits
  have room := @setUp_invariant _ _ rule state.1 { state.2 with kernel := op.kernel }
    (fun s => s.tcp.conn.receiver.Addressable) (fun id _ _ before => cancel_addressable id before) addressable
  obtain ⟨result, returns⟩ := (serves dependable).waitNextEvent intact
    ⟨holds.distinct, ⟨holds.holds, honest⟩, holds.lives⟩ fun entry member asks => ⟨armed entry member asks, fun _ => room⟩
  simp only [tcpRound]
  generalize waitNextEvent rule state.1 op.poll { state.2 with kernel := op.kernel } = called at waited returns ⊢
  obtain ⟨rules, s, outcome⟩ := called
  obtain rfl : outcome = .ok result := returns
  dsimp only
  split_ifs
  · exact ⟨_, rfl⟩
  · exact ⟨true, by rw [(dependable _ waited.reached).ticks]; rfl⟩
  · exact ⟨_, rfl⟩

-- To cancel `threadIn` ends the outbound stream, which no rule before it looks at.
theorem allRules_apart : allRules.Pairwise fun earlier later => ∀ s : TCPSpongeSocket α π,
    (rule earlier).interest s = false → (rule earlier).interest ((rule later).cancel s).1 = false := by
  refine .cons ?_ (.cons ?_ (.cons ?_ (.cons ?_ .nil))) <;> intro later member <;> cases later <;>
    first | exact fun _ quiet => quiet | simp at member

theorem Between.exits (between : Between offered start state) {op : Round π} (offers : offered op.kernel.packet)
    (undisturbed : op.poll ≠ .interrupted)
    (exits : (waitNextEvent rule state.1 op.poll { state.2 with kernel := op.kernel }).2.2 = .ok .exit) :
    let s := (waitNextEvent rule state.1 op.poll { state.2 with kernel := op.kernel }).2.1
    (s.tcp.conn.isActive = false ∨ .datagramIn ∈ s.cancelled) ∧
      (s.tcp.conn.segmentsOut = [] ∨ .datagramOut ∈ s.cancelled) ∧
      (s.threadData.sent = s.tcp.inbound ∧
          (s.inboundShutdown = true ∨
            s.tcp.conn.inboundStream.eof = false ∧ s.tcp.conn.inboundStream.hasError = false) ∨
        .threadOut ∈ s.cancelled) := by
  have waited := between.waited offers op.poll
  obtain ⟨rules, world⟩ := waitNextEvent_exit_eq undisturbed exits
  obtain ⟨returned, silent⟩ := (waitNextEvent_exit_iff undisturbed).mp exits
  have quiet := setUp_quiet (allRules_apart.sublist between.within) returned silent
  rw [← world, ← rules] at quiet
  generalize waitNextEvent rule state.1 op.poll { state.2 with kernel := op.kernel } = called at waited quiet ⊢
  obtain ⟨rules, s, result⟩ := called
  dsimp only at quiet ⊢
  have idle (id : SocketRule) : (rule id).interest s = false ∨ id ∈ s.cancelled :=
    (waited.known id).imp_left (quiet id)
  refine ⟨idle .datagramIn, (idle .datagramOut).imp_left fun nothing => ?_,
    (idle .threadOut).imp_left fun nothing => ?_⟩
  · simpa [rule] using nothing
  · simp only [rule, Bool.or_eq_false_iff, Bool.not_eq_false', Bool.and_eq_false_iff] at nothing
    refine ⟨?_, nothing.2.symm⟩
    rw [Endpoint.inbound, List.isEmpty_iff.mp nothing.1, List.append_nil]
    exact waited.relays.delivered.symm

end Exit

end TCPSpongeSocket

end Sponge
