import Sponge.AdapterPassage
import Sponge.PeerCarriage
import Sponge.SocketRelay

set_option autoImplicit false

namespace Sponge

open Shared EventLoop

abbrev FullStackHost := Host TCPOverIPv4OverEthernetAdapter

structure World where
  host : Side → FullStackHost
  routers : List Router
  wire : List Bytes

namespace World

def parties (w : World) : Parties where
  adapter := fun side => (w.host side).datagramAdapter.toTCPOverIPv4Adapter
  tcp := fun side => (w.host side).tcp

def put (w : World) (side : Side) (host : FullStackHost) : World :=
  { w with host := Function.update w.host side host }

theorem put_put (w : World) (side : Side) (earlier host : FullStackHost) :
    (w.put side earlier).put side host = w.put side host := by
  simp [put]

@[simp] theorem host_put (w : World) (side : Side) (host : FullStackHost) : (w.put side host).host side = host :=
  Function.update_self ..

theorem host_put_peer (w : World) (side : Side) (host : FullStackHost) :
    (w.put side host).host side.peer = w.host side.peer :=
  Function.update_of_ne side.peer_ne ..

structure Sound (start : Side → TCPOverIPv4Adapter) (isn : Side → WrappingInt32) (w : World) : Prop where
  carries : Carries start isn w.parties
  hosts : ∀ side, (w.host side).datagramAdapter.Holds (Travels start w.parties)
  routers : ∀ router ∈ w.routers, router.Holds (Travels start w.parties)
  wire : ∀ bytes ∈ w.wire, Brings (Travels start w.parties) bytes

structure Advances (start : Side → TCPOverIPv4Adapter) (isn : Side → WrappingInt32) (w w' : World) : Prop where
  sound : w'.Sound start isn
  later : w.parties.Later w'.parties

section Put

variable {start : Side → TCPOverIPv4Adapter} {isn : Side → WrappingInt32} {w : World} {side : Side}
  {host : FullStackHost}

theorem parties_put (w : World) (side : Side) (host : FullStackHost) :
    (w.put side host).parties =
      { adapter := Function.update w.parties.adapter side host.datagramAdapter.toTCPOverIPv4Adapter
        tcp := Function.update w.parties.tcp side host.tcp } := by
  have each {α : Type} (f : FullStackHost → α) :
      (fun other => f ((w.put side host).host other)) = Function.update (fun other => f (w.host other)) side (f host) :=
    Function.comp_update f w.host side host
  simp only [parties, each fun host => host.datagramAdapter.toTCPOverIPv4Adapter, each fun host => host.tcp]

theorem Sound.put (sound : w.Sound start isn) (carries : Carries start isn (w.put side host).parties)
    (later : w.parties.Later (w.put side host).parties) (holds : host.datagramAdapter.Holds (Travels start w.parties)) :
    Advances start isn w (w.put side host) := by
  refine ⟨⟨carries, fun other => ?_, ?_, ?_⟩, later⟩
  · by_cases same : other = side
    · subst same
      simpa [World.put] using holds.mono fun _ => Travels.later later
    · simpa [World.put, same] using (sound.hosts other).mono fun _ => Travels.later later
  · exact fun router member => (sound.routers router member).mono fun _ => Travels.later later
  · exact fun bytes member => (sound.wire bytes member).mono fun _ => Travels.later later

theorem Sound.rebind (sound : w.Sound start isn) (tcp : host.tcp = (w.host side).tcp)
    (possible : Possible start side host.datagramAdapter.toTCPOverIPv4Adapter)
    (listening : host.datagramAdapter.listening = true → (w.host side).datagramAdapter.listening = true)
    (holds : host.datagramAdapter.Holds (Travels start w.parties)) : Advances start isn w (w.put side host) := by
  have parties : (w.put side host).parties = w.parties.rebind side host.datagramAdapter.toTCPOverIPv4Adapter := by
    have still : Function.update w.parties.tcp side (w.host side).tcp = w.parties.tcp :=
      Function.update_eq_self side w.parties.tcp
    rw [parties_put, tcp, still]
    rfl
  refine sound.put ?_ ?_ holds <;> rw [parties]
  · exact sound.carries.rebind possible
  · exact Parties.rebind_later listening

theorem Sound.adapter (sound : w.Sound start isn) (tcp : host.tcp = (w.host side).tcp)
    (adapter : host.datagramAdapter.toTCPOverIPv4Adapter = (w.host side).datagramAdapter.toTCPOverIPv4Adapter)
    (holds : host.datagramAdapter.Holds (Travels start w.parties)) : Advances start isn w (w.put side host) :=
  sound.rebind tcp (adapter ▸ sound.carries.possible side) (fun listens => adapter ▸ listens) holds

theorem parties_put_tcp
    (adapter : host.datagramAdapter.toTCPOverIPv4Adapter = (w.host side).datagramAdapter.toTCPOverIPv4Adapter) :
    (w.put side host).parties = { w.parties with tcp := Function.update w.parties.tcp side host.tcp } := by
  have still : Function.update w.parties.adapter side (w.host side).datagramAdapter.toTCPOverIPv4Adapter =
      w.parties.adapter := Function.update_eq_self side w.parties.adapter
  rw [parties_put, adapter, still]

theorem Sound.act (sound : w.Sound start isn) {event : Event} (tcp : host.tcp = (w.host side).tcp.step event)
    (adapter : host.datagramAdapter.toTCPOverIPv4Adapter = (w.host side).datagramAdapter.toTCPOverIPv4Adapter)
    (legal : host.tcp.accepted.length < 2 ^ 31 - 2 → w.parties.tcp.Legal (side, event))
    (holds : host.datagramAdapter.Holds (Travels start w.parties)) : Advances start isn w (w.put side host) := by
  have parties : (w.put side host).parties = w.parties.act side event := by
    rw [parties_put_tcp adapter, tcp]
    rfl
  refine sound.put ?_ ?_ holds <;> rw [parties]
  · refine sound.carries.act fun short => legal ?_
    have moved : (w.parties.act side event).tcp side = host.tcp := by
      rw [tcp]
      exact Function.update_self side ((w.host side).tcp.step event) w.parties.tcp
    exact moved ▸ short side
  · exact w.parties.act_later side event

theorem Sound.throw (sound : w.Sound start isn) {seg : TCPSegment} {conn : TCPConnection}
    (tcp : host.tcp = { (w.host side).tcp with conn })
    (adapter : host.datagramAdapter.toTCPOverIPv4Adapter = (w.host side).datagramAdapter.toTCPOverIPv4Adapter)
    (throws : (w.host side).tcp.conn.Throws seg) (noted : TCPConnection.Noted (w.host side).tcp.conn conn)
    (holds : host.datagramAdapter.Holds (Travels start w.parties)) : Advances start isn w (w.put side host) := by
  have parties : (w.put side host).parties = w.parties.setConn side conn := by
    rw [parties_put_tcp adapter, tcp]
    rfl
  refine sound.put ?_ ?_ holds <;> rw [parties]
  · exact sound.carries.throw noted throws
  · exact Parties.setConn_later noted

theorem Sound.deliver (sound : w.Sound start isn) {seg original : TCPSegment}
    (tcp : host.tcp = { (w.host side).tcp with conn := (w.host side).tcp.conn.next (.deliver seg) })
    (adapter : host.datagramAdapter.toTCPOverIPv4Adapter = (w.host side).datagramAdapter.toTCPOverIPv4Adapter)
    (emitted : original ∈ (w.host side.peer).tcp.emitted)
    (received : ∀ c : TCPConnection, c.segmentReceived seg = c.segmentReceived original)
    (holds : host.datagramAdapter.Holds (Travels start w.parties)) : Advances start isn w (w.put side host) := by
  rcases (w.host side).tcp.conn.deliver_cases seg with ⟨throws, noted⟩ | ⟨-, returned⟩
  · exact sound.throw tcp adapter throws noted holds
  · have same : host.tcp = (w.host side).tcp.step (.deliver original) := by
      rw [tcp, Endpoint.next_of_returned _ returned]
      simp only [Endpoint.step, received]
    exact sound.act same adapter (fun _ => emitted) holds

end Put

section Step

variable {start : Side → TCPOverIPv4Adapter} {isn : Side → WrappingInt32} {w : World}

def Offered (start : Side → TCPOverIPv4Adapter) (w : World) (packet : Option Bytes) : Prop :=
  ∀ bytes, packet = some bytes → Brings (Travels start w.parties) bytes

theorem Sound.receive (apart : Apart start) (sound : w.Sound start isn) (side : Side) {packet : Option Bytes}
    (offered : w.Offered start packet) :
    Advances start isn w (w.put side ((w.host side).receive packet).1) := by
  obtain ⟨adapter, came⟩ := (w.host side).receive_cases packet
  obtain ⟨holds, reads⟩ := (sound.hosts side).read (travels_lasting start w.parties) offered
  change TCPOverIPv4OverEthernetAdapter.Reads _ _ (DatagramAdapter.read (w.host side).datagramAdapter packet).1
    (DatagramAdapter.read (w.host side).datagramAdapter packet).2 at reads
  rw [← adapter] at reads
  replace holds : ((w.host side).receive packet).1.datagramAdapter.Holds _ := adapter ▸ holds
  generalize ((w.host side).receive packet).1 = host at came holds reads ⊢
  generalize (DatagramAdapter.read (w.host side).datagramAdapter packet).2 = result at came reads
  cases reads with
  | nothing _ unread same =>
      rcases came with still | ⟨seg, returned, -⟩
      · exact sound.adapter still same holds
      · exact absurd returned (unread seg)
  | datagram dgram travels contiguous unwrapped =>
      obtain ⟨answer, returned, arrived⟩ := arrives apart (sound.carries.possible side) contiguous travels
      have bound : Advances start isn w (w.put side { host with tcp := (w.host side).tcp }) :=
        sound.rebind rfl (unwrapped ▸ arrived.possible) (fun listens => arrived.listening (unwrapped ▸ listens)) holds
      rcases came with still | ⟨seg, taken, delivered⟩
      · rw [← still] at bound
        exact bound
      · cases returned.symm.trans taken
        have held := bound.sound.hosts side
        rw [host_put] at held
        have last : Advances start isn (w.put side { host with tcp := (w.host side).tcp }) (w.put side host) := by
          rw [← put_put w side { host with tcp := (w.host side).tcp } host]
          obtain ⟨original, emitted, received⟩ := arrived.fromPeer seg rfl
          refine bound.sound.deliver ?_ (by rw [host_put]) ?_ received held
          · rw [host_put]
            exact delivered
          · rw [host_put_peer]
            exact emitted
        exact ⟨last.sound, bound.later.trans last.later⟩

theorem Sound.transmit (sound : w.Sound start isn) (side : Side) :
    Advances start isn w (w.put side (w.host side).transmit.1) := by
  rcases (w.host side).transmit_cases with same | ⟨front, rest, queue, adapter, came⟩
  · rw [same]
    exact sound.adapter rfl rfl (sound.hosts side)
  · have queued : front ∈ (w.host side).tcp.conn.segmentsOut := queue ▸ List.mem_cons_self
    have possible := sound.carries.possible side
    have compact : Compact front := (sound.carries.compact side).conn.queue front queued
    have made : MadeBy start w.parties side (w.parties.adapter side) front ((w.parties.adapter side).wrapped front) :=
      ⟨possible, possible.of_listening, List.mem_append_right _ queued, compact,
        TCPOverIPv4Adapter.bears_wrapped _ front⟩
    obtain ⟨holds, kept⟩ := (sound.hosts side).write (travels_lasting start w.parties) compact (.sent _ _ _ made)
    change (DatagramAdapter.write (w.host side).datagramAdapter front).1.Holds _ at holds
    change (DatagramAdapter.write (w.host side).datagramAdapter front).1.toTCPOverIPv4Adapter = _ at kept
    rw [← adapter] at holds kept
    rcases came with still | sent
    · exact sound.adapter still kept holds
    · exact sound.act sent kept (fun _ => trivial) holds

theorem Sound.tick (sound : w.Sound start isn) (side : Side) (ms : Nat) :
    Advances start isn w (w.put side ((w.host side).tick ms).1) := by
  obtain ⟨holds, kept⟩ := (sound.hosts side).tick ms
  have ticked : ((w.host side).tick ms).1.tcp = (w.host side).tcp.step (.tick ms) := rfl
  exact sound.act ticked kept (fun _ => trivial) holds

theorem Sound.call (sound : w.Sound start isn) (side : Side) {event : Event}
    (legal : ((w.host side).tcp.step event).accepted.length < 2 ^ 31 - 2 → w.parties.tcp.Legal (side, event)) :
    Advances start isn w (w.put side { w.host side with tcp := (w.host side).tcp.step event }) :=
  sound.act rfl rfl legal (sound.hosts side)

theorem Sound.step (apart : Apart start) (sound : w.Sound start isn) (side : Side) {event : HostEvent Bytes}
    (legal : (w.host side).Legal (w.Offered start) event) :
    Advances start isn w (w.put side ((w.host side).step event)) := by
  cases event with
  | receive packet => exact sound.receive apart side legal
  | write data => exact sound.call side fun short => ⟨legal, short⟩
  | endInputStream => exact sound.call side fun _ => trivial
  | popOutput len => exact sound.call side fun _ => trivial
  | transmit => exact sound.transmit side
  | tick ms => exact sound.tick side ms

theorem Offered.later {w' : World} (later : w.parties.Later w'.parties) {packet : Option Bytes}
    (offered : w.Offered start packet) : w'.Offered start packet :=
  fun bytes found => (offered bytes found).mono fun _ => Travels.later later

theorem Sound.run (apart : Apart start) (sound : w.Sound start isn) (side : Side) {host : FullStackHost}
    (run : Reaches Host.step (Host.Legal (w.Offered start)) (w.host side) host) :
    Advances start isn w (w.put side host) := by
  refine run.invariant (fun host => Advances start isn w (w.put side host)) ?_ fun host event before legal => ?_
  · exact sound.adapter rfl rfl (sound.hosts side)
  · have offered : ((w.put side host).host side).Legal ((w.put side host).Offered start) event := by
      rw [host_put]
      cases event with
      | receive packet => exact Offered.later before.later legal
      | write data | endInputStream | popOutput len | transmit | tick ms => exact legal
    have after := before.sound.step apart side offered
    rw [host_put, put_put] at after
    exact ⟨after.sound, before.later.trans after.later⟩

end Step

end World

structure Station where
  ethernetAddress : EthernetAddress
  ipAddress : Address
  nextHop : Address
  opening : Opening
  cfg : TCPConfig
  randomIsn : WrappingInt32
  filter : FdAdapterConfig
  kernel : SocketKernel Bytes

namespace Station

def adapter (station : Station) : TCPOverIPv4OverEthernetAdapter :=
  { TCPOverIPv4OverEthernetAdapter.new station.ethernetAddress station.ipAddress station.nextHop with
    config := station.filter
    listening := station.opening == .listenAndAccept }

def socket (station : Station) : List SocketRule × TCPSpongeSocket TCPOverIPv4OverEthernetAdapter Bytes :=
  station.opening.socket station.cfg station.randomIsn station.adapter station.kernel

def isn (station : Station) : WrappingInt32 := station.cfg.fixedIsn.getD station.randomIsn

variable (station : Station)

theorem adapter_holds (P : IPv4Datagram → Prop) : station.adapter.Holds P where
  interface := ⟨by simp [adapter, TCPOverIPv4OverEthernetAdapter.new], by
    simp [adapter, TCPOverIPv4OverEthernetAdapter.new]⟩
  written := by
    intro bytes member
    have written := (({} : PacketDevice).write_eq ({} : EthernetFrame).serialize).1
    rw [show station.adapter.tap.written = _ from written] at member
    rw [List.mem_singleton.mp member]
    have dummy : ({} : EthernetFrame).Brings P := nofun
    exact dummy.serialized

theorem tcp_cases : station.socket.2.tcp = .new station.cfg station.randomIsn ∨
    station.socket.2.tcp = (Endpoint.new station.cfg station.randomIsn).step .connect := by
  cases opening : station.opening <;> simp [socket, Opening.socket, Opening.host, opening]

theorem compact : SegmentLaw.Holds Compact station.socket.2.tcp := by
  have new := SegmentLaw.holds_new Compact station.cfg station.randomIsn
  rcases station.tcp_cases with same | same <;> rw [same]
  · exact new
  · exact new.step compact_law .connect

theorem sends : station.socket.2.tcp.Sends station.isn := by
  have new := Endpoint.sends_new station.cfg station.randomIsn
  rcases station.tcp_cases with same | same <;> rw [same]
  · exact new
  · exact new.step (show Endpoint.Mannerly _ .connect from trivial)

theorem receives (isn : WrappingInt32) : station.socket.2.tcp.Receives isn [] := by
  have sends := Endpoint.sends_new station.cfg station.randomIsn
  have new := Endpoint.receives_new isn [] station.cfg station.randomIsn
  rcases station.tcp_cases with same | same <;> rw [same]
  · exact new
  · exact new.step sends (by decide) (show Endpoint.Mannerly _ .connect from trivial) nofun

theorem accepted : station.socket.2.tcp.accepted = [] := by
  rcases station.tcp_cases with same | same <;> rw [same] <;> rfl

end Station

def Router.sendFrame (router : Router) (n : Nat) : Router × Option EthernetFrame :=
  match router.interfaces[n]? with
  | none => (router, none)
  | some interface =>
      ({ router with interfaces := router.interfaces.set n { interface with framesOut := interface.framesOut.tail } },
        interface.framesOut.head?)

structure Internetwork where
  socket : Side → List SocketRule × TCPSpongeSocket TCPOverIPv4OverEthernetAdapter Bytes
  routers : List Router
  wire : List Bytes := []

inductive InternetworkOp
  | round (side : Side) (op : TCPSpongeSocket.Round Bytes)
  | router (i : Nat) (op : RouterOp)
  | sendFrame (i n : Nat)
  | inject (bytes : Bytes)

namespace Internetwork

def new (station : Side → Station) (routers : List Router) : Internetwork where
  socket := fun side => (station side).socket
  routers := routers

def step (net : Internetwork) : InternetworkOp → Internetwork
  | .round side op =>
      { net with socket := Function.update net.socket side (TCPSpongeSocket.step (net.socket side) op) }
  | .router i op =>
      match net.routers[i]? with
      | none => net
      | some router => { net with routers := net.routers.set i (router.next op) }
  | .sendFrame i n =>
      match net.routers[i]? with
      | none => net
      | some router =>
          let (router, frame) := router.sendFrame n
          { net with
            routers := net.routers.set i router
            wire := net.wire ++ frame.toList.map fun frame => frame.serialize.concatenate }
  | .inject bytes => { net with wire := net.wire ++ [bytes] }

def onWire (net : Internetwork) : List Bytes :=
  net.wire ++ (net.socket .left).2.datagramAdapter.tap.written ++ (net.socket .right).2.datagramAdapter.tap.written

/-- A frame may come to anyone, at any time and any number of times, or not at all. Others may send what they like, as
long as it does not pass for a segment of this connection. -/
def Legal (start : Side → TCPOverIPv4Adapter) (net : Internetwork) : InternetworkOp → Prop
  | .round _ op => ∀ bytes ∈ op.kernel.packet, bytes ∈ net.onWire
  | .router _ (.recvFrame _ frame) => ∃ bytes ∈ net.onWire, ({} : EthernetFrame).parse bytes = (.noError, frame)
  | .router _ _ => True
  | .sendFrame _ _ => True
  | .inject bytes => Brings (Foreign start) bytes

instance (start : Side → TCPOverIPv4Adapter) (net : Internetwork) :
    (op : InternetworkOp) → Decidable (net.Legal start op)
  | .round _ op => inferInstanceAs (Decidable (∀ bytes ∈ op.kernel.packet, bytes ∈ net.onWire))
  | .router _ (.recvFrame _ frame) =>
      inferInstanceAs (Decidable (∃ bytes ∈ net.onWire, ({} : EthernetFrame).parse bytes = (.noError, frame)))
  | .router _ .route | .router _ (.tick _ _) | .sendFrame _ _ => inferInstanceAs (Decidable True)
  | .inject bytes => inferInstanceAs (Decidable (Brings (Foreign start) bytes))

def world (net : Internetwork) : World where
  host := fun side => (net.socket side).2.toHost
  routers := net.routers
  wire := net.wire

structure Sound (start : Side → TCPOverIPv4Adapter) (isn : Side → WrappingInt32) (net : Internetwork) : Prop where
  world : net.world.Sound start isn
  between : ∀ side, TCPSpongeSocket.Between (fun _ => True) (net.socket side).2.toHost (net.socket side)

section Sound

variable {start : Side → TCPOverIPv4Adapter} {isn : Side → WrappingInt32} {net : Internetwork}

theorem Sound.brings (sound : net.Sound start isn) :
    ∀ bytes ∈ net.onWire, Brings (Travels start net.world.parties) bytes := by
  intro bytes member
  rcases List.mem_append.mp member with earlier | right
  · rcases List.mem_append.mp earlier with wire | left
    · exact sound.world.wire bytes wire
    · exact (sound.world.hosts .left).written bytes left
  · exact (sound.world.hosts .right).written bytes right

theorem Sound.round (apart : Apart start) (sound : net.Sound start isn) (side : Side)
    {op : TCPSpongeSocket.Round Bytes} (legal : net.Legal start (.round side op)) :
    (net.step (.round side op)).Sound start isn := by
  have offered : net.world.Offered start op.kernel.packet := fun bytes found => sound.brings bytes (legal bytes found)
  have again : TCPSpongeSocket.Between (net.world.Offered start) (net.world.host side) (net.socket side) :=
    { sound.between side with reached := .start }
  have after := again.step offered
  have world : (net.step (.round side op)).world =
      net.world.put side (TCPSpongeSocket.step (net.socket side) op).2.toHost := by
    simp only [Internetwork.world, step, World.put]
    congr 1
    exact Function.comp_update (fun state => state.2.toHost) net.socket side _
  refine ⟨world ▸ (sound.world.run apart side after.reached).sound, fun other => ?_⟩
  by_cases same : other = side
  · subst same
    simpa [step] using { after with reached := .start }
  · simpa [step, same] using sound.between other

theorem Sound.between_hosts (sound : net.Sound start isn) {routers : List Router} {wire : List Bytes}
    (holds : ∀ router ∈ routers, router.Holds (Travels start net.world.parties))
    (brings : ∀ bytes ∈ wire, Brings (Travels start net.world.parties) bytes) :
    { net with routers, wire : Internetwork }.Sound start isn :=
  ⟨⟨sound.world.carries, sound.world.hosts, holds, brings⟩, sound.between⟩

theorem Sound.replaced (sound : net.Sound start isn) (i : Nat) {router : Router}
    (holds : router.Holds (Travels start net.world.parties)) :
    ∀ other ∈ net.routers.set i router, other.Holds (Travels start net.world.parties) := by
  intro other member
  rcases List.mem_or_eq_of_mem_set member with before | rfl
  · exact sound.world.routers other before
  · exact holds

theorem Sound.router (sound : net.Sound start isn) (i : Nat) {op : RouterOp}
    (legal : net.Legal start (.router i op)) : (net.step (.router i op)).Sound start isn := by
  cases present : net.routers[i]? with
  | none => simpa only [step, present] using sound
  | some router =>
      have fed : Router.Fed (Travels start net.world.parties) op := by
        cases op with
        | recvFrame n frame =>
            obtain ⟨bytes, member, parsed⟩ := legal
            exact sound.brings bytes member frame parsed
        | route => trivial
        | tick n ms => trivial
      have holds := (sound.world.routers router (List.mem_of_getElem? present)).next (travels_lasting ..) fed
      simp only [step, present]
      exact sound.between_hosts (sound.replaced i holds) sound.world.wire

theorem sendFrame_holds {P : IPv4Datagram → Prop} {router : Router} (holds : router.Holds P) (n : Nat) :
    (router.sendFrame n).1.Holds P ∧ ∀ frame, (router.sendFrame n).2 = some frame → frame.Brings P := by
  unfold Router.sendFrame
  cases present : router.interfaces[n]? with
  | none => exact ⟨holds, nofun⟩
  | some interface =>
      have before := holds interface (List.mem_of_getElem? present)
      constructor
      · intro other member
        rcases List.mem_or_eq_of_mem_set member with kept | rfl
        · exact holds other kept
        · exact ⟨⟨before.interface.queue, fun frame later =>
            before.interface.frames frame (List.mem_of_mem_tail later)⟩, before.received⟩
      · exact fun frame front => before.interface.frames frame (List.mem_of_head? front)

theorem Sound.sendFrame (sound : net.Sound start isn) (i n : Nat) :
    (net.step (.sendFrame i n)).Sound start isn := by
  cases present : net.routers[i]? with
  | none => simpa only [step, present] using sound
  | some router =>
      obtain ⟨holds, front⟩ := sendFrame_holds (sound.world.routers router (List.mem_of_getElem? present)) n
      simp only [step, present]
      generalize router.sendFrame n = sent at holds front ⊢
      obtain ⟨after, frame⟩ := sent
      refine sound.between_hosts (sound.replaced i holds) fun bytes member => ?_
      rcases List.mem_append.mp member with before | last
      · exact sound.world.wire bytes before
      · obtain ⟨frame, found, rfl⟩ := List.mem_map.mp last
        exact (front frame (Option.mem_toList.mp found)).serialized

theorem Sound.inject (sound : net.Sound start isn) {bytes : Bytes} (legal : net.Legal start (.inject bytes)) :
    (net.step (.inject bytes)).Sound start isn := by
  refine sound.between_hosts sound.world.routers fun other member => ?_
  rcases List.mem_append.mp member with before | last
  · exact sound.world.wire other before
  · rw [List.mem_singleton.mp last]
    intro frame parsed ipv4 dgram found
    exact .foreign (IPv4Datagram.fieldsFit_of_parse found) (legal frame parsed ipv4 dgram found)

theorem Sound.step (apart : Apart start) (sound : net.Sound start isn) {op : InternetworkOp}
    (legal : net.Legal start op) : (net.step op).Sound start isn := by
  cases op with
  | round side op => exact sound.round apart side legal
  | router i op => exact sound.router i legal
  | sendFrame i n => exact sound.sendFrame i n
  | inject bytes => exact sound.inject legal

end Sound

def Idle (router : Router) : Prop :=
  ∀ interface ∈ router.interfaces,
    interface.dgramDelayQueue = [] ∧ interface.framesOut = [] ∧ interface.datagramsOut = []

section Runs

variable (station : Side → Station) (routers : List Router)

def adapters (side : Side) : TCPOverIPv4Adapter := (station side).adapter.toTCPOverIPv4Adapter

theorem sound_new (idle : ∀ router ∈ routers, Idle router) :
    (new station routers).Sound (adapters station) fun side => (station side).isn where
  world := by
    refine ⟨⟨fun side => .unchanged rfl, fun side => (station side).compact, fun _ => ?_⟩, ?_, ?_, nofun⟩
    · refine ⟨fun side => (station side).sends, fun side => ?_⟩
      change Endpoint.Receives _ (station side.peer).socket.2.tcp.accepted (station side).socket.2.tcp
      rw [Station.accepted]
      exact (station side).receives _
    · exact fun side => (station side).adapter_holds _
    · intro router member interface among
      obtain ⟨unsent, silent, unrouted⟩ := idle router member interface among
      exact AsyncNetworkInterface.holds_of_idle unsent silent unrouted
  between := fun side => TCPSpongeSocket.between_opening ..

theorem sent_prefix_of_received (apart : Apart (adapters station)) (idle : ∀ router ∈ routers, Idle router)
    (net : Internetwork) (run : Reaches step (Legal (adapters station)) (new station routers) net)
    (short : ∀ side, (net.socket side).2.threadData.received.length < 2 ^ 31 - 2) (side : Side) :
    (net.socket side).2.threadData.sent <+: (net.socket side.peer).2.threadData.received := by
  have sound := run.invariant (Sound (adapters station) fun side => (station side).isn)
    (sound_new station routers idle) fun _ _ sound legal => sound.step apart legal
  have relays side := (sound.between side).relays
  have carries := sound.world.carries.sound fun side => by
    change (net.socket side).2.tcp.accepted.length < _
    rw [(relays side).accepted]
    exact short side
  have inbound : (net.socket side).2.tcp.inbound <+: (net.socket side.peer).2.tcp.accepted :=
    (carries.receives side).inbound_prefix_stream
  rw [← (relays side).delivered, ← (relays side.peer).accepted]
  exact (List.prefix_append ..).trans inbound

end Runs

def sampleKernel : SocketKernel Bytes :=
  { packet := none, threadRead := fun _ => none, threadWrite := some, threadShutdown := true }

def sampleStation : Side → Station
  | .left =>
      { ethernetAddress := #v[2, 0, 0, 0, 0, 1], ipAddress := { ip := 0x0a000001 }, nextHop := { ip := 0x0a0000fe }
        opening := .connect, cfg := { fixedIsn := some ⟨4294967294⟩ }, randomIsn := ⟨0⟩
        filter := { source := ⟨0x0a000001, 4000⟩, destination := ⟨0x0a010002, 80⟩ }, kernel := sampleKernel }
  | .right =>
      { ethernetAddress := #v[2, 0, 0, 0, 0, 2], ipAddress := { ip := 0x0a010002 }, nextHop := { ip := 0x0a0100fe }
        opening := .listenAndAccept, cfg := { fixedIsn := some ⟨7⟩ }, randomIsn := ⟨0⟩
        filter := { source := ⟨0x0a010002, 80⟩, destination := {} }, kernel := sampleKernel }

def sampleRouter : Router :=
  let router : Router :=
    { interfaces :=
        [{ ethernetAddress := #v[2, 0, 0, 0, 1, 0], ipAddress := { ip := 0x0a0000fe } },
          { ethernetAddress := #v[2, 0, 0, 0, 1, 1], ipAddress := { ip := 0x0a0100fe } }] }
  (router.addRoute ⟨0x0a000000, 16, none, 0⟩).addRoute ⟨0x0a010000, 16, none, 1⟩

def turn (side : Side) (data : Bytes) (packet : Option Bytes) : InternetworkOp :=
  .round side
    { poll := .answered
        [{ readable := packet.isSome }, { readable := !data.isEmpty }, { writable := true }, { writable := true }]
      kernel := { packet, threadRead := fun _ => some data, threadWrite := some, threadShutdown := true }
      elapsed := 1 }

def hears (side : Side) (data : Bytes) (net : Internetwork) : InternetworkOp := turn side data net.wire.getLast?

def toRouter (side : Side) (n : Nat) (net : Internetwork) : InternetworkOp :=
  let bytes := (net.socket side).2.datagramAdapter.tap.written.getLastD []
  .router 0 (.recvFrame n (({} : EthernetFrame).parse bytes).2)

def play : Internetwork → List (Internetwork → InternetworkOp) → List InternetworkOp
  | _, [] => []
  | net, choose :: rest => choose net :: play (net.step (choose net)) rest

-- Both sides are asked for their addresses first. The acknowledgment of the handshake is lost.
def sampleRun : List InternetworkOp :=
  play (new sampleStation [sampleRouter])
    [fun _ => turn .left [] none, toRouter .left 0, fun _ => .sendFrame 0 0, hears .left [], toRouter .left 0,
      fun _ => .router 0 .route, fun _ => .sendFrame 0 1, hears .right [], toRouter .right 1, fun _ => .sendFrame 0 1,
      hears .right [], fun _ => turn .right [] none, toRouter .right 1, fun _ => .router 0 .route,
      fun _ => .inject [69, 0, 0, 1], fun _ => .sendFrame 0 0, hears .left [104, 105], fun _ => turn .left [] none,
      toRouter .left 0, fun _ => .router 0 .route, fun _ => .sendFrame 0 1, hears .right [],
      fun _ => turn .right [] none]

def sampleNet : Internetwork := sampleRun.foldl step (new sampleStation [sampleRouter])

theorem sampleNet_reached :
    Reaches step (Legal (adapters sampleStation)) (new sampleStation [sampleRouter]) sampleNet :=
  Reaches.start.foldl (by decide +kernel)

theorem sent_prefix_of_received_sample :
    (sampleNet.socket .right).2.threadData.sent = [104, 105] ∧
      (sampleNet.socket .right).2.threadData.sent <+: (sampleNet.socket Side.right.peer).2.threadData.received :=
  ⟨by decide +kernel,
    sent_prefix_of_received sampleStation [sampleRouter] ⟨by decide, by decide, by decide, by decide⟩
      (by simp [Idle, sampleRouter, Router.addRoute]) sampleNet sampleNet_reached (by decide +kernel) .right⟩

end Internetwork

end Sponge
