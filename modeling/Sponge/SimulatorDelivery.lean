import Sponge.InterfaceResolution
import Sponge.NetworkSimulator
import Sponge.Shared.Relay

set_option autoImplicit false

namespace Sponge.NetworkSimulator

open Shared

variable {k m : Nat}

theorem andThen_ok {σ : Type} {called : σ × Except Exception Unit} (ok : called.2 = .ok ())
    (next : σ → σ × Except Exception Unit) : andThen called next = next called.1 := by
  obtain ⟨state, result⟩ := called
  cases ok
  rfl

namespace Network

section Interfaces

variable (self : Network k m)

theorem host_setHost (n : Fin m) (host : Host) :
    (self.setHost n host).host = Function.update self.host n host := by
  funext other
  by_cases same : other = n
  · subst same
    rw [Function.update_self]
    exact Vector.getElem_set_self other.isLt
  · rw [Function.update_of_ne same]
    exact Vector.getElem_set_ne n.isLt other.isLt fun equal => same (Fin.ext equal.symm)

theorem interface_setHost (n : Fin m) (host : Host) :
    (self.setHost n host).interface = Function.update self.interface (.host n) host.interface := by
  funext port
  cases port with
  | router _ => rfl
  | host other =>
      simp only [interface, host_setHost]
      by_cases same : other = n
      · subst same
        rw [Function.update_self, Function.update_self]
      · rw [Function.update_of_ne same, Function.update_of_ne fun equal => same (Port.host.inj equal)]
        rfl

theorem interface_setInterface (port : Port k m) (iface : AsyncNetworkInterface) :
    (self.setInterface port iface).interface = Function.update self.interface port iface := by
  cases port with
  | router n =>
      funext other
      cases other with
      | router other =>
          by_cases same : other = n
          · subst same
            rw [Function.update_self]
            exact List.getElem_set_self _
          · have apart : n.val ≠ other.val := fun equal => same (Fin.ext equal.symm)
            rw [Function.update_of_ne fun equal => same (Port.router.inj equal)]
            exact List.getElem_set_ne apart _
      | host _ => rfl
  | host n => exact self.interface_setHost n _

end Interfaces

section Plan

variable (start : Network k m)

def mac (port : Port k m) : EthernetAddress := (start.interface port).ethernetAddress

def address (port : Port k m) : UInt32 := (start.interface port).ipAddress.ipv4Numeric

def link (connection : Fin k × List (Fin m)) : Port k m × List (Port k m) :=
  (.router connection.1, connection.2.map .host)

def star : Star (Port k m) UInt32 IPv4Datagram where
  address := start.address
  links := start.connections.map link
  forward item := (start.router.decision item).bind fun action =>
    if within : action.1 < k then
      some (.router ⟨action.1, within⟩, action.2.ipv4Numeric, (Router.forwarded item).resent)
    else
      none
  origin item := item.header.src

structure Wired : Prop where
  macs : Function.Injective start.mac
  unicast : ∀ port, start.mac port ≠ ethernetBroadcast
  addresses : Function.Injective start.address
  named : ∀ n : Fin m, (start.host n).myAddress.ipv4Numeric = start.address (.host n)
  distinct : (start.connections.flatMap ports).Nodup
  existing : start.router.RoutesExist

variable {start}

theorem not_host_router (n : Fin k) : ¬start.star.Host (.router n) := by
  rintro ⟨_, present, member⟩
  obtain ⟨connection, -, rfl⟩ := List.mem_map.mp present
  obtain ⟨_, -, same⟩ := List.mem_map.mp member
  cases same

theorem Wired.proper (wired : start.Wired) : start.star.Proper where
  injective := wired.addresses
  distinct := by
    have same : start.star.links.flatMap Star.members = start.connections.flatMap ports := List.flatMap_map ..
    rw [same]
    exact wired.distinct
  through := by
    intro item port key next onward
    obtain ⟨action, -, chosen⟩ := Option.bind_eq_some_iff.mp onward
    split at chosen
    · cases chosen
      exact not_host_router _
    · cases chosen
  lasting := by
    intro item port key next onward
    obtain ⟨action, -, chosen⟩ := Option.bind_eq_some_iff.mp onward
    split at chosen
    · cases chosen
      rfl
    · cases chosen

end Plan

structure Models (start net : Network k m) (expected : Fin m → List IPv4Datagram)
    (group : Port k m → Resolver (Port k m) UInt32 IPv4Datagram) : Prop where
  routes : net.router.routes = start.router.routes
  connections : net.connections = start.connections
  addressed : ∀ n : Fin m, (net.host n).myAddress = (start.host n).myAddress
  homed : ∀ n : Fin m, (net.host n).nextHop = (start.host n).nextHop
  expecting : ∀ n : Fin m, (net.host n).expectingToReceive = expected n
  represents : ∀ port, (net.interface port).Represents start.mac start.address port (group port)

section Calls

variable {start net : Network k m} {expected : Fin m → List IPv4Datagram}
  {group : Port k m → Resolver (Port k m) UInt32 IPv4Datagram} (models : start.Models net expected group)
include models

theorem Models.update_represents {after : Network k m} {port : Port k m} {iface : AsyncNetworkInterface}
    (changed : after.interface = Function.update net.interface port iface)
    {r : Resolver (Port k m) UInt32 IPv4Datagram} (represents : iface.Represents start.mac start.address port r)
    (other : Port k m) :
    (after.interface other).Represents start.mac start.address other (Function.update group port r other) := by
  rw [changed]
  by_cases same : other = port
  · subst same
    rw [Function.update_self, Function.update_self]
    exact represents
  · rw [Function.update_of_ne same, Function.update_of_ne same]
    exact models.represents other

theorem Models.setHost {n : Fin m} (host : Host) (address : host.myAddress = (start.host n).myAddress)
    (hop : host.nextHop = (start.host n).nextHop) {r : Resolver (Port k m) UInt32 IPv4Datagram}
    (represents : host.interface.Represents start.mac start.address (.host n) r) :
    start.Models (net.setHost n host) (Function.update expected n host.expectingToReceive)
      (Function.update group (.host n) r) := by
  have hosts := net.host_setHost n host
  refine ⟨models.routes, models.connections, fun other => ?_, fun other => ?_, fun other => ?_,
    models.update_represents (net.interface_setHost n host) represents⟩
  all_goals
    rw [hosts]
    by_cases same : other = n
    · subst same
      simp only [Function.update_self, address, hop]
    · simp only [Function.update_of_ne same, models.addressed, models.homed, models.expecting]

theorem Models.setInterface {port : Port k m} {iface : AsyncNetworkInterface}
    {r : Resolver (Port k m) UInt32 IPv4Datagram} (represents : iface.Represents start.mac start.address port r) :
    start.Models (net.setInterface port iface) expected (Function.update group port r) := by
  cases port with
  | router n => exact ⟨models.routes, models.connections, models.addressed, models.homed, models.expecting,
      models.update_represents (net.interface_setInterface (.router n) iface) represents⟩
  | host n =>
      have after := models.setHost { net.host n with interface := iface } (models.addressed n) (models.homed n)
        represents
      rwa [models.expecting n, Function.update_eq_self] at after

theorem Models.onInterface {port : Port k m}
    (call : AsyncNetworkInterface → AsyncNetworkInterface × Except Exception Unit)
    {r : Resolver (Port k m) UInt32 IPv4Datagram} (ok : (call (net.interface port)).2 = .ok ())
    (represents : (call (net.interface port)).1.Represents start.mac start.address port r) :
    (net.onInterface port call).2 = .ok () ∧
      start.Models (net.onInterface port call).1 expected (Function.update group port r) :=
  ⟨ok, models.setInterface represents⟩

theorem Models.deliver (wired : start.Wired) (port : Port k m) {frames : List EthernetFrame}
    {notices : List (Notice (Port k m) UInt32 IPv4Datagram)}
    (conveys : List.Forall₂ (EthernetFrame.Conveys start.mac start.address) frames notices) :
    (net.onInterface port (NetworkSimulator.deliver frames)).2 = .ok () ∧
      start.Models (net.onInterface port (NetworkSimulator.deliver frames)).1 expected
        (Function.update group port (notices.foldl (Resolver.hear start.address port) (group port))) := by
  have delivered : ∀ {iface : AsyncNetworkInterface} {r : Resolver (Port k m) UInt32 IPv4Datagram},
      iface.Represents start.mac start.address port r → (NetworkSimulator.deliver frames iface).2 = .ok () ∧
        (NetworkSimulator.deliver frames iface).1.Represents start.mac start.address port
          (notices.foldl (Resolver.hear start.address port) r) := by
    induction conveys with
    | nil => exact fun represents => ⟨rfl, represents⟩
    | @cons frame notice frames notices first rest ih =>
        intro iface r represents
        have whole : EthernetFrame.Conveys start.mac start.address
            { frame with payload := .ofBuffer frame.payload.concatenate } notice :=
          first.of_content rfl (BufferList.concatenate_ofBuffer _)
        have contiguous : (BufferList.ofBuffer frame.payload.concatenate).Contiguous := Nat.le_refl 1
        obtain ⟨ok, next⟩ := represents.recvFrame wired.macs wired.unicast contiguous whole
        rw [NetworkSimulator.deliver, andThen_ok ok]
        exact ih next
  obtain ⟨ok, represents⟩ := delivered (models.represents port)
  exact models.onInterface _ ok represents

theorem Models.clear {before : Network k m} {earlier : Port k m → Resolver (Port k m) UInt32 IPv4Datagram}
    (snapshot : start.Models before expected earlier) (port : Port k m) :
    start.Models (before.clear net port) expected
      (Function.update group port (dropSent earlier port (group port))) := by
  have here := models.represents port
  refine models.setInterface ⟨here.ethernetAddress, here.ipAddress, here.known, here.waiting, ?_, here.received,
    here.formed⟩
  have length := (snapshot.represents port).frames.length_eq
  simp only [dropSent, ← length]
  exact List.forall₂_drop _ here.frames

theorem Models.exchangeFrames (wired : start.Wired) {ports : List (Port k m)} (distinct : ports.Nodup) :
    (net.exchangeFrames ports).2 = .ok () ∧
      start.Models (net.exchangeFrames ports).1 expected (exchange start.address ports group) := by
  have hearing (turns : List (Port k m × Port k m)) (state : Network k m × Except Exception Unit)
      (now : Port k m → Resolver (Port k m) UInt32 IPv4Datagram) (ok : state.2 = .ok ())
      (models' : start.Models state.1 expected now) :
      (turns.foldl net.deliverTurn state).2 = .ok () ∧
        start.Models (turns.foldl net.deliverTurn state).1 expected
          (turns.foldl (hearTurn start.address group) now) := by
    induction turns generalizing state now with
    | nil => exact ⟨ok, models'⟩
    | cons turn turns ih =>
        obtain ⟨okNext, modelsNext⟩ := models'.deliver wired turn.2 (models.represents turn.1).frames
        rw [List.foldl_cons, deliverTurn, andThen_ok ok]
        exact ih _ _ okNext modelsNext
  have clearing (ports : List (Port k m)) (after : Network k m)
      (now : Port k m → Resolver (Port k m) UInt32 IPv4Datagram) (models' : start.Models after expected now) :
      start.Models (ports.foldl net.clear after) expected (inTurn (dropSent group) ports now) := by
    induction ports generalizing after now with
    | nil => exact models'
    | cons port ports ih => exact ih _ _ (models'.clear models port)
  obtain ⟨ok, heard⟩ := hearing (turns ports) (net, .ok ()) group rfl models
  rw [Network.exchangeFrames, andThen_ok ok, ← exchangeInTurn_eq start.address distinct]
  exact ⟨rfl, clearing ports _ _ heard⟩

end Calls

section Routing

structure Shows (start : Network k m) (router : Router)
    (group : Port k m → Resolver (Port k m) UInt32 IPv4Datagram) : Prop where
  routes : router.routes = start.router.routes
  represents : ∀ n : Fin k, ∃ iface, router.interfaces[n.val]? = some iface ∧
    iface.Represents start.mac start.address (.router n) (group (.router n))

variable {start : Network k m} {router : Router} {group : Port k m → Resolver (Port k m) UInt32 IPv4Datagram}

theorem Shows.onInterface (shows' : start.Shows router group) {n : Fin k} {iface : AsyncNetworkInterface}
    (present : router.interfaces[n.val]? = some iface)
    {call : AsyncNetworkInterface → AsyncNetworkInterface × Except Exception Unit}
    {r : Resolver (Port k m) UInt32 IPv4Datagram}
    (represents : (call iface).1.Represents start.mac start.address (.router n) r) :
    start.Shows (router.onInterface n call).1 (Function.update group (.router n) r) := by
  rw [Router.onInterface_present present]
  refine ⟨shows'.routes, fun other => ?_⟩
  by_cases same : other = n
  · subst same
    refine ⟨_, List.getElem?_set_self (List.getElem?_eq_some_iff.mp present).1, ?_⟩
    rw [Function.update_self]
    exact represents
  · have apart : n.val ≠ other.val := fun equal => same (Fin.ext equal.symm)
    obtain ⟨kept, there, still⟩ := shows'.represents other
    refine ⟨kept, (List.getElem?_set_ne apart).trans there, ?_⟩
    rw [Function.update_of_ne fun equal => same (Port.router.inj equal)]
    exact still

theorem Shows.popDatagram (shows' : start.Shows router group) (n : Fin k) :
    (router.popDatagram n).2 = .ok () ∧ start.Shows (router.popDatagram n).1 (Star.pop group (.router n)) := by
  obtain ⟨iface, present, here⟩ := shows'.represents n
  rw [Router.popDatagram]
  refine ⟨by rw [Router.onInterface_present present], shows'.onInterface present
    ⟨here.ethernetAddress, here.ipAddress, here.known, here.waiting, here.frames, ?_, fun dgram later => ?_⟩⟩
  · rw [here.received, List.map_tail]
  · exact here.formed dgram (List.mem_of_mem_tail later)

theorem Shows.decision_eq (shows' : start.Shows router group) (dgram : IPv4Datagram) :
    router.decision dgram = start.router.decision dgram := by
  simp only [Router.decision, Router.findRoute, shows'.routes]

theorem Wired.decision_within (wired : start.Wired) {dgram : IPv4Datagram} {action : Nat × Address}
    (decided : start.router.decision dgram = some action) : action.1 < k := by
  rw [Router.decision] at decided
  split at decided
  · cases decided
  · obtain ⟨info, found, rfl⟩ := Option.map_eq_some_iff.mp decided
    obtain ⟨i, _, lookup⟩ := List.exists_of_findSome?_eq_some found
    exact start.plugged ▸ wired.existing _ (AList.mem_lookup_iff.mp lookup)

theorem Shows.routeFront (wired : start.Wired) (shows' : start.Shows router group) {n : Fin k} {dgram : IPv4Datagram}
    {rest : List IPv4Datagram} (front : router.datagramsOut n = dgram :: rest) :
    ∃ after, start.star.Relay group after ∧ (router.routeFront n).2 = .ok () ∧
      start.Shows (router.routeFront n).1 after ∧ ∀ b, after (.host b) = group (.host b) := by
  obtain ⟨iface, present, here⟩ := shows'.represents n
  have received := front
  rw [Router.datagramsOut, present] at received
  dsimp only at received
  have formed := here.formed dgram (received ▸ List.mem_cons_self)
  rw [here.received] at received
  obtain ⟨entry, more, inbox, rfl, -⟩ := List.map_eq_cons_iff.mp received
  rw [Router.routeFront, front]
  dsimp only
  rw [Router.routeOneDatagram_eq, shows'.decision_eq]
  cases decided : start.router.decision entry.2 with
  | none =>
      have nowhere : start.star.forward entry.2 = none := by simp [star, decided]
      obtain ⟨ok, popped⟩ := shows'.popDatagram n
      exact ⟨_, .dropped (not_host_router n) inbox nowhere, ok, popped, fun b => rfl⟩
  | some action =>
      have within := wired.decision_within decided
      have onward : start.star.forward entry.2 = some (.router ⟨action.1, within⟩, action.2.ipv4Numeric,
          (Router.forwarded entry.2).resent) := by simp [star, decided, within]
      obtain ⟨out, presentOut, there⟩ := shows'.represents ⟨action.1, within⟩
      obtain ⟨asks, legal, ok, sent⟩ := there.sendDatagram formed.forwarded action.2
      have shown : start.Shows (router.onInterface action.1 fun interface =>
          interface.sendDatagram (Router.forwarded entry.2) action.2).1 _ := shows'.onInterface presentOut sent
      have okSent : (router.onInterface action.1 fun interface =>
          interface.sendDatagram (Router.forwarded entry.2) action.2).2 = .ok () := by
        rw [Router.onInterface_present presentOut]
        exact ok
      dsimp only
      generalize router.onInterface action.1 (fun interface =>
        interface.sendDatagram (Router.forwarded entry.2) action.2) = routed at shown okSent ⊢
      obtain ⟨next, result⟩ := routed
      cases okSent
      obtain ⟨okPop, popped⟩ := shown.popDatagram n
      exact ⟨_, .passed (not_host_router n) inbox onward legal, okPop, popped, fun b => rfl⟩

structure Routed (start : Network k m) (group : Port k m → Resolver (Port k m) UInt32 IPv4Datagram)
    (state : Router × Except Exception Unit) (after : Port k m → Resolver (Port k m) UInt32 IPv4Datagram) : Prop where
  ok : state.2 = .ok ()
  relays : Relation.ReflTransGen start.star.Relay group after
  shown : start.Shows state.1 after
  hosts : ∀ b, after (.host b) = group (.host b)

theorem Routed.routeQueue (wired : start.Wired) {after : Port k m → Resolver (Port k m) UInt32 IPv4Datagram}
    (routed : start.Routed group (router, .ok ()) after) (n : Fin k) :
    ∃ next, start.Routed group (router.routeQueue n) next := by
  refine loop_invariant (Router.queueWaits n) (fun state => state.1.routeFront n)
    (fun state => ∃ next, start.Routed group state next) ?_ _ _ ⟨after, routed⟩
  rintro state running ⟨now, holds⟩
  cases front : state.1.datagramsOut n with
  | nil => simp [Router.queueWaits, front] at running
  | cons dgram rest =>
      obtain ⟨next, relay, ok, shown, hosts⟩ := holds.shown.routeFront wired front
      exact ⟨next, ok, holds.relays.tail relay, shown, fun b => (hosts b).trans (holds.hosts b)⟩

theorem Shows.route (wired : start.Wired) (shows' : start.Shows router group) (count : router.interfaces.length = k) :
    ∃ after, start.Routed group router.route after := by
  have upTo (numbers : List Nat) (within : ∀ n ∈ numbers, n < k) (state : Router × Except Exception Unit)
      (now : Port k m → Resolver (Port k m) UInt32 IPv4Datagram) (routed : start.Routed group state now) :
      ∃ after, start.Routed group (numbers.foldl Router.routeNext state) after := by
    induction numbers generalizing state now with
    | nil => exact ⟨now, routed⟩
    | cons n rest ih =>
        obtain ⟨current, result⟩ := state
        cases routed.ok
        obtain ⟨next, routedNext⟩ := routed.routeQueue wired ⟨n, within n List.mem_cons_self⟩
        exact ih (fun other later => within other (List.mem_cons_of_mem _ later)) _ next routedNext
  refine upTo _ (fun n member => ?_) _ group ⟨rfl, .refl, shows', fun _ => rfl⟩
  exact count ▸ List.mem_range.mp member

end Routing

section Rounds

variable {start net : Network k m} {expected : Fin m → List IPv4Datagram}
  {group : Port k m → Resolver (Port k m) UInt32 IPv4Datagram} (wired : start.Wired)
  (models : start.Models net expected group)
include wired models

omit wired in
theorem Models.shows' : start.Shows net.router group := by
  refine ⟨models.routes, fun n => ⟨_, ?_, models.represents (.router n)⟩⟩
  exact List.getElem?_eq_getElem (n.cast net.plugged.symm).isLt

theorem Models.router_sound : net.router.Sound where
  existing := by
    intro entry member
    rw [models.routes] at member
    rw [net.plugged, ← start.plugged]
    exact wired.existing entry member
  interfaces := by
    intro interface member
    obtain ⟨n, within, rfl⟩ := List.getElem_of_mem member
    exact (models.represents (.router ⟨n, net.plugged ▸ within⟩)).sound

theorem Models.route : net.route.2 = .ok () ∧ ∃ after, Relation.ReflTransGen start.star.Relay group after ∧
    start.Models net.route.1 expected after ∧ ∀ n, (after (.router n)).inbox = [] := by
  obtain ⟨after, ok, relays, shown, hosts⟩ := models.shows'.route wired net.plugged
  have represents : ∀ port, (net.route.1.interface port).Represents start.mac start.address port (after port) := by
    intro port
    cases port with
    | host b =>
        rw [hosts b]
        exact models.represents (.host b)
    | router n =>
        obtain ⟨iface, present, here⟩ := shown.represents n
        have same : net.route.1.interface (.router n) = iface := (List.getElem?_eq_some_iff.mp present).2
        rw [same]
        exact here
  refine ⟨ok, after, relays, ⟨shown.routes, models.connections, models.addressed, models.homed, models.expecting,
    represents⟩, fun n => ?_⟩
  have emptied := (models.router_sound wired).route.2 _ (List.get_mem _ (n.cast net.route.1.plugged.symm))
  have received := (represents (.router n)).received
  exact List.map_eq_nil_iff.mp (received.symm.trans emptied)

omit models in
theorem Wired.ports_nodup {connection : Fin k × List (Fin m)} (present : connection ∈ start.connections) :
    (ports connection).Nodup := wired.proper.nodup (List.mem_map_of_mem present)

theorem Models.simulatePhysicalConnections :
    net.simulatePhysicalConnections.2 = .ok () ∧
      start.Models net.simulatePhysicalConnections.1 expected (start.star.exchangeAll group) := by
  have upTo (connections : List (Fin k × List (Fin m)))
      (present : ∀ connection ∈ connections, connection ∈ start.connections)
      (state : Network k m × Except Exception Unit) (now : Port k m → Resolver (Port k m) UInt32 IPv4Datagram)
      (ok : state.2 = .ok ()) (models : start.Models state.1 expected now) :
      let after := connections.foldl
        (fun state connection => andThen state fun self => self.exchangeFrames (ports connection)) state
      after.2 = .ok () ∧ start.Models after.1 expected
        ((connections.map link).foldl (fun group link => exchange start.address (Star.members link) group) now) := by
    induction connections generalizing state now with
    | nil => exact ⟨ok, models⟩
    | cons connection rest ih =>
        obtain ⟨okNext, modelsNext⟩ := models.exchangeFrames wired
          (wired.ports_nodup (present connection List.mem_cons_self))
        simp only [List.foldl_cons, List.map_cons, andThen_ok ok]
        exact ih (fun other later => present other (List.mem_cons_of_mem _ later)) _ _ okNext modelsNext
  rw [Network.simulatePhysicalConnections, models.connections]
  exact upTo start.connections (fun _ => id) (net, .ok ()) group rfl models

theorem Models.round (orderly : start.star.Orderly group) :
    (andThen net.route Network.simulatePhysicalConnections).2 = .ok () ∧ ∃ after, start.star.Round group after ∧
      start.Models (andThen net.route Network.simulatePhysicalConnections).1 expected after := by
  obtain ⟨okRoute, routed, relays, modelsRouted, emptied⟩ := models.route wired
  obtain ⟨ok, modelsAfter⟩ := modelsRouted.simulatePhysicalConnections wired
  rw [andThen_ok okRoute]
  refine ⟨ok, _, ⟨routed, relays, fun port atPort => ?_, rfl⟩, modelsAfter⟩
  cases port with
  | router n => exact emptied n
  | host b =>
      -- Nothing gets to a host that no wire leads to.
      rw [List.eq_nil_iff_forall_not_mem]
      intro entry received
      obtain ⟨_, present, same, -⟩ :=
        (orderly.moves wired.proper (Star.moves_relays relays)).fromHost (.host b) atPort entry received
      obtain ⟨_, -, rfl⟩ := List.mem_map.mp present
      cases same

theorem Models.rounds (orderly : start.star.Orderly group) (n : Nat) :
    (net.rounds n).2 = .ok () ∧
      ∃ after, start.star.Rounds group n after ∧ start.Models (net.rounds n).1 expected after := by
  induction n with
  | zero => exact ⟨rfl, group, .zero, models⟩
  | succ n ih =>
      obtain ⟨ok, now, rounds, modelsNow⟩ := ih
      obtain ⟨okNext, after, round, modelsNext⟩ := modelsNow.round wired (orderly.moves wired.proper rounds.moves)
      rw [Network.rounds, andThen_ok ok]
      exact ⟨okNext, after, rounds.succ round, modelsNext⟩

end Rounds

section Sending

variable (start : Network k m)

def Legal : NetworkOp k m → Prop
  | .sendTo host _ _ payload => payload.length ≤ 65515 ∧ ∃ connection ∈ start.connections, host ∈ connection.2 ∧
      (start.host host).nextHop.ipv4Numeric = start.address (.router connection.1)
  | .exchange connection => connection ∈ start.connections
  | _ => True

instance (op : NetworkOp k m) : Decidable (start.Legal op) :=
  match op with
  | .sendTo _ _ _ _ => inferInstanceAs (Decidable (_ ∧ _))
  | .exchange _ => inferInstanceAs (Decidable (_ ∈ _))
  | .expect _ _ | .tick _ _ | .route => inferInstanceAs (Decidable True)

def sent : NetworkOp k m → List (Fin m × IPv4Datagram)
  | .sendTo host destination ttl payload => [(host, (start.host host).datagramTo destination ttl payload)]
  | _ => []

def expectations (n : Fin m) : NetworkOp k m → List IPv4Datagram
  | .expect host expected => if host = n then [expected] else []
  | _ => []

def items (sends : List (Fin m × IPv4Datagram)) : List (Port k m × IPv4Datagram) :=
  sends.map fun send => (.host send.1, send.2.resent)

variable {start}

theorem datagramTo_formed (host : Host) (destination : Address) (ttl : UInt8) {payload : Bytes}
    (short : payload.length ≤ 65515) : (host.datagramTo destination ttl payload).WellFormed where
  version := rfl
  long := show 5 ≤ (5 : UInt8).toNat by decide
  short := show (5 : UInt8).toNat ≤ 15 by decide
  offset := show (0 : UInt16).toNat < 2 ^ 13 by decide
  totalLength := by
    simp only [Host.datagramTo, BufferList.size_ofBuffer]
    exact UInt16.toNat_ofNat_of_lt' (show 5 * 4 + payload.length < 65536 by omega)

variable {net : Network k m} {expected : Fin m → List IPv4Datagram}
  {group : Port k m → Resolver (Port k m) UInt32 IPv4Datagram} (wired : start.Wired)
  (models : start.Models net expected group)
include wired models

theorem Models.sendTo {host : Fin m} {destination : Address} {ttl : UInt8} {payload : Bytes}
    (legal : start.Legal (.sendTo host destination ttl payload)) :
    let called := net.onHost host fun host => host.sendTo destination ttl payload
    called.2 = .ok () ∧ ∃ after,
      start.star.Moves group (items [(host, (start.host host).datagramTo destination ttl payload)]) after ∧
        start.Models called.1 expected after := by
  obtain ⟨short, connection, present, onWire, hop⟩ := legal
  have same : (net.host host).datagramTo destination ttl payload =
      (start.host host).datagramTo destination ttl payload := by
    simp only [Host.datagramTo, models.addressed host]
  have formed := datagramTo_formed (start.host host) destination ttl short
  obtain ⟨asks, legal, ok, represents⟩ := (models.represents (.host host)).sendDatagram formed (start.host host).nextHop
  have call : (net.onHost host fun host => host.sendTo destination ttl payload) =
      net.onInterface (.host host) fun interface =>
        interface.sendDatagram ((net.host host).datagramTo destination ttl payload) (net.host host).nextHop := rfl
  rw [call, same, models.homed host]
  obtain ⟨okCall, modelsAfter⟩ := models.onInterface (fun interface => interface.sendDatagram _ _) ok represents
  refine ⟨okCall, _, .cons (.send (List.mem_map_of_mem present) (List.mem_map_of_mem onWire) ?_ (hop ▸ legal))
    (.nil _), ?_⟩
  · exact wired.named host
  · have key : start.star.address (link connection).1 = (start.host host).nextHop.ipv4Numeric := hop.symm
    rw [key]
    exact modelsAfter

theorem Models.step {op : NetworkOp k m} (legal : start.Legal op) :
    (net.step op).2 = .ok () ∧ ∃ after, start.star.Moves group (items (start.sent op)) after ∧
      start.Models (net.step op).1 (fun n => expected n ++ expectations n op) after := by
  have unchanged {net : Network k m} {group : Port k m → Resolver (Port k m) UInt32 IPv4Datagram}
      (models : start.Models net expected group) : start.Models net (fun n => expected n ++ []) group := by
    simpa only [List.append_nil] using models
  cases op with
  | sendTo host destination ttl payload =>
      obtain ⟨ok, after, moves, modelsAfter⟩ := models.sendTo wired legal
      exact ⟨ok, after, moves, unchanged modelsAfter⟩
  | expect host wanted =>
      have after := models.setHost ((net.host host).expect wanted) (models.addressed host) (models.homed host)
        (models.represents (.host host))
      have added : Function.update expected host ((net.host host).expectingToReceive ++ [wanted]) =
          fun n => expected n ++ expectations n (.expect host wanted : NetworkOp k m) := by
        funext n
        by_cases same : n = host
        · subst same
          rw [Function.update_self, models.expecting, expectations, if_pos rfl]
        · rw [Function.update_of_ne same, expectations, if_neg (Ne.symm same), List.append_nil]
      rw [Function.update_eq_self] at after
      exact ⟨rfl, group, .nil group, added ▸ after⟩
  | tick port ms =>
      obtain ⟨gone, represents⟩ := (models.represents port).tick ms
      obtain ⟨ok, modelsAfter⟩ := models.onInterface (fun interface => (interface.tick ms, .ok ())) rfl represents
      exact ⟨ok, _, .cons (.forget port gone) (.nil _), unchanged modelsAfter⟩
  | route =>
      obtain ⟨ok, after, relays, modelsAfter, -⟩ := models.route wired
      exact ⟨ok, after, Star.moves_relays relays, unchanged modelsAfter⟩
  | exchange connection =>
      obtain ⟨ok, modelsAfter⟩ := models.exchangeFrames wired (wired.ports_nodup legal)
      have move : start.star.Move group [] (exchange start.address (ports connection) group) :=
        @Star.Move.exchange _ _ _ _ _ start.star group (link connection) (List.mem_map_of_mem legal)
      exact ⟨ok, _, .cons move (.nil _), unchanged modelsAfter⟩

theorem Models.run {ops : List (NetworkOp k m)} (legal : ∀ op ∈ ops, start.Legal op) :
    (net.run ops).2 = .ok () ∧ ∃ after, start.star.Moves group (items (ops.flatMap start.sent)) after ∧
      start.Models (net.run ops).1 (fun n => expected n ++ ops.flatMap (expectations n)) after := by
  rw [Network.run]
  generalize begun : (net, (.ok () : Except Exception Unit)) = state
  have ok : state.2 = .ok () := by rw [← begun]
  replace models : start.Models state.1 expected group := by rwa [← begun]
  clear begun
  induction ops generalizing state expected group with
  | nil => exact ⟨ok, group, .nil group, by simpa only [List.foldl_nil, List.flatMap_nil, List.append_nil] using models⟩
  | cons op ops ih =>
      obtain ⟨okNext, next, moves, modelsNext⟩ := models.step wired (legal op List.mem_cons_self)
      obtain ⟨okRest, after, more, modelsAfter⟩ :=
        ih (fun other later => legal other (List.mem_cons_of_mem _ later)) _ okNext modelsNext
      simp only [List.foldl_cons, andThen_ok ok, List.flatMap_cons, items, List.map_append]
      refine ⟨okRest, after, moves.trans more, ?_⟩
      simpa only [List.append_assoc] using modelsAfter

end Sending

section Arrivals

variable (start : Network k m)

def OnWire (n : Nat) (target : Fin m) : Prop :=
  ∃ connection ∈ start.connections, connection.1.val = n ∧ target ∈ connection.2

instance (n : Nat) (target : Fin m) : Decidable (start.OnWire n target) := inferInstanceAs (Decidable (∃ _ ∈ _, _))

def arrival (target : Fin m) (dgram : IPv4Datagram) : Option IPv4Datagram :=
  (start.router.decision dgram).bind fun action =>
    if start.OnWire action.1 target ∧ action.2.ipv4Numeric = start.address (.host target) then
      some (Router.forwarded dgram).resent
    else
      none

def arrivals (target : Fin m) (ops : List (NetworkOp k m)) : List IPv4Datagram :=
  (ops.flatMap start.sent).filterMap fun send => start.arrival target send.2

variable {start} (wired : start.Wired)

theorem arrival_src {target : Fin m} {dgram arrived : IPv4Datagram}
    (arrives : start.arrival target dgram = some arrived) : arrived.header.src = dgram.header.src := by
  obtain ⟨action, -, chosen⟩ := Option.bind_eq_some_iff.mp arrives
  split at chosen
  · cases chosen
    rfl
  · cases chosen

include wired

theorem Wired.onWire_iff {down : Fin k × List (Fin m)} (present : down ∈ start.connections) {target : Fin m}
    (there : target ∈ down.2) (n : Nat) : start.OnWire n target ↔ n = down.1.val := by
  constructor
  · rintro ⟨connection, also, rfl, here⟩
    have same := wired.proper.link_unique (List.mem_map_of_mem present) (List.mem_map_of_mem also)
      (List.mem_cons_of_mem _ (List.mem_map_of_mem there)) (List.mem_cons_of_mem _ (List.mem_map_of_mem here))
    rw [Port.router.inj (congrArg Prod.fst same)]
  · rintro rfl
    exact ⟨down, present, rfl, there⟩

theorem Wired.reaches_eq {down : Fin k × List (Fin m)} (present : down ∈ start.connections) {target : Fin m}
    (there : target ∈ down.2) (dgram : IPv4Datagram) :
    start.star.reaches (link down) (.host target) dgram.resent = start.arrival target dgram := by
  have same : start.router.decision dgram.resent = start.router.decision dgram := rfl
  simp only [Star.reaches, star, arrival, same]
  cases decided : start.router.decision dgram with
  | none => rfl
  | some action =>
      have within := wired.decision_within decided
      have router : (Port.router ⟨action.1, within⟩ : Port k m) = (link down).1 ↔ action.1 = down.1.val := by
        rw [link, Port.router.injEq, Fin.ext_iff]
      simp only [Option.bind_some, dif_pos within, router, wired.onWire_iff present there,
        IPv4Datagram.resent_forwarded_resent]

theorem Wired.itemsFor_items {down : Fin k × List (Fin m)} (present : down ∈ start.connections) {target : Fin m}
    (there : target ∈ down.2) {sends : List (Fin m × IPv4Datagram)}
    (signed : ∀ send ∈ sends, send.2.header.src = start.address (.host send.1)) (source : Fin m) :
    (Deferral.itemsFor (.host source : Port k m) (items sends)).filterMap
        (start.star.reaches (link down) (.host target)) =
      (sends.filterMap fun send => start.arrival target send.2).filter
        fun arrived => arrived.header.src = start.address (.host source) := by
  induction sends with
  | nil => rfl
  | cons send rest ih =>
      have mine := signed send List.mem_cons_self
      have tail := ih fun other later => signed other (List.mem_cons_of_mem _ later)
      rw [items, List.map_cons, Deferral.itemsFor_cons, ← items, List.filterMap_cons]
      cases arrives : start.arrival target send.2 with
      | none =>
          rw [← tail]
          split
          next => rw [List.filterMap_cons, wired.reaches_eq present there, arrives]
          next => rfl
      | some arrived =>
          have src := (arrival_src arrives).trans mine
          by_cases same : send.1 = source
          · rw [if_pos (congrArg _ same), List.filterMap_cons, wired.reaches_eq present there, arrives,
              List.filter_cons_of_pos (by simp [src, same]), tail]
          · have apart : start.address (.host send.1) ≠ start.address (.host source) := fun equal =>
              same (Port.host.inj (wired.addresses equal))
            rw [if_neg fun equal => same (Port.host.inj equal), List.filter_cons_of_neg (by simp [src, apart]), tail]

omit wired in
theorem sent_signed {ops : List (NetworkOp k m)} (named : ∀ n : Fin m,
    (start.host n).myAddress.ipv4Numeric = start.address (.host n)) :
    ∀ send ∈ ops.flatMap start.sent, send.2.header.src = start.address (.host send.1) := by
  intro send member
  obtain ⟨op, -, made⟩ := List.mem_flatMap.mp member
  cases op with
  | sendTo host destination ttl payload =>
      rw [List.mem_singleton.mp made]
      exact named host
  | _ => cases made

end Arrivals

section Settled

variable {start : Network k m} (wired : start.Wired)

theorem host_iff {port : Port k m} :
    start.star.Host port ↔ ∃ connection ∈ start.connections, ∃ n ∈ connection.2, .host n = port := by
  constructor
  · rintro ⟨_, present, member⟩
    obtain ⟨connection, also, rfl⟩ := List.mem_map.mp present
    obtain ⟨n, there, same⟩ := List.mem_map.mp member
    exact ⟨connection, also, n, there, same⟩
  · rintro ⟨connection, present, n, there, rfl⟩
    exact ⟨link connection, List.mem_map_of_mem present, List.mem_map_of_mem there⟩

def Clear (start : Network k m) (group : Port k m → Resolver (Port k m) UInt32 IPv4Datagram) : Prop :=
  ∀ up ∈ start.star.links, ∀ source ∈ up.2, ∀ down ∈ start.star.links, ∀ target ∈ down.2,
    start.star.flow group up source down target = []

theorem filter_eq_nil {source : UInt32} {dgrams : List IPv4Datagram}
    (other : ∀ dgram ∈ dgrams, dgram.header.src ≠ source) :
    dgrams.filter (fun dgram => dgram.header.src = source) = [] :=
  List.filter_eq_nil_iff.mpr fun dgram member => by simp [other dgram member]

include wired

theorem Wired.received {group next after : Port k m → Resolver (Port k m) UInt32 IPv4Datagram}
    (orderly : start.star.Orderly group) (clear : start.Clear group) {sends : List (Fin m × IPv4Datagram)}
    (signed : ∀ send ∈ sends, send.2.header.src = start.address (.host send.1))
    (homed : ∀ send ∈ sends, start.star.Host (.host send.1)) (moves : start.star.Moves group (items sends) next)
    {n : Nat} (enough : 6 ≤ n) (rounds : start.star.Rounds next n after) (target : Fin m) (source : UInt32) :
    ((after (.host target)).inbox.map Prod.snd).filter (fun dgram => dgram.header.src = source) =
      (sends.filterMap fun send => start.arrival target send.2).filter (fun dgram => dgram.header.src = source) := by
  have orderlyNext := orderly.moves wired.proper moves
  have orderlyAfter := orderlyNext.moves wired.proper rounds.moves
  by_cases connected : start.star.Host (.host target)
  · obtain ⟨down, present, _, there, same⟩ := host_iff.mp connected
    cases same
    have downward : link down ∈ start.star.links := List.mem_map_of_mem present
    have below : .host target ∈ (link down).2 := List.mem_map_of_mem there
    by_cases sender : ∃ a, start.star.Host (.host a) ∧ start.address (.host a) = source
    · obtain ⟨a, hosted, rfl⟩ := sender
      obtain ⟨up, upward, member⟩ := hosted
      have delivered := Star.rounds_deliver wired.proper orderlyNext enough rounds upward member downward below
      have flow := Star.flow_moves wired.proper upward member downward below orderly moves
      rw [clear up upward _ member _ downward _ below, List.nil_append,
        wired.itemsFor_items present there signed] at flow
      exact delivered.trans flow
    · rw [filter_eq_nil, filter_eq_nil]
      · intro arrived member
        obtain ⟨send, sent, arrives⟩ := List.mem_filterMap.mp member
        rw [arrival_src arrives, signed send sent]
        exact fun same => sender ⟨send.1, homed send sent, same⟩
      · intro received member
        obtain ⟨entry, inInbox, rfl⟩ := List.mem_map.mp member
        have fromPort := orderlyAfter.fromPort _ downward _ below entry inInbox
        have held : entry.2 ∈ Resolver.ledger start.star.address after (link down).1 (.host target) :=
          List.mem_append_left _ (List.mem_filterMap.mpr ⟨entry, inInbox, if_pos fromPort⟩)
        obtain ⟨station, hosted, origin⟩ := orderlyAfter.relayed _ downward _ below entry.2 held
        obtain ⟨_, _, a, _, rfl⟩ := host_iff.mp hosted
        exact fun same => sender ⟨a, hosted, origin.symm.trans same⟩
  · -- No wire leads to the host.
    have nothing := (Star.settling_rounds wired.proper orderlyNext rounds).idle (by omega) _ connected
    rw [nothing, List.map_nil, List.filter_nil]
    refine (filter_eq_nil fun arrived member => ?_).symm
    obtain ⟨send, sent, arrives⟩ := List.mem_filterMap.mp member
    obtain ⟨action, -, chosen⟩ := Option.bind_eq_some_iff.mp arrives
    split at chosen
    next brought =>
      obtain ⟨connection, present, -, there⟩ := brought.1
      exact absurd (host_iff.mpr ⟨connection, present, target, there, rfl⟩) connected
    next => cases chosen

omit wired in
theorem sent_homed {ops : List (NetworkOp k m)} (legal : ∀ op ∈ ops, start.Legal op) :
    ∀ send ∈ ops.flatMap start.sent, start.star.Host (.host send.1) := by
  intro send member
  obtain ⟨op, among, made⟩ := List.mem_flatMap.mp member
  cases op with
  | sendTo host destination ttl payload =>
      obtain ⟨-, connection, present, there, -⟩ := legal _ among
      rw [List.mem_singleton.mp made]
      exact host_iff.mpr ⟨connection, present, host, there, rfl⟩
  | _ => cases made

structure Ready (start net : Network k m) (group : Port k m → Resolver (Port k m) UInt32 IPv4Datagram) : Prop where
  models : start.Models net (fun _ => []) group
  orderly : start.star.Orderly group
  clear : start.Clear group

theorem Ready.settles {net : Network k m} {group : Port k m → Resolver (Port k m) UInt32 IPv4Datagram}
    (ready : start.Ready net group) {ops : List (NetworkOp k m)} (legal : ∀ op ∈ ops, start.Legal op) {n : Nat}
    (enough : 6 ≤ n) :
    let settled := andThen (net.run ops) fun self => self.rounds n
    settled.2 = .ok () ∧ ∃ next after, start.star.Orderly next ∧ start.star.Rounds next n after ∧
      start.Models settled.1 (fun n => ops.flatMap (expectations n)) after ∧
      ∀ target source, ((settled.1.host target).interface.datagramsOut.filter fun dgram => dgram.header.src = source) =
        (start.arrivals target ops).filter fun dgram => dgram.header.src = source := by
  obtain ⟨ok, next, moves, modelsNext⟩ := ready.models.run wired legal
  have orderlyNext := ready.orderly.moves wired.proper moves
  obtain ⟨okRounds, after, rounds, modelsAfter⟩ := modelsNext.rounds wired orderlyNext n
  have called : (andThen (net.run ops) fun self => self.rounds n) = (net.run ops).1.rounds n := andThen_ok ok _
  simp only [List.nil_append] at modelsAfter
  rw [called]
  refine ⟨okRounds, next, after, orderlyNext, rounds, modelsAfter, fun target source => ?_⟩
  have received : (((net.run ops).1.rounds n).1.host target).interface.datagramsOut = _ :=
    (modelsAfter.represents (.host target)).received
  rw [received]
  exact wired.received ready.orderly ready.clear (sent_signed wired.named) (sent_homed legal) moves enough rounds
    target source

end Settled

end Network

end Sponge.NetworkSimulator
