import Mathlib.Data.Fintype.Basic
import Mathlib.Tactic.FinCases
import Sponge.SimulatorDelivery

set_option autoImplicit false

namespace Sponge.NetworkSimulator

open Shared

namespace Host

section Expectations

variable {received : IPv4Datagram} {expected : List IPv4Datagram}

theorem perm_of_removed {left : List IPv4Datagram} (found : expecting received expected = .ok true)
    (removed : removeExpectation received expected = .ok left) :
    (expected.map wire).Perm (wire received :: left.map wire) := by
  induction expected generalizing left with
  | nil => cases found
  | cons x rest ih =>
      rw [expecting] at found
      rw [removeExpectation] at removed
      cases first : wire x with
      | error thrown =>
          rw [first] at found
          cases found
      | ok bytes =>
          cases mine : wire received with
          | error thrown =>
              rw [first, mine] at found
              cases found
          | ok own =>
              simp only [first, mine, bind, Except.bind] at found removed
              by_cases same : bytes = own
              · rw [if_pos same] at removed
                cases removed
                rw [List.map_cons, first, same]
              · rw [if_neg same] at found removed
                cases more : removeExpectation received rest with
                | error thrown =>
                    rw [more] at removed
                    cases removed
                | ok others =>
                    rw [more] at removed
                    cases removed
                    have rest := ih found more
                    rw [mine] at rest
                    rw [List.map_cons, List.map_cons]
                    exact (rest.cons (wire x)).trans (List.Perm.swap _ _ _)

theorem removed_of_mem (written : ∀ x ∈ expected, ∃ bytes, wire x = .ok bytes)
    (member : wire received ∈ expected.map wire) :
    expecting received expected = .ok true ∧ ∃ left, removeExpectation received expected = .ok left := by
  induction expected with
  | nil => cases member
  | cons x rest ih =>
      obtain ⟨bytes, first⟩ := written x List.mem_cons_self
      obtain ⟨own, mine⟩ : ∃ own, wire received = .ok own := by
        obtain ⟨y, among, same⟩ := List.mem_map.mp member
        exact same ▸ written y among
      rw [expecting, removeExpectation]
      simp only [first, mine, bind, Except.bind]
      by_cases same : bytes = own
      · rw [if_pos same, if_pos same]
        exact ⟨rfl, rest, rfl⟩
      · have later : wire received ∈ rest.map wire := by
          refine (List.mem_cons.mp member).resolve_left fun equal => same ?_
          rw [mine, first] at equal
          exact (Except.ok.inj equal).symm
        obtain ⟨found, left, removed⟩ := ih (fun y among => written y (List.mem_cons_of_mem _ among)) later
        rw [if_neg same, if_neg same, removed]
        exact ⟨found, x :: left, rfl⟩

end Expectations

def checked (self : Host) : Host :=
  { self with interface := { self.interface with datagramsOut := [] }, expectingToReceive := [] }

theorem checkReceived_iff {received : List IPv4Datagram} (written : ∀ dgram ∈ received, ∃ bytes, wire dgram = .ok bytes)
    (self : Host) :
    ((andThen (self.checkReceived received) checkExpected).2 = .ok () ↔
        (received.map wire).Perm (self.expectingToReceive.map wire)) ∧
      ((andThen (self.checkReceived received) checkExpected).2 = .ok () →
        (andThen (self.checkReceived received) checkExpected).1 = self.checked) := by
  induction received generalizing self with
  | nil =>
      rw [checkReceived, andThen, checkExpected]
      cases none : self.expectingToReceive with
      | nil => exact ⟨iff_of_true rfl (.refl _), fun _ => by simp [checked]⟩
      | cons expected rest => exact ⟨iff_of_false nofun (by simp), nofun⟩
  | cons dgram rest ih =>
      have later : ∀ dgram ∈ rest, ∃ bytes, wire dgram = .ok bytes := fun other among =>
        written other (List.mem_cons_of_mem _ among)
      by_cases taken : ∃ left, expecting dgram self.expectingToReceive = .ok true ∧
          removeExpectation dgram self.expectingToReceive = .ok left
      · obtain ⟨left, found, removed⟩ := taken
        rw [checkReceived, found, removed, List.map_cons]
        obtain ⟨verdict, final⟩ := ih later { self with expectingToReceive := left }
        refine ⟨verdict.trans ?_, final⟩
        have perm := perm_of_removed found removed
        exact (List.perm_cons _).symm.trans ⟨fun same => same.trans perm.symm, fun same => same.trans perm⟩
      · have fails : (andThen (self.checkReceived (dgram :: rest)) checkExpected).2 ≠ .ok () := by
          rw [checkReceived]
          cases found : expecting dgram self.expectingToReceive with
          | error thrown => exact nofun
          | ok known =>
              cases known with
              | false => exact nofun
              | true =>
                  cases removed : removeExpectation dgram self.expectingToReceive with
                  | error thrown => exact nofun
                  | ok left => exact absurd ⟨left, found, removed⟩ taken
        refine ⟨iff_of_false fails fun same => taken ?_, fun ok => absurd ok fails⟩
        have all : ∀ x ∈ self.expectingToReceive, ∃ bytes, wire x = .ok bytes := by
          intro x among
          obtain ⟨y, given, equal⟩ := List.mem_map.mp (same.symm.subset (List.mem_map_of_mem among))
          exact equal ▸ written y given
        obtain ⟨found, left, removed⟩ := removed_of_mem all (same.subset List.mem_cons_self)
        exact ⟨left, found, removed⟩

theorem wire_of_serializable {dgram : IPv4Datagram} (serializable : dgram.Serializable) :
    ∃ bytes, wire dgram = .ok bytes := by
  obtain ⟨payload, written⟩ := serializable
  exact ⟨payload.concatenate, by rw [wire, written]; rfl⟩

end Host

theorem andThen_assoc {σ : Type} (called : σ × Except Exception Unit) (next last : σ → σ × Except Exception Unit) :
    andThen (andThen called next) last = andThen called fun state => andThen (next state) last := by
  obtain ⟨state, result⟩ := called
  cases result <;> rfl

theorem foldl_andThen_error {σ α : Type} (call : α → σ → σ × Except Exception Unit) (calls : List α)
    (state : σ × Except Exception Unit) (thrown : state.2 ≠ .ok ()) :
    (calls.foldl (fun state x => andThen state (call x)) state).2 ≠ .ok () := by
  induction calls generalizing state with
  | nil => exact thrown
  | cons x rest ih =>
      refine ih _ ?_
      obtain ⟨current, result⟩ := state
      cases result with
      | ok => exact absurd rfl thrown
      | error what => exact nofun

namespace Network

variable {k m : Nat} {start : Network k m} {net : Network k m} {expected : Fin m → List IPv4Datagram}
  {group : Port k m → Resolver (Port k m) UInt32 IPv4Datagram}

theorem Models.check_iff (models : start.Models net expected group) (n : Fin m) :
    ((net.host n).check.2 = .ok () ↔
        ((net.host n).interface.datagramsOut.map Host.wire).Perm ((expected n).map Host.wire)) ∧
      ((net.host n).check.2 = .ok () → (net.host n).check.1 = (net.host n).checked) := by
  have written : ∀ dgram ∈ (net.host n).interface.datagramsOut, ∃ bytes, Host.wire dgram = .ok bytes :=
    fun dgram member => Host.wire_of_serializable ((models.represents (.host n)).formed dgram member).serializable
  rw [← models.expecting n]
  exact Host.checkReceived_iff written (net.host n)

theorem Models.checkHost (models : start.Models net expected group) {n : Fin m} (ok : (net.host n).check.2 = .ok ()) :
    (net.onHost n Host.check).2 = .ok () ∧
      start.Models (net.onHost n Host.check).1 (Function.update expected n [])
        (Function.update group (.host n) { group (.host n) with inbox := [] }) := by
  refine ⟨ok, ?_⟩
  have here := models.represents (.host n)
  have emptied : (net.host n).checked.interface.Represents start.mac start.address (.host n)
      { group (.host n) with inbox := [] } :=
    ⟨here.ethernetAddress, here.ipAddress, here.known, here.waiting, here.frames, rfl, fun _ => nofun⟩
  have after := models.setHost (net.host n).checked (models.addressed n) (models.homed n) emptied
  have called : (net.onHost n Host.check).1 = net.setHost n (net.host n).checked := by
    rw [onHost, ← (models.check_iff n).2 ok]
  rw [called]
  exact after

theorem Models.checkHosts (models : start.Models net expected group) :
    (net.checkHosts.2 = .ok () ↔ ∀ n : Fin m,
        ((net.host n).interface.datagramsOut.map Host.wire).Perm ((expected n).map Host.wire)) ∧
      (net.checkHosts.2 = .ok () → start.Models net.checkHosts.1 (fun _ => [])
        (inTurn (fun _ r => { r with inbox := [] }) ((List.finRange m).map .host) group)) := by
  have upTo (numbers : List (Fin m)) (distinct : numbers.Nodup) (current : Network k m)
      (expected : Fin m → List IPv4Datagram) (now : Port k m → Resolver (Port k m) UInt32 IPv4Datagram)
      (models : start.Models current expected now) :
      let after := numbers.foldl (fun state n => andThen state fun self => self.onHost n Host.check) (current, .ok ())
      (after.2 = .ok () ↔ ∀ n ∈ numbers, (current.host n).check.2 = .ok ()) ∧
        (after.2 = .ok () → start.Models after.1 (inTurn (fun _ _ => []) numbers expected)
          (inTurn (fun _ r => { r with inbox := [] }) (numbers.map .host) now)) := by
    induction numbers generalizing current expected now with
    | nil => exact ⟨iff_of_true rfl (by simp), fun _ => models⟩
    | cons n rest ih =>
        obtain ⟨fresh, distinctRest⟩ := List.nodup_cons.mp distinct
        rw [List.foldl_cons]
        by_cases ok : (current.host n).check.2 = .ok ()
        · obtain ⟨okCall, modelsNext⟩ := models.checkHost ok
          have called : current.onHost n Host.check = ((current.onHost n Host.check).1, .ok ()) := Prod.ext rfl okCall
          obtain ⟨verdict, final⟩ := ih distinctRest _ _ _ modelsNext
          rw [andThen_ok rfl, called]
          refine ⟨verdict.trans ?_, final⟩
          rw [List.forall_mem_cons, and_iff_right ok]
          refine forall₂_congr fun other later => ?_
          have apart : other ≠ n := fun same => fresh (same ▸ later)
          rw [onHost, host_setHost, Function.update_of_ne apart]
        · have fails := foldl_andThen_error (fun n (self : Network k m) => self.onHost n Host.check) rest
            (current.onHost n Host.check) ok
          exact ⟨iff_of_false fails fun all => ok (all n List.mem_cons_self), fun passed => absurd passed fails⟩
  obtain ⟨verdict, final⟩ := upTo (List.finRange m) (List.nodup_finRange m) net expected group models
  constructor
  · refine verdict.trans ⟨fun all n => (models.check_iff n).1.mp (all n (List.mem_finRange n)), fun all n _ => ?_⟩
    exact (models.check_iff n).1.mpr (all n)
  · intro passed
    have none : inTurn (fun _ _ => []) (List.finRange m) expected = fun _ => [] := by
      funext n
      rw [inTurn_apply _ (List.nodup_finRange m), if_pos (List.mem_finRange n)]
    exact none ▸ final passed

variable (start) in
def Matches (test : List (NetworkOp k m)) : Prop :=
  ∀ target, ((start.arrivals target test).map Host.wire).Perm ((test.flatMap (expectations target)).map Host.wire)

instance (test : List (NetworkOp k m)) : Decidable (start.Matches test) := inferInstanceAs (Decidable (∀ _, _))

-- Lists that agree on each sender agree but for the order of the senders.
theorem perm_of_filter {left right : List IPv4Datagram} (same : ∀ source : UInt32,
    (left.filter fun dgram => dgram.header.src = source) = right.filter fun dgram => dgram.header.src = source) :
    left.Perm right := by
  refine List.perm_iff_count.mpr fun dgram => ?_
  have mine (dgrams : List IPv4Datagram) :
      List.count dgram (dgrams.filter fun other => other.header.src = dgram.header.src) = List.count dgram dgrams :=
    List.count_filter (decide_eq_true rfl)
  rw [← mine left, same, mine right]

theorem Ready.simulate (wired : start.Wired) (ready : start.Ready net group) {test : List (NetworkOp k m)}
    (legal : ∀ op ∈ test, start.Legal op) :
    ((andThen (net.run test) Network.simulate).2 = .ok () ↔ start.Matches test) ∧
      ((andThen (net.run test) Network.simulate).2 = .ok () →
        ∃ after, start.Ready (andThen (net.run test) Network.simulate).1 after) := by
  obtain ⟨ok, -⟩ := ready.models.run wired legal
  have enough : 6 ≤ 256 := by decide
  obtain ⟨okSettled, next, after, orderly, rounds, models, received⟩ := ready.settles wired legal enough
  have called : andThen (net.run test) Network.simulate =
      (andThen (net.run test) fun self => self.rounds 256).1.checkHosts := by
    rw [andThen_ok ok] at okSettled ⊢
    rw [Network.simulate, andThen_ok okSettled, andThen_ok ok]
  rw [called]
  generalize (andThen (net.run test) fun self => self.rounds 256).1 = settled at models received ⊢
  obtain ⟨verdict, final⟩ := models.checkHosts
  constructor
  · refine verdict.trans (forall_congr' fun target => ?_)
    have same := (perm_of_filter (received target)).map Host.wire
    exact ⟨fun expected => same.symm.trans expected, fun expected => same.trans expected⟩
  · intro passed
    obtain ⟨orderlyDrained, clear⟩ := Star.rounds_drained wired.proper orderly enough rounds
    have drained : inTurn (fun _ r => { r with inbox := [] }) ((List.finRange m).map .host) after =
        fun port => { after port with inbox := [] } := by
      have distinct : ((List.finRange m).map (.host : Fin m → Port k m)).Nodup :=
        (List.nodup_finRange m).map fun _ _ => Port.host.inj
      funext port
      rw [inTurn_apply _ distinct]
      cases port with
      | host n => rw [if_pos (List.mem_map_of_mem (List.mem_finRange n))]
      | router n =>
          have settled := Star.settling_rounds wired.proper orderly rounds
          have idle := settled.idle (by decide) (.router n) (not_host_router n)
          rw [if_neg (by simp), ← idle]
    exact ⟨_, final passed, drained ▸ orderlyDrained, drained ▸ clear⟩

structure Idle (net : Network k m) : Prop where
  silent : ∀ port, (net.interface port).framesOut = []
  unknowing : ∀ port, (net.interface port).addressTable = ∅
  unsent : ∀ port, (net.interface port).dgramDelayQueue = []
  unread : ∀ port, (net.interface port).datagramsOut = []
  expecting : ∀ n : Fin m, (net.host n).expectingToReceive = []

theorem Idle.ready (idle : start.Idle) : ∃ group, start.Ready start group := by
  let nobody : Port k m → Resolver (Port k m) UInt32 IPv4Datagram := fun _ => { deferral := ⟨fun _ => none, []⟩ }
  have nothing (sender receiver : Port k m) : Resolver.ledger start.star.address nobody sender receiver = [] := rfl
  refine ⟨nobody, ⟨rfl, rfl, fun _ => rfl, fun _ => rfl, idle.expecting, fun port => ?_⟩, ?_, ?_⟩
  · refine ⟨rfl, rfl, ?_, ?_, ?_, idle.unread port, ?_⟩
    · funext key
      simp [NetworkInterface.deferral, idle.unknowing port, nobody]
    · rw [idle.unsent port]
      exact .nil
    · rw [idle.silent port]
      exact .nil
    · rw [idle.unread port]
      exact List.forall_mem_nil _
  · refine ⟨fun station => ⟨List.forall_mem_nil _, fun _ _ found => ?_, List.forall_mem_nil _⟩,
      fun _ _ _ _ _ _ _ waits => absurd rfl waits, fun _ _ _ _ _ _ => nothing _ _, fun _ _ _ _ => ?_,
      fun _ _ _ _ => ?_, fun _ _ _ _ => List.forall_mem_nil _, fun _ _ => List.forall_mem_nil _⟩
    · exact absurd found.symm (Option.some_ne_none _)
    all_goals
      rw [nothing]
      exact List.forall_mem_nil _
  · intro up _ source _ down _ target _
    rw [Star.flow, nothing, nothing]
    rfl

theorem Ready.runTests_iff (wired : start.Wired) {tests : List (List (NetworkOp k m))}
    (legal : ∀ test ∈ tests, ∀ op ∈ test, start.Legal op) (ready : start.Ready net group) :
    (net.runTests tests).2 = .ok () ↔ ∀ test ∈ tests, start.Matches test := by
  rw [runTests]
  induction tests generalizing net group with
  | nil => exact iff_of_true rfl (by simp)
  | cons test rest ih =>
      obtain ⟨verdict, readyAgain⟩ := ready.simulate wired (legal test List.mem_cons_self)
      have begun : (andThen (net, .ok ()) fun self => self.run test) = net.run test := rfl
      rw [List.foldl_cons, begun, List.forall_mem_cons]
      by_cases passed : (andThen (net.run test) Network.simulate).2 = .ok ()
      · obtain ⟨after, readyAfter⟩ := readyAgain passed
        have called : andThen (net.run test) Network.simulate =
            ((andThen (net.run test) Network.simulate).1, .ok ()) := Prod.ext rfl passed
        rw [called, and_iff_right (verdict.mp passed)]
        exact ih (fun other later => legal other (List.mem_cons_of_mem _ later)) readyAfter
      · have fails := foldl_andThen_error (fun test (self : Network k m) => andThen (self.run test) Network.simulate)
          rest (andThen (net.run test) Network.simulate) passed
        simp only [andThen_assoc]
        exact iff_of_false fails fun both => passed (verdict.mpr both.1)

section New

variable (routerBytes hostBytes : Nat → EthernetAddress)

theorem new_router (n : Fin 7) : (new routerBytes hostBytes).interface (.router n) =
    { ethernetAddress := randomRouterEthernetAddress (routerBytes n), ipAddress := routerAddresses.get n } := by
  simp only [interface, new, List.get_eq_getElem, Router.interfaces_addRoutes, List.getElem_mapIdx]
  rfl

def blank : Network 7 6 := new (fun _ => Vector.replicate 6 0) fun _ => Vector.replicate 6 0

theorem new_host (n : Fin 6) : (new routerBytes hostBytes).host n =
    Host.new (blank.host n).name (randomHostEthernetAddress (hostBytes n)) (blank.host n).myAddress
      (blank.host n).nextHop := by
  fin_cases n <;> rfl

theorem new_interface (port : Port 7 6) : ∃ ethernetAddress ipAddress, ethernetAddress ≠ ethernetBroadcast ∧
    (new routerBytes hostBytes).interface port = { ethernetAddress, ipAddress } := by
  cases port with
  | router n =>
      refine ⟨_, _, fun same => ?_, new_router routerBytes hostBytes n⟩
      have first : (0x02 : UInt8) = 0xff := congrArg (fun address : EthernetAddress => address[0]) same
      exact absurd first (by decide)
  | host n =>
      refine ⟨_, _, fun same => ?_, congrArg Host.interface (new_host routerBytes hostBytes n)⟩
      -- The last bit of the first byte is cleared.
      have first : ((hostBytes n).get 0 ||| 0x02) &&& 0xfe = (0xff : UInt8) := by
        have first := congrArg (fun address : EthernetAddress => address[0]) same
        simpa [randomHostEthernetAddress, ethernetBroadcast] using first
      have last : ((hostBytes n).get 0 ||| 0x02) &&& 0xfe &&& 1 = (0xff : UInt8) &&& 1 := congrArg (· &&& 1) first
      have cleared : (0xfe : UInt8) &&& 1 = 0 := by decide
      rw [UInt8.and_assoc, cleared, UInt8.and_zero] at last
      exact absurd last (by decide)

theorem new_idle : (new routerBytes hostBytes).Idle := by
  refine ⟨fun port => ?_, fun port => ?_, fun port => ?_, fun port => ?_, fun n => ?_⟩
  iterate 4
    obtain ⟨_, _, -, made⟩ := new_interface routerBytes hostBytes port
    rw [made]
  rw [new_host]
  rfl

theorem new_address : (new routerBytes hostBytes).address = blank.address := by
  funext port
  cases port with
  | router n => rw [address, address, blank, new_router, new_router]
  | host n =>
      have own (routerBytes hostBytes : Nat → EthernetAddress) :
          ((new routerBytes hostBytes).host n).interface.ipAddress = (blank.host n).myAddress := by
        rw [new_host]
        rfl
      exact congrArg Address.ipv4Numeric ((own routerBytes hostBytes).trans (own _ _).symm)

theorem port_injective {α : Type} {f : Port k m → α}
    (routers : ∀ n other, f (.router n) = f (.router other) → n = other)
    (hosts : ∀ n other, f (.host n) = f (.host other) → n = other)
    (apart : ∀ n other, f (.router n) ≠ f (.host other)) : Function.Injective f := by
  rintro (n | n) (other | other) same
  · exact congrArg _ (routers n other same)
  · exact absurd same (apart n other)
  · exact absurd same.symm (apart other n)
  · exact congrArg _ (hosts n other same)

theorem blank_addresses : Function.Injective blank.address :=
  port_injective (by decide +kernel) (by decide +kernel) (by decide +kernel)

theorem new_routes : (new routerBytes hostBytes).router.routes = (routeCalls.foldl Router.addRoute {}).routes := rfl

theorem new_connections : (new routerBytes hostBytes).connections =
    [(0, [1]), (1, [0]), (3, [2]), (5, [3]), (4, [4, 5])] := rfl

theorem new_wired (macs : Function.Injective (new routerBytes hostBytes).mac) :
    (new routerBytes hostBytes).Wired where
  macs := macs
  unicast := by
    intro port
    obtain ⟨_, _, unicast, made⟩ := new_interface routerBytes hostBytes port
    rw [mac, made]
    exact unicast
  addresses := by
    rw [new_address]
    exact blank_addresses
  named := by
    intro n
    rw [address, interface, new_host]
    rfl
  distinct := by
    rw [new_connections]
    decide
  existing := by
    rw [Router.RoutesExist, (new routerBytes hostBytes).plugged, new_routes]
    decide +kernel

theorem new_arrival (target : Fin 6) (dgram : IPv4Datagram) : (new routerBytes hostBytes).arrival target dgram =
    (blank.arrival target ⟨{ dst := dgram.header.dst, ttl := dgram.header.ttl }, {}⟩).map
      fun _ => (Router.forwarded dgram).resent := by
  have decided : (new routerBytes hostBytes).router.decision dgram =
      blank.router.decision ⟨{ dst := dgram.header.dst, ttl := dgram.header.ttl }, {}⟩ := by
    rw [Router.decision, Router.decision, Router.findRoute, Router.findRoute, blank, new_routes, new_routes]
  have wires (n : Nat) : (new routerBytes hostBytes).OnWire n target ↔ blank.OnWire n target := by
    rw [OnWire, OnWire, blank, new_connections, new_connections]
  simp only [arrival, decided, wires, new_address]
  cases blank.router.decision ⟨{ dst := dgram.header.dst, ttl := dgram.header.ttl }, {}⟩ with
  | none => rfl
  | some action =>
      simp only [Option.bind_some]
      split <;> rfl

theorem wire_resent {dgram : IPv4Datagram} (formed : dgram.WellFormed) : Host.wire dgram.resent = Host.wire dgram := by
  rw [Host.wire, Host.wire, formed.serialize_eq, formed.resent.serialize_eq]
  simp only [Except.map, BufferList.concatenate_append, IPv4Datagram.resent, BufferList.concatenate_ofBuffer]
  rfl

theorem traffic_matches {host : Fin 6} {destination : Address} {receiver : Fin 6} {payload : Bytes}
    (short : payload.length ≤ 65515)
    (brings : ∀ target, (blank.arrival target ⟨{ dst := destination.ipv4Numeric, ttl := 64 }, {}⟩).isSome ↔
      target = receiver) :
    (new routerBytes hostBytes).Matches (traffic (new routerBytes hostBytes) host destination receiver payload) := by
  intro target
  have formed := (datagramTo_formed ((new routerBytes hostBytes).host host) destination 64 short).forwarded
  have sends : (traffic (new routerBytes hostBytes) host destination receiver payload).flatMap
      (new routerBytes hostBytes).sent =
        [(host, ((new routerBytes hostBytes).host host).datagramTo destination 64 payload)] := rfl
  have expects : (traffic (new routerBytes hostBytes) host destination receiver payload).flatMap
      (expectations target) = if receiver = target then
        [Router.forwarded (((new routerBytes hostBytes).host host).datagramTo destination 64 payload)] else [] :=
    List.append_nil _
  have arrives : (new routerBytes hostBytes).arrival target
      (((new routerBytes hostBytes).host host).datagramTo destination 64 payload) =
        (blank.arrival target ⟨{ dst := destination.ipv4Numeric, ttl := 64 }, {}⟩).map fun _ =>
          (Router.forwarded (((new routerBytes hostBytes).host host).datagramTo destination 64 payload)).resent :=
    new_arrival routerBytes hostBytes target _
  have here := brings target
  rw [arrivals, sends, List.filterMap_cons, arrives, expects]
  generalize blank.arrival target ⟨{ dst := destination.ipv4Numeric, ttl := 64 }, {}⟩ = found at here ⊢
  cases found with
  | none =>
      rw [if_neg fun same => absurd (here.mpr same.symm) nofun]
      exact .refl _
  | some arrived =>
      rw [if_pos (here.mp rfl).symm]
      simp only [Option.map_some, List.filterMap_nil, List.map_singleton, wire_resent formed, List.Perm.refl]

theorem blank_homes : ∀ host : Fin 6, host = 0 ∨ host = 2 ∨ host = 4 → ∃ connection ∈ blank.connections,
    host ∈ connection.2 ∧ (blank.host host).nextHop.ipv4Numeric = blank.address (.router connection.1) := by
  decide +kernel

theorem new_legal {host : Fin 6} (sender : host = 0 ∨ host = 2 ∨ host = 4) (destination : Address) (ttl : UInt8)
    {payload : Bytes} (short : payload.length ≤ 65515) :
    (new routerBytes hostBytes).Legal (.sendTo host destination ttl payload) := by
  refine ⟨short, ?_⟩
  rw [new_address]
  obtain ⟨connection, present, there, hop⟩ := blank_homes host sender
  rw [blank, new_connections] at present
  refine ⟨connection, present, there, Eq.trans ?_ hop⟩
  rw [new_host]
  rfl

theorem networkSimulator_legal {payload : Nat → Bytes} (short : ∀ n, (payload n).length ≤ 65515) :
    ∀ test ∈ networkSimulator (new routerBytes hostBytes) payload, ∀ op ∈ test,
      (new routerBytes hostBytes).Legal op := by
  have sends (host : Fin 6) (sender : host = 0 ∨ host = 2 ∨ host = 4) (destination : Address) (ttl : UInt8) (n : Nat) :=
    new_legal routerBytes hostBytes sender destination ttl (short n)
  simp only [networkSimulator, traffic, List.forall_mem_cons, List.not_mem_nil, false_implies, implies_true, and_true]
  refine ⟨⟨?_, trivial⟩, ⟨?_, trivial⟩, ⟨?_, trivial⟩, ⟨?_, trivial⟩, ⟨?_, trivial⟩, ⟨?_, trivial⟩, ⟨?_, trivial⟩,
    ⟨?_, trivial⟩, ?_, ?_⟩
  all_goals exact sends _ (by decide) _ _ _

theorem networkSimulator_matches {payload : Nat → Bytes} (short : ∀ n, (payload n).length ≤ 65515) :
    ∀ test ∈ networkSimulator (new routerBytes hostBytes) payload, (new routerBytes hostBytes).Matches test := by
  simp only [networkSimulator, List.forall_mem_cons, List.not_mem_nil, false_implies, implies_true, and_true]
  refine ⟨?_, ?_, ?_, ?_, ?_, ?_, ?_, ?_, ?_, ?_⟩
  iterate 8 exact traffic_matches routerBytes hostBytes (short _) (by decide +kernel)
  -- A datagram that is too old is dropped.
  all_goals
    intro target
    exact .refl _

-- Whatever the random numbers are, as long as no two stations get the same Ethernet address.
theorem networkSimulator_succeeds (macs : Function.Injective (new routerBytes hostBytes).mac) (payload : Nat → Bytes)
    (short : ∀ n, (payload n).length ≤ 65515) :
    ((new routerBytes hostBytes).runTests (networkSimulator (new routerBytes hostBytes) payload)).2 = .ok () := by
  obtain ⟨group, ready⟩ := (new_idle routerBytes hostBytes).ready
  exact (ready.runTests_iff (new_wired routerBytes hostBytes macs)
    (networkSimulator_legal routerBytes hostBytes short)).mpr (networkSimulator_matches routerBytes hostBytes short)

end New

def sampleBytes (n : Nat) : EthernetAddress := #v[8, 1, 2, 3, 4, UInt8.ofNat n]

def sampleNetwork : Network 7 6 := new sampleBytes sampleBytes

theorem sampleNetwork_macs : Function.Injective sampleNetwork.mac :=
  port_injective (by decide +kernel) (by decide +kernel) (by decide +kernel)

theorem networkSimulator_succeeds_sample :
    (sampleNetwork.runTests (networkSimulator sampleNetwork fun n => [114, UInt8.ofNat n])).2 = .ok () :=
  networkSimulator_succeeds sampleBytes sampleBytes sampleNetwork_macs _ fun _ => by simp

def sampleSends (port : Fin 7) (one other : Fin 6) : List (NetworkOp 7 6) :=
  [.sendTo one (ipv4 10 0 0 2) 64 [1], .route, .exchange (port, [one, other]), .sendTo other (ipv4 10 0 0 2) 2 [2],
    .tick (.router port) 40000, .exchange (port, [one, other]), .sendTo one (ipv4 10 0 0 2) 9 [3],
    .sendTo one (ipv4 10 0 0 2) 1 [4]]

theorem settles_in_order (start : Network k m) (wired : start.Wired) (idle : start.Idle) (ops : List (NetworkOp k m))
    (legal : ∀ op ∈ ops, start.Legal op) (n : Nat) (enough : 6 ≤ n) :
    let settled := andThen (start.run ops) fun self => self.rounds n
    settled.2 = .ok () ∧ ∀ target source,
      ((settled.1.host target).interface.datagramsOut.filter fun dgram => dgram.header.src = source) =
        (start.arrivals target ops).filter fun dgram => dgram.header.src = source := by
  intro settled
  obtain ⟨group, ready⟩ := idle.ready
  obtain ⟨ok, -, -, -, -, -, received⟩ := ready.settles wired legal enough
  exact ⟨ok, received⟩

theorem settles_in_order_sample :
    sampleNetwork.Wired ∧ sampleNetwork.Idle ∧ (∀ op ∈ sampleSends 4 4 5, sampleNetwork.Legal op) ∧
      let settled := andThen (sampleNetwork.run (sampleSends 4 4 5)) fun self => self.rounds 6
      ((settled.1.host (0 : Fin 6)).interface.datagramsOut.filter fun dgram =>
        dgram.header.src = (ipv4 198 178 229 42).ipv4Numeric).map (fun dgram => dgram.payload.concatenate) =
          [[1], [3]] := by
  have wired := new_wired sampleBytes sampleBytes sampleNetwork_macs
  have idle := new_idle sampleBytes sampleBytes
  have legal : ∀ op ∈ sampleSends 4 4 5, sampleNetwork.Legal op := by decide +kernel
  refine ⟨wired, idle, legal, ?_⟩
  intro settled
  rw [(settles_in_order sampleNetwork wired idle (sampleSends 4 4 5) legal 6 (by decide)).2]
  decide +kernel

theorem runTests_ok_iff (start : Network k m) (wired : start.Wired) (idle : start.Idle)
    (tests : List (List (NetworkOp k m))) (legal : ∀ test ∈ tests, ∀ op ∈ test, start.Legal op) :
    (start.runTests tests).2 = .ok () ↔ ∀ test ∈ tests, start.Matches test := by
  obtain ⟨group, ready⟩ := idle.ready
  exact ready.runTests_iff wired legal

theorem runTests_ok_iff_sample :
    (∀ op ∈ sampleSends 4 4 5, sampleNetwork.Legal op) ∧ ¬(sampleNetwork.runTests [sampleSends 4 4 5]).2 = .ok () := by
  have legal : ∀ op ∈ sampleSends 4 4 5, sampleNetwork.Legal op := by decide +kernel
  refine ⟨legal, ?_⟩
  rw [runTests_ok_iff sampleNetwork (new_wired sampleBytes sampleBytes sampleNetwork_macs)
    (new_idle sampleBytes sampleBytes) [sampleSends 4 4 5] (by simpa using legal)]
  decide +kernel

end Network

end Sponge.NetworkSimulator
