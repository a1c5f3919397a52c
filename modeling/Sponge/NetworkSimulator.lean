import Sponge.RouterSafety
import Sponge.Shared.Resolution

set_option autoImplicit false

namespace Sponge

open Shared

namespace IPv4Header

def hexString (n : Nat) : String := String.ofList (Nat.toDigits 16 n)

def inetNtoa (ip : UInt32) : String :=
  toString (ip.toNat / 2 ^ 24) ++ "." ++ toString (ip.toNat / 2 ^ 16 % 256) ++ "." ++
    toString (ip.toNat / 2 ^ 8 % 256) ++ "." ++ toString (ip.toNat % 256)

def summary (self : IPv4Header) : String :=
  "IPv" ++ hexString self.ver.toNat ++ ", len=" ++ hexString self.len.toNat ++ ", protocol=" ++
    hexString self.proto.toNat ++ ", " ++
    (if self.ttl.toNat ≥ 10 then "" else "ttl=" ++ toString self.ttl.toNat ++ ", ") ++
    "src=" ++ inetNtoa self.src ++ ", dst=" ++ inetNtoa self.dst

end IPv4Header

namespace Router

section Length

variable (self : Router)

theorem length_onInterface (n : Nat) (call : AsyncNetworkInterface → AsyncNetworkInterface × Except Exception Unit) :
    (self.onInterface n call).1.interfaces.length = self.interfaces.length := by
  rw [onInterface]
  split
  · rfl
  · exact List.length_set

theorem length_routeOneDatagram (dgram : IPv4Datagram) :
    (self.routeOneDatagram dgram).1.interfaces.length = self.interfaces.length := by
  rw [routeOneDatagram_eq]
  split
  · rfl
  · exact self.length_onInterface _ _

theorem length_routeFront (n : Nat) : (self.routeFront n).1.interfaces.length = self.interfaces.length := by
  rw [routeFront]
  split
  next => rfl
  next dgram _ _ =>
    have length := self.length_routeOneDatagram dgram
    generalize self.routeOneDatagram dgram = routed at length ⊢
    obtain ⟨next, result⟩ := routed
    cases result with
    | error thrown => exact length
    | ok => exact (next.length_onInterface n _).trans length

theorem length_routeQueue (n : Nat) : (self.routeQueue n).1.interfaces.length = self.interfaces.length :=
  loop_invariant (queueWaits n) (fun state => state.1.routeFront n)
    (fun state => state.1.interfaces.length = self.interfaces.length)
    (fun state _ length => (state.1.length_routeFront n).trans length) _ (self, .ok ()) rfl

theorem length_route : self.route.1.interfaces.length = self.interfaces.length := by
  have upTo (numbers : List Nat) (state : Router × Except Exception Unit) :
      (numbers.foldl routeNext state).1.interfaces.length = state.1.interfaces.length := by
    induction numbers generalizing state with
    | nil => rfl
    | cons n rest ih =>
        rw [List.foldl_cons, ih]
        obtain ⟨current, result⟩ := state
        cases result with
        | error thrown => rfl
        | ok => exact current.length_routeQueue n
  exact upTo _ (self, .ok ())

end Length

end Router

namespace NetworkSimulator

def andThen {σ : Type} (called : σ × Except Exception Unit) (next : σ → σ × Except Exception Unit) :
    σ × Except Exception Unit :=
  match called with
  | (state, .error thrown) => (state, .error thrown)
  | (state, .ok ()) => next state

structure Host where
  name : String
  myAddress : Address
  interface : AsyncNetworkInterface
  nextHop : Address
  expectingToReceive : List IPv4Datagram := []

namespace Host

def new (name : String) (ethernetAddress : EthernetAddress) (myAddress nextHop : Address) : Host where
  name
  myAddress
  interface := { ethernetAddress, ipAddress := myAddress }
  nextHop

-- The payload, a text with a random number in it, is an argument here.
def datagramTo (self : Host) (destination : Address) (ttl : UInt8) (payload : Bytes) : IPv4Datagram where
  header := {
    src := self.myAddress.ipv4Numeric
    dst := destination.ipv4Numeric
    len := UInt16.ofNat (5 * 4 + payload.length)
    ttl }
  payload := .ofBuffer payload

def sendTo (self : Host) (destination : Address) (ttl : UInt8) (payload : Bytes) : Host × Except Exception Unit :=
  let (interface, result) := self.interface.sendDatagram (self.datagramTo destination ttl payload) self.nextHop
  ({ self with interface }, result)

def expect (self : Host) (expected : IPv4Datagram) : Host :=
  { self with expectingToReceive := self.expectingToReceive ++ [expected] }

def wire (dgram : IPv4Datagram) : Except Exception Bytes := dgram.serialize.map BufferList.concatenate

def expecting (expected : IPv4Datagram) : List IPv4Datagram → Except Exception Bool
  | [] => .ok false
  | x :: rest => do
      if (← wire x) = (← wire expected) then
        return true
      expecting expected rest

def removeExpectation (expected : IPv4Datagram) : List IPv4Datagram → Except Exception (List IPv4Datagram)
  | [] => .ok []
  | x :: rest => do
      if (← wire x) = (← wire expected) then
        return rest
      return x :: (← removeExpectation expected rest)

def describe (dgram : IPv4Datagram) : String :=
  dgram.header.summary ++ " payload=\"" ++
    String.ofList (dgram.payload.concatenate.map fun byte => Char.ofNat byte.toNat) ++ "\""

def unexpected (self : Host) (received : IPv4Datagram) : Exception :=
  .runtimeError ("Host " ++ self.name ++ " received unexpected Internet datagram: " ++ describe received)

def missing (self : Host) (expected : IPv4Datagram) : Exception :=
  .runtimeError ("Host " ++ self.name ++ " did NOT receive an expected Internet datagram: " ++ describe expected)

def checkReceived (self : Host) : List IPv4Datagram → Host × Except Exception Unit
  | [] => ({ self with interface := { self.interface with datagramsOut := [] } }, .ok ())
  | received :: rest =>
      let here := { self with interface := { self.interface with datagramsOut := received :: rest } }
      match expecting received self.expectingToReceive with
      | .error thrown => (here, .error thrown)
      | .ok false => (here, .error (self.unexpected received))
      | .ok true =>
          match removeExpectation received self.expectingToReceive with
          | .error thrown => (here, .error thrown)
          | .ok left => checkReceived { self with expectingToReceive := left } rest

def checkExpected (self : Host) : Host × Except Exception Unit :=
  match self.expectingToReceive with
  | [] => (self, .ok ())
  | expected :: _ => (self, .error (self.missing expected))

def check (self : Host) : Host × Except Exception Unit :=
  andThen (self.checkReceived self.interface.datagramsOut) checkExpected

end Host

inductive Port (k m : Nat)
  | router (n : Fin k)
  | host (n : Fin m)
  deriving DecidableEq

def deliver : List EthernetFrame → AsyncNetworkInterface → AsyncNetworkInterface × Except Exception Unit
  | [], dst => (dst, .ok ())
  | frame :: rest, dst =>
      andThen (dst.recvFrame { frame with payload := .ofBuffer frame.payload.concatenate }) (deliver rest)

/-- A router of `k` interfaces and `m` hosts, with the calls of `exchange_frames` that stand for the wires: an
interface of the router, and the hosts on the same wire. -/
structure Network (k m : Nat) where
  router : Router
  plugged : router.interfaces.length = k
  hosts : Vector Host m
  connections : List (Fin k × List (Fin m))

namespace Network

variable {k m : Nat}

def host (self : Network k m) (n : Fin m) : Host := self.hosts[n]

def interface (self : Network k m) : Port k m → AsyncNetworkInterface
  | .router n => self.router.interfaces.get (n.cast self.plugged.symm)
  | .host n => (self.host n).interface

def setHost (self : Network k m) (n : Fin m) (host : Host) : Network k m :=
  { self with hosts := self.hosts.set n host }

def setInterface (self : Network k m) (port : Port k m) (interface : AsyncNetworkInterface) : Network k m :=
  match port with
  | .router n =>
      { self with
        router := { self.router with interfaces := self.router.interfaces.set n interface }
        plugged := List.length_set.trans self.plugged }
  | .host n => self.setHost n { self.host n with interface }

def onInterface (self : Network k m) (port : Port k m)
    (call : AsyncNetworkInterface → AsyncNetworkInterface × Except Exception Unit) :
    Network k m × Except Exception Unit :=
  let (interface, result) := call (self.interface port)
  (self.setInterface port interface, result)

def onHost (self : Network k m) (n : Fin m) (call : Host → Host × Except Exception Unit) :
    Network k m × Except Exception Unit :=
  let (host, result) := call (self.host n)
  (self.setHost n host, result)

def clear (before self : Network k m) (port : Port k m) : Network k m :=
  let interface := self.interface port
  self.setInterface port
    { interface with framesOut := interface.framesOut.drop (before.interface port).framesOut.length }

def deliverTurn (before : Network k m) (state : Network k m × Except Exception Unit) (turn : Port k m × Port k m) :
    Network k m × Except Exception Unit :=
  andThen state fun self => self.onInterface turn.2 (deliver (before.interface turn.1).framesOut)

/-- `exchange_frames`, for any number of interfaces: what each has to send is copied first, and delivered to each of
the others. -/
def exchangeFrames (self : Network k m) (ports : List (Port k m)) : Network k m × Except Exception Unit :=
  andThen ((turns ports).foldl self.deliverTurn (self, .ok ())) fun after =>
    (ports.foldl self.clear after, .ok ())

def ports (connection : Fin k × List (Fin m)) : List (Port k m) := .router connection.1 :: connection.2.map .host

def simulatePhysicalConnections (self : Network k m) : Network k m × Except Exception Unit :=
  self.connections.foldl (fun state connection => andThen state fun self => self.exchangeFrames (ports connection))
    (self, .ok ())

def route (self : Network k m) : Network k m × Except Exception Unit :=
  ({ self with router := self.router.route.1, plugged := self.router.length_route.trans self.plugged },
    self.router.route.2)

def rounds (self : Network k m) : Nat → Network k m × Except Exception Unit
  | 0 => (self, .ok ())
  | n + 1 => andThen (andThen (self.rounds n) route) simulatePhysicalConnections

def checkHosts (self : Network k m) : Network k m × Except Exception Unit :=
  (List.finRange m).foldl (fun state n => andThen state fun self => self.onHost n Host.check) (self, .ok ())

def simulate (self : Network k m) : Network k m × Except Exception Unit := andThen (self.rounds 256) checkHosts

end Network

inductive NetworkOp (k m : Nat)
  | sendTo (host : Fin m) (destination : Address) (ttl : UInt8) (payload : Bytes)
  | expect (host : Fin m) (expected : IPv4Datagram)
  | tick (port : Port k m) (msSinceLastTick : Nat)
  | route
  | exchange (connection : Fin k × List (Fin m))

namespace Network

variable {k m : Nat}

def step (self : Network k m) : NetworkOp k m → Network k m × Except Exception Unit
  | .sendTo host destination ttl payload => self.onHost host fun host => host.sendTo destination ttl payload
  | .expect host expected => self.onHost host fun host => (host.expect expected, .ok ())
  | .tick port ms => self.onInterface port fun interface => (interface.tick ms, .ok ())
  | .route => self.route
  | .exchange connection => self.exchangeFrames (ports connection)

def run (self : Network k m) (ops : List (NetworkOp k m)) : Network k m × Except Exception Unit :=
  ops.foldl (fun state op => andThen state fun self => self.step op) (self, .ok ())

def runTests (self : Network k m) (tests : List (List (NetworkOp k m))) : Network k m × Except Exception Unit :=
  tests.foldl (fun state test => andThen (andThen state fun self => self.run test) simulate) (self, .ok ())

end Network

section Constructor

def ipv4 (a b c d : UInt8) : Address :=
  ⟨a.toUInt32 <<< 24 ||| b.toUInt32 <<< 16 ||| c.toUInt32 <<< 8 ||| d.toUInt32, 0⟩

def randomHostEthernetAddress (bytes : EthernetAddress) : EthernetAddress :=
  #v[(bytes.get 0 ||| 0x02) &&& 0xfe, bytes.get 1, bytes.get 2, bytes.get 3, bytes.get 4, bytes.get 5]

def randomRouterEthernetAddress (bytes : EthernetAddress) : EthernetAddress :=
  #v[0x02, 0, 0, bytes.get 3, bytes.get 4, bytes.get 5]

def routerAddresses : List Address :=
  [ipv4 171 67 76 46, ipv4 10 0 0 1, ipv4 172 16 0 1, ipv4 192 168 0 1, ipv4 198 178 229 1, ipv4 143 195 0 2,
    ipv4 128 30 76 255]

def routeCalls : List RouteCall :=
  [⟨(ipv4 0 0 0 0).ipv4Numeric, 0, some (ipv4 171 67 76 1), 0⟩,
    ⟨(ipv4 10 0 0 0).ipv4Numeric, 8, none, 1⟩,
    ⟨(ipv4 172 16 0 0).ipv4Numeric, 16, none, 2⟩,
    ⟨(ipv4 192 168 0 0).ipv4Numeric, 24, none, 3⟩,
    ⟨(ipv4 198 178 229 0).ipv4Numeric, 24, none, 4⟩,
    ⟨(ipv4 143 195 0 0).ipv4Numeric, 17, some (ipv4 143 195 0 1), 5⟩,
    ⟨(ipv4 143 195 128 0).ipv4Numeric, 18, some (ipv4 143 195 0 1), 5⟩,
    ⟨(ipv4 143 195 192 0).ipv4Numeric, 19, some (ipv4 143 195 0 1), 5⟩,
    ⟨(ipv4 128 30 76 255).ipv4Numeric, 16, some (ipv4 128 30 0 1), 6⟩]

def Network.new (routerBytes : Nat → EthernetAddress) (hostBytes : Nat → EthernetAddress) : Network 7 6 where
  router := routeCalls.foldl Router.addRoute
    { interfaces := routerAddresses.mapIdx fun n ipAddress =>
        { ethernetAddress := randomRouterEthernetAddress (routerBytes n), ipAddress } }
  plugged := by
    rw [Router.interfaces_addRoutes]
    exact List.length_mapIdx
  hosts := #v[
    .new "applesauce" (randomHostEthernetAddress (hostBytes 0)) (ipv4 10 0 0 2) (ipv4 10 0 0 1),
    .new "default_router" (randomHostEthernetAddress (hostBytes 1)) (ipv4 171 67 76 1) (ipv4 0 0 0 0),
    .new "cherrypie" (randomHostEthernetAddress (hostBytes 2)) (ipv4 192 168 0 2) (ipv4 192 168 0 1),
    .new "hs_router" (randomHostEthernetAddress (hostBytes 3)) (ipv4 143 195 0 1) (ipv4 0 0 0 0),
    .new "dm42" (randomHostEthernetAddress (hostBytes 4)) (ipv4 198 178 229 42) (ipv4 198 178 229 1),
    .new "dm43" (randomHostEthernetAddress (hostBytes 5)) (ipv4 198 178 229 43) (ipv4 198 178 229 1)]
  connections := [(0, [1]), (1, [0]), (3, [2]), (5, [3]), (4, [4, 5])]

def traffic (net : Network 7 6) (host : Fin 6) (destination : Address) (receiver : Fin 6) (payload : Bytes) :
    List (NetworkOp 7 6) :=
  let dgramSent := (net.host host).datagramTo destination 64 payload
  [.sendTo host destination 64 payload,
    .expect receiver { dgramSent with header := { dgramSent.header with ttl := dgramSent.header.ttl - 1 } }]

def networkSimulator (net : Network 7 6) (payload : Nat → Bytes) : List (List (NetworkOp 7 6)) :=
  [traffic net 0 (ipv4 192 168 0 2) 2 (payload 0),
    traffic net 2 (ipv4 10 0 0 2) 0 (payload 1),
    traffic net 0 (ipv4 1 2 3 4) 1 (payload 2),
    traffic net 0 (ipv4 143 195 131 17) 3 (payload 3),
    traffic net 2 (ipv4 143 195 193 52) 3 (payload 4),
    traffic net 2 (ipv4 143 195 223 255) 3 (payload 5),
    traffic net 2 (ipv4 143 195 224 0) 1 (payload 6),
    traffic net 4 (ipv4 198 178 229 43) 5 (payload 7),
    [.sendTo 0 (ipv4 1 2 3 4) 1 (payload 8)],
    [.sendTo 0 (ipv4 1 2 3 4) 0 (payload 9)]]

end Constructor

end NetworkSimulator

end Sponge
