import Sponge.NetworkInterface
import Sponge.Shared.Loop
import Sponge.Shared.LongestPrefix

set_option autoImplicit false

namespace Sponge

open Shared

structure AsyncNetworkInterface extends NetworkInterface where
  datagramsOut : List IPv4Datagram := []

namespace AsyncNetworkInterface

def recvFrame (self : AsyncNetworkInterface) (frame : EthernetFrame) :
    AsyncNetworkInterface × Except Exception Unit :=
  match self.toNetworkInterface.recvFrame frame with
  | (iface, .error thrown) => ({ self with toNetworkInterface := iface }, .error thrown)
  | (iface, .ok none) => ({ self with toNetworkInterface := iface }, .ok ())
  | (iface, .ok (some dgram)) =>
      ({ toNetworkInterface := iface, datagramsOut := self.datagramsOut ++ [dgram] }, .ok ())

def sendDatagram (self : AsyncNetworkInterface) (dgram : IPv4Datagram) (nextHop : Address) :
    AsyncNetworkInterface × Except Exception Unit :=
  let (iface, result) := self.toNetworkInterface.sendDatagram dgram nextHop
  ({ self with toNetworkInterface := iface }, result)

def tick (self : AsyncNetworkInterface) (msSinceLastTick : Nat) : AsyncNetworkInterface :=
  { self with toNetworkInterface := self.toNetworkInterface.tick msSinceLastTick }

end AsyncNetworkInterface

structure RouteCall where
  routePrefix : UInt32
  prefixLength : UInt8
  nextHop : Option Address
  interfaceNum : Nat
  deriving DecidableEq, Repr

structure Router where
  interfaces : List AsyncNetworkInterface := []
  routes : AList fun _ : UInt32 × UInt8 => Option Address × Nat := ∅

namespace Router

def addInterface (self : Router) (interface : AsyncNetworkInterface) : Router :=
  { self with interfaces := self.interfaces ++ [interface] }

def addRoute (self : Router) (call : RouteCall) : Router :=
  { self with
    routes := self.routes.insert (call.routePrefix, call.prefixLength) (call.nextHop, call.interfaceNum) }

def onInterface (self : Router) (n : Nat)
    (call : AsyncNetworkInterface → AsyncNetworkInterface × Except Exception Unit) :
    Router × Except Exception Unit :=
  match self.interfaces[n]? with
  | none => (self, .error (.outOfRange "vector::_M_range_check"))
  | some interface =>
      let (interface, result) := call interface
      ({ self with interfaces := self.interfaces.set n interface }, result)

theorem onInterface_present {self : Router} {n : Nat} {interface : AsyncNetworkInterface}
    (present : self.interfaces[n]? = some interface)
    (call : AsyncNetworkInterface → AsyncNetworkInterface × Except Exception Unit) :
    self.onInterface n call =
      ({ self with interfaces := self.interfaces.set n (call interface).1 }, (call interface).2) := by
  simp only [onInterface, present]

def dstPart (dst : UInt32) (i : Nat) : UInt32 := (· * 2)^[i] ((· / 2)^[i] dst)

def findRoute (self : Router) (dst : UInt32) : Option (Option Address × Nat) :=
  (List.range 33).findSome? fun i => self.routes.lookup (dstPart dst i, UInt8.ofNat (32 - i))

def routeOneDatagram (self : Router) (dgram : IPv4Datagram) : Router × Except Exception Unit :=
  match self.findRoute dgram.header.dst with
  | none => (self, .ok ())
  | some (routeHop, interfaceNum) =>
      let nextHop := routeHop.getD (Address.fromIpv4Numeric dgram.header.dst)
      if dgram.header.ttl = 0 then
        (self, .ok ())
      else
        let newDgram := { dgram with header := { dgram.header with ttl := dgram.header.ttl - 1 } }
        if newDgram.header.ttl = 0 then
          (self, .ok ())
        else
          self.onInterface interfaceNum fun interface => interface.sendDatagram newDgram nextHop

def datagramsOut (self : Router) (n : Nat) : List IPv4Datagram :=
  match self.interfaces[n]? with
  | none => []
  | some interface => interface.datagramsOut

def popDatagram (self : Router) (n : Nat) : Router × Except Exception Unit :=
  self.onInterface n fun interface => ({ interface with datagramsOut := interface.datagramsOut.tail }, .ok ())

-- A datagram whose routing throws stays at the front of its queue.
def routeFront (self : Router) (n : Nat) : Router × Except Exception Unit :=
  match self.datagramsOut n with
  | [] => (self, .ok ())
  | dgram :: _ =>
      match self.routeOneDatagram dgram with
      | (self, .error thrown) => (self, .error thrown)
      | (self, .ok ()) => self.popDatagram n

def queueWaits (n : Nat) (state : Router × Except Exception Unit) : Bool :=
  state.2.isOk && !(state.1.datagramsOut n).isEmpty

/-- Routing fills no queue of received datagrams, so the queue's length bounds the rounds. -/
def routeQueue (self : Router) (n : Nat) : Router × Except Exception Unit :=
  loop (queueWaits n) (fun state => state.1.routeFront n) (self.datagramsOut n).length (self, .ok ())

def routeNext : Router × Except Exception Unit → Nat → Router × Except Exception Unit
  | (self, .error thrown), _ => (self, .error thrown)
  | (self, .ok ()), n => self.routeQueue n

def route (self : Router) : Router × Except Exception Unit :=
  (List.range self.interfaces.length).foldl routeNext (self, .ok ())

end Router

end Sponge
