import Sponge.SpongeSocket
import Sponge.TCPOverIPv4

set_option autoImplicit false

namespace Sponge

open FileDescriptor

structure ReceivedDatagram where
  sourceAddress : Address
  payload : Bytes
  deriving DecidableEq

-- A UDP socket with the datagrams that were sent by it. The kernel takes each of them whole.
structure UDPSocket where
  fd : FileDescriptor := {}
  written : List (Address × Bytes) := []

namespace UDPSocket

-- With the default MTU. The length that `recvfrom` returns is the datagram's own.
def recv (self : UDPSocket) (answer : Option ReceivedDatagram) : UDPSocket × Except Exception ReceivedDatagram :=
  match answer with
  | none => (self, .error (.runtimeError "recvfrom"))
  | some datagram =>
      if 65536 < datagram.payload.length then
        (self, .error (.runtimeError "recvfrom (oversized datagram)"))
      else
        ({ self with fd := self.fd.registerRead }, .ok datagram)

def sendto (self : UDPSocket) (destination : Address) (payload : BufferList) : UDPSocket where
  fd := self.fd.registerWrite
  written := self.written ++ [(destination, payload.concatenate)]

end UDPSocket

structure TCPOverUDPSocketAdapter where
  config : FdAdapterConfig := {}
  listening : Bool := false
  sock : UDPSocket := {}

namespace TCPOverUDPSocketAdapter

def unwrap (self : TCPOverUDPSocketAdapter) (datagram : ReceivedDatagram) :
    TCPOverUDPSocketAdapter × Option TCPSegment :=
  if ¬self.listening ∧ datagram.sourceAddress ≠ self.config.destination then
    (self, none)
  else
    let (result, seg) := ({} : TCPSegment).parse datagram.payload 0
    if result ≠ .noError then
      (self, none)
    else if self.listening then
      if seg.header.syn ∧ ¬seg.header.rst then
        ({ self with config := { self.config with destination := datagram.sourceAddress }, listening := false },
          some seg)
      else
        (self, none)
    else
      (self, some seg)

def read (self : TCPOverUDPSocketAdapter) (answer : Option ReceivedDatagram) :
    TCPOverUDPSocketAdapter × Except Exception (Option TCPSegment) :=
  match self.sock.recv answer with
  | (sock, .error thrown) => ({ self with sock }, .error thrown)
  | (sock, .ok datagram) =>
      let (adapter, seg) := { self with sock }.unwrap datagram
      (adapter, .ok seg)

def setPorts (self : TCPOverUDPSocketAdapter) (seg : TCPSegment) : TCPSegment where
  header := { seg.header with sport := self.config.source.port, dport := self.config.destination.port }
  payload := seg.payload

def write (self : TCPOverUDPSocketAdapter) (seg : TCPSegment) : TCPOverUDPSocketAdapter × Except Exception Unit :=
  match (self.setPorts seg).serialize 0 with
  | .error thrown => (self, .error thrown)
  | .ok payload => ({ self with sock := self.sock.sendto self.config.destination payload }, .ok ())

instance : DatagramAdapter TCPOverUDPSocketAdapter ReceivedDatagram where
  fd := fun self => self.sock.fd
  read := read
  write := write
  tick := fun self _ => (self, .ok ())

end TCPOverUDPSocketAdapter

/-- The loss rates are those of the adapter's configuration; `rand` holds what `_rand()` has yet to return. -/
structure LossyFdAdapter (α : Type) where
  adapter : α
  lossRateDn : UInt16 := 0
  lossRateUp : UInt16 := 0
  rand : Nat → UInt32 := fun _ => 0

namespace LossyFdAdapter

variable {α π : Type} [DatagramAdapter α π]

def shouldDrop (self : LossyFdAdapter α) (uplink : Bool) : LossyFdAdapter α × Bool :=
  let loss := if uplink then self.lossRateUp else self.lossRateDn
  if loss ≠ 0 then
    ({ self with rand := fun n => self.rand (n + 1) }, (self.rand 0).toUInt16 < loss)
  else
    (self, false)

def read (self : LossyFdAdapter α) (packet : Option π) : LossyFdAdapter α × Except Exception (Option TCPSegment) :=
  match DatagramAdapter.read self.adapter packet with
  | (adapter, .error thrown) => ({ self with adapter }, .error thrown)
  | (adapter, .ok ret) =>
      let (self, drop) := { self with adapter }.shouldDrop false
      (self, .ok (if drop then none else ret))

def write (self : LossyFdAdapter α) (seg : TCPSegment) : LossyFdAdapter α × Except Exception Unit :=
  let (self, drop) := self.shouldDrop true
  if drop then
    (self, .ok ())
  else
    let (adapter, result) := DatagramAdapter.write self.adapter seg
    ({ self with adapter }, result)

def tick (self : LossyFdAdapter α) (msSinceLastTick : Nat) : LossyFdAdapter α × Except Exception Unit :=
  let (adapter, result) := DatagramAdapter.tick self.adapter msSinceLastTick
  ({ self with adapter }, result)

instance : DatagramAdapter (LossyFdAdapter α) π where
  fd := fun self => DatagramAdapter.fd self.adapter
  read := read
  write := write
  tick := tick

end LossyFdAdapter

end Sponge
