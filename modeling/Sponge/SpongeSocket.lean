import Sponge.Endpoint
import Sponge.EventLoop

set_option autoImplicit false

namespace Sponge

open Shared EventLoop FileDescriptor

def TCPConnection.remainingOutboundCapacity (c : TCPConnection) : Nat := c.sender.stream.remainingCapacity

/-- What a `TCPSpongeSocket` asks of its `AdaptT`. A packet is what the device underneath has to read. -/
class DatagramAdapter (α : Type) (π : outParam Type) where
  fd : α → FileDescriptor
  read : α → Option π → α × Except Exception (Option TCPSegment)
  write : α → TCPSegment → α × Except Exception Unit
  tick : α → Nat → α × Except Exception Unit

structure Host (α : Type) where
  datagramAdapter : α
  tcp : Endpoint

namespace Host

variable {α π : Type} [DatagramAdapter α π]

def receive (h : Host α) (packet : Option π) : Host α × Except Exception Unit :=
  match DatagramAdapter.read h.datagramAdapter packet with
  | (datagramAdapter, .error thrown) => ({ h with datagramAdapter }, .error thrown)
  | (datagramAdapter, .ok none) => ({ h with datagramAdapter }, .ok ())
  | (datagramAdapter, .ok (some seg)) =>
      let (conn, result) := h.tcp.conn.segmentReceivedExcept seg
      ({ datagramAdapter, tcp := { h.tcp with conn } }, result)

-- A segment that cannot be written stays where it is.
def transmit (h : Host α) : Host α × Except Exception Unit :=
  match h.tcp.conn.segmentsOut with
  | [] => (h, .ok ())
  | front :: _ =>
      match DatagramAdapter.write h.datagramAdapter front with
      | (datagramAdapter, .error thrown) => ({ h with datagramAdapter }, .error thrown)
      | (datagramAdapter, .ok ()) => ({ datagramAdapter, tcp := h.tcp.step .transmit }, .ok ())

def tick (h : Host α) (ms : Nat) : Host α × Except Exception Unit :=
  let (datagramAdapter, result) := DatagramAdapter.tick h.datagramAdapter ms
  ({ datagramAdapter, tcp := h.tcp.step (.tick ms) }, result)

end Host

inductive HostEvent (π : Type)
  | receive (packet : Option π)
  | write (data : Bytes)
  | endInputStream
  | popOutput (len : Nat)
  | transmit
  | tick (ms : Nat)

namespace Host

variable {α π : Type} [DatagramAdapter α π]

def step (h : Host α) : HostEvent π → Host α
  | .receive packet => (h.receive packet).1
  | .write data => { h with tcp := h.tcp.step (.write data) }
  | .endInputStream => { h with tcp := h.tcp.step .endInputStream }
  | .popOutput len => { h with tcp := h.tcp.step (.popOutput len) }
  | .transmit => h.transmit.1
  | .tick ms => (h.tick ms).1

def Legal (offered : Option π → Prop) (h : Host α) : HostEvent π → Prop
  | .receive packet => offered packet
  | .write _ => h.tcp.conn.sender.stream.inputEnded = false
  | _ => True

end Host

inductive SocketRule
  | datagramIn
  | threadIn
  | threadOut
  | datagramOut
  deriving DecidableEq

structure SocketKernel (π : Type) where
  packet : Option π
  threadRead : Nat → Option Bytes
  threadWrite : Nat → Option Nat
  threadShutdown : Bool

structure TCPSpongeSocket (α π : Type) extends Host α where
  threadData : FileDescriptor := {}
  inboundShutdown : Bool := false
  outboundShutdown : Bool := false
  fullyAcked : Bool := false
  cancelled : List SocketRule := []
  kernel : SocketKernel π

namespace TCPSpongeSocket

variable {α π : Type} [DatagramAdapter α π]

-- rule 1: read from filtered packet stream and dump into TCPConnection
def datagramIn (s : TCPSpongeSocket α π) : TCPSpongeSocket α π × Except Exception Unit :=
  match s.toHost.receive s.kernel.packet with
  | (host, .error thrown) => ({ s with toHost := host }, .error thrown)
  | (host, .ok ()) =>
      ({ s with
        toHost := host
        fullyAcked := s.fullyAcked || (s.threadData.eof && host.tcp.conn.sender.bytesInFlight == 0) }, .ok ())

-- rule 2: read from pipe into outbound buffer
def threadIn (s : TCPSpongeSocket α π) : TCPSpongeSocket α π × Except Exception Unit :=
  match s.threadData.read s.tcp.conn.remainingOutboundCapacity s.kernel.threadRead with
  | (threadData, .error thrown) => ({ s with threadData }, .error thrown)
  | (threadData, .ok data) =>
      let amountWritten := (s.tcp.conn.write data).1
      let tcp := s.tcp.step (.write data)
      if amountWritten ≠ data.length then
        ({ s with threadData, tcp },
          .error (.runtimeError "TCPConnection::write() accepted less than advertised length"))
      else if threadData.eof then
        ({ s with threadData, tcp := tcp.step .endInputStream, outboundShutdown := true }, .ok ())
      else
        ({ s with threadData, tcp }, .ok ())

-- rule 3: read from inbound buffer into pipe
def threadOut (s : TCPSpongeSocket α π) : TCPSpongeSocket α π × Except Exception Unit :=
  let inbound := s.tcp.conn.inboundStream
  let amountToWrite := min 65536 inbound.bufferSize
  let writev := fun _ => s.kernel.threadWrite amountToWrite
  match s.threadData.write ⟨[inbound.peekOutput amountToWrite]⟩ false writev with
  | (threadData, .error thrown) => ({ s with threadData }, .error thrown)
  | (threadData, .ok bytesWritten) =>
      let tcp := s.tcp.step (.popOutput bytesWritten)
      if tcp.conn.inboundStream.eof || tcp.conn.inboundStream.hasError then
        match threadData.shutdownWrite s.kernel.threadShutdown with
        | (threadData, .error thrown) => ({ s with threadData, tcp }, .error thrown)
        | (threadData, .ok _) => ({ s with threadData, tcp, inboundShutdown := true }, .ok ())
      else
        ({ s with threadData, tcp }, .ok ())

def queued (state : Host α × Except Exception Unit) : Bool :=
  state.2.isOk && !state.1.tcp.conn.segmentsOut.isEmpty

-- rule 4: read outbound segments from TCPConnection and send as datagrams
def datagramOut (s : TCPSpongeSocket α π) : TCPSpongeSocket α π × Except Exception Unit :=
  let (host, result) :=
    loop queued (fun state => state.1.transmit) s.tcp.conn.segmentsOut.length (s.toHost, .ok ())
  ({ s with toHost := host }, result)

def endOutbound (s : TCPSpongeSocket α π) : TCPSpongeSocket α π :=
  { s with tcp := s.tcp.step .endInputStream, outboundShutdown := true }

def note (s : TCPSpongeSocket α π) (id : SocketRule) : TCPSpongeSocket α π :=
  { s with cancelled := s.cancelled ++ [id] }

def rule : SocketRule → Rule (TCPSpongeSocket α π)
  | .datagramIn =>
      { fd := fun s => DatagramAdapter.fd s.datagramAdapter
        direction := .input
        callback := datagramIn
        interest := fun s => s.tcp.conn.isActive
        cancel := fun s => (s.note .datagramIn, .ok ()) }
  | .threadIn =>
      { fd := threadData
        direction := .input
        callback := threadIn
        interest := fun s =>
          s.tcp.conn.isActive && !s.outboundShutdown && decide (0 < s.tcp.conn.remainingOutboundCapacity)
        cancel := fun s => (s.endOutbound.note .threadIn, .ok ()) }
  | .threadOut =>
      { fd := threadData
        direction := .output
        callback := threadOut
        interest := fun s =>
          let inbound := s.tcp.conn.inboundStream
          !inbound.bufferEmpty || ((inbound.eof || inbound.hasError) && !s.inboundShutdown)
        cancel := fun s => (s.note .threadOut, .ok ()) }
  | .datagramOut =>
      { fd := fun s => DatagramAdapter.fd s.datagramAdapter
        direction := .output
        callback := datagramOut
        interest := fun s => !s.tcp.conn.segmentsOut.isEmpty
        cancel := fun s => (s.note .datagramOut, .ok ()) }

def allRules : List SocketRule := [.datagramIn, .threadIn, .threadOut, .datagramOut]

structure Round (π : Type) where
  poll : Poll
  kernel : SocketKernel π
  abort : Bool := false
  elapsed : Nat

def tcpRound (state : List SocketRule × TCPSpongeSocket α π) (op : Round π) :
    List SocketRule × TCPSpongeSocket α π × Except Exception Bool :=
  match waitNextEvent rule state.1 op.poll { state.2 with kernel := op.kernel } with
  | (rules, s, .error thrown) => (rules, s, .error thrown)
  | (rules, s, .ok result) =>
      if result = .exit ∨ op.abort = true then
        (rules, s, .ok false)
      else if s.tcp.conn.isActive then
        let (host, ticked) := s.toHost.tick op.elapsed
        (rules, { s with toHost := host }, ticked.map fun _ => true)
      else
        (rules, s, .ok true)

def step (state : List SocketRule × TCPSpongeSocket α π) (op : Round π) : List SocketRule × TCPSpongeSocket α π :=
  ((tcpRound state op).1, (tcpRound state op).2.1)

end TCPSpongeSocket

end Sponge
