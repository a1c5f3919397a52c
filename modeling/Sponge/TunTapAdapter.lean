import Sponge.EthernetCodec
import Sponge.NetworkInterface
import Sponge.SpongeSocket

set_option autoImplicit false

namespace Sponge

open Shared FileDescriptor

-- A TUN or TAP device with the packets that were written to it. The kernel takes each of them whole.
structure PacketDevice where
  fd : FileDescriptor := {}
  written : List Bytes := []

namespace PacketDevice

def read (self : PacketDevice) (packet : Option Bytes) : PacketDevice × Except Exception Bytes :=
  let (fd, result) := self.fd.read (2 ^ 64 - 1) fun _ => packet
  ({ self with fd }, result)

def write (self : PacketDevice) (buffers : BufferList) : PacketDevice × Except Exception Unit :=
  let views := BufferViewList.ofBufferList buffers
  let (fd, result) := self.fd.write views true fun _ => some views.size
  ({ fd, written := self.written ++ [buffers.concatenate] }, result.map fun _ => ())

theorem write_eq (self : PacketDevice) (buffers : BufferList) :
    (self.write buffers).1.written = self.written ++ [buffers.concatenate] ∧ (self.write buffers).2 = .ok () ∧
      (self.write buffers).1.fd.readCount = self.fd.readCount := by
  let views := BufferViewList.ofBufferList buffers
  let writev : Nat → Option Nat := fun _ => some views.size
  have size : views.size = views.concatenate.length := views.size_eq
  -- The one answer leaves nothing to write.
  have first : Wrote writev self.fd views.concatenate 1 (writeOnce writev { fd := self.fd, buffer := views }) := by
    refine (wrote_start self.fd views).fits ⟨views.size, rfl, fun zero => ?_, ?_⟩
    · rw [← size, zero]
      rfl
    · rw [← size]
      exact (Nat.zero_add _).le
  have taken : taken writev 1 = views.size := by simp [FileDescriptor.taken, writev]
  have stopped : writesOn true (writeOnce writev { fd := self.fd, buffer := views }) = false := by
    have nothing := first.size
    rw [taken, size, Nat.sub_self] at nothing
    simp [writesOn, nothing]
  have once : self.fd.write views true writev =
      ((writeOnce writev { fd := self.fd, buffer := views }).fd,
        (writeOnce writev { fd := self.fd, buffer := views }).result.map fun _ =>
          (writeOnce writev { fd := self.fd, buffer := views }).totalBytesWritten) := by
    simp only [FileDescriptor.write, loop_of_stopped _ _ stopped]
  have counted : (writeOnce writev { fd := self.fd, buffer := views }).fd.readCount = self.fd.readCount := by
    simp only [writeOnce, writev]
    split_ifs <;> rfl
  refine ⟨rfl, ?_, ?_⟩
  · simp only [write, writev, views] at once ⊢
    rw [once]
    simp [first.succeeded, Except.map, writev, views]
  · simp only [write, writev, views] at once ⊢
    rw [once]
    exact counted

end PacketDevice

structure TCPOverIPv4OverTunFdAdapter extends TCPOverIPv4Adapter where
  tun : PacketDevice := {}

namespace TCPOverIPv4OverTunFdAdapter

def read (self : TCPOverIPv4OverTunFdAdapter) (packet : Option Bytes) :
    TCPOverIPv4OverTunFdAdapter × Except Exception (Option TCPSegment) :=
  match self.tun.read packet with
  | (tun, .error thrown) => ({ self with tun }, .error thrown)
  | (tun, .ok bytes) =>
      let (result, ipDgram) := ({} : IPv4Datagram).parse bytes
      if result ≠ .noError then
        ({ self with tun }, .ok none)
      else
        let (adapter, answer) := self.toTCPOverIPv4Adapter.unwrapTcpInIp ipDgram
        ({ toTCPOverIPv4Adapter := adapter, tun }, answer)

def write (self : TCPOverIPv4OverTunFdAdapter) (seg : TCPSegment) :
    TCPOverIPv4OverTunFdAdapter × Except Exception Unit :=
  match (self.wrapTcpInIp seg).2 with
  | .error thrown => (self, .error thrown)
  | .ok dgram =>
      match dgram.serialize with
      | .error thrown => (self, .error thrown)
      | .ok payload =>
          let (tun, result) := self.tun.write payload
          ({ self with tun }, result)

instance : DatagramAdapter TCPOverIPv4OverTunFdAdapter Bytes where
  fd := fun self => self.tun.fd
  read := read
  write := write
  tick := fun self _ => (self, .ok ())

end TCPOverIPv4OverTunFdAdapter

structure TCPOverIPv4OverEthernetAdapter extends TCPOverIPv4Adapter where
  tap : PacketDevice := {}
  interface : NetworkInterface
  nextHop : Address

namespace TCPOverIPv4OverEthernetAdapter

-- Linux seems to ignore the first frame sent on a TAP device, so a dummy frame goes first.
def new (ethernetAddress : EthernetAddress) (ipAddress nextHop : Address) : TCPOverIPv4OverEthernetAdapter where
  tap := (({} : PacketDevice).write ({} : EthernetFrame).serialize).1
  interface := { ethernetAddress, ipAddress }
  nextHop := nextHop

def sendFront (state : TCPOverIPv4OverEthernetAdapter × Except Exception Unit) :
    TCPOverIPv4OverEthernetAdapter × Except Exception Unit :=
  match state.1.interface.framesOut with
  | [] => state
  | front :: rest =>
      match state.1.tap.write front.serialize with
      | (tap, .error thrown) => ({ state.1 with tap }, .error thrown)
      | (tap, .ok ()) => ({ state.1 with tap, interface := { state.1.interface with framesOut := rest } }, .ok ())

def pending (state : TCPOverIPv4OverEthernetAdapter × Except Exception Unit) : Bool :=
  state.2.isOk && !state.1.interface.framesOut.isEmpty

def sendPending (self : TCPOverIPv4OverEthernetAdapter) : TCPOverIPv4OverEthernetAdapter × Except Exception Unit :=
  loop pending sendFront self.interface.framesOut.length (self, .ok ())

theorem sendPending_eq (self : TCPOverIPv4OverEthernetAdapter) :
    ∃ fd, fd.readCount = self.tap.fd.readCount ∧ self.sendPending =
      ({ self with
        tap :=
          { fd, written := self.tap.written ++ self.interface.framesOut.map fun frame => frame.serialize.concatenate }
        interface := { self.interface with framesOut := [] } }, .ok ()) := by
  unfold sendPending
  generalize frames : self.interface.framesOut = waiting
  induction waiting generalizing self with
  | nil =>
      refine ⟨self.tap.fd, rfl, ?_⟩
      simp only [List.length_nil, loop, List.map_nil, List.append_nil]
      rw [← frames]
  | cons front rest ih =>
      obtain ⟨written, ok, count⟩ := self.tap.write_eq front.serialize
      have running : pending (self, .ok ()) = true := by simp [pending, frames, Except.isOk, Except.toBool]
      have sent : sendFront (self, .ok ()) =
          ({ self with
            tap := (self.tap.write front.serialize).1
            interface := { self.interface with framesOut := rest } }, .ok ()) := by
        unfold sendFront
        simp only [frames]
        generalize self.tap.write front.serialize = called at ok
        obtain ⟨tap, result⟩ := called
        obtain rfl : result = .ok () := ok
        rfl
      obtain ⟨fd, same, last⟩ := ih { self with
        tap := (self.tap.write front.serialize).1
        interface := { self.interface with framesOut := rest } } rfl
      refine ⟨fd, same.trans count, ?_⟩
      rw [List.length_cons, loop, if_pos running, sent, last]
      simp [written]

def read (self : TCPOverIPv4OverEthernetAdapter) (packet : Option Bytes) :
    TCPOverIPv4OverEthernetAdapter × Except Exception (Option TCPSegment) :=
  match self.tap.read packet with
  | (tap, .error thrown) => ({ self with tap }, .error thrown)
  | (tap, .ok bytes) =>
      let self := { self with tap }
      let (result, frame) := ({} : EthernetFrame).parse bytes
      if result ≠ .noError then
        (self, .ok none)
      else
        match self.interface.recvFrame frame with
        | (interface, .error thrown) => ({ self with interface }, .error thrown)
        | (interface, .ok ipDgram) =>
            match { self with interface }.sendPending with
            | (self, .error thrown) => (self, .error thrown)
            | (self, .ok ()) =>
                match ipDgram with
                | none => (self, .ok none)
                | some ipDgram =>
                    let (adapter, answer) := self.toTCPOverIPv4Adapter.unwrapTcpInIp ipDgram
                    ({ self with toTCPOverIPv4Adapter := adapter }, answer)

def write (self : TCPOverIPv4OverEthernetAdapter) (seg : TCPSegment) :
    TCPOverIPv4OverEthernetAdapter × Except Exception Unit :=
  match (self.wrapTcpInIp seg).2 with
  | .error thrown => (self, .error thrown)
  | .ok dgram =>
      match self.interface.sendDatagram dgram self.nextHop with
      | (interface, .error thrown) => ({ self with interface }, .error thrown)
      | (interface, .ok ()) => { self with interface }.sendPending

def tick (self : TCPOverIPv4OverEthernetAdapter) (msSinceLastTick : Nat) :
    TCPOverIPv4OverEthernetAdapter × Except Exception Unit :=
  { self with interface := self.interface.tick msSinceLastTick }.sendPending

instance : DatagramAdapter TCPOverIPv4OverEthernetAdapter Bytes where
  fd := fun self => self.tap.fd
  read := read
  write := write
  tick := tick

end TCPOverIPv4OverEthernetAdapter

end Sponge
