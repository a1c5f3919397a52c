import Sponge.ByteStream
import Sponge.WrappingIntegers

set_option autoImplicit false

namespace Sponge

structure TCPHeader where
  sport : UInt16 := 0
  dport : UInt16 := 0
  seqno : WrappingInt32 := ⟨0⟩
  ackno : WrappingInt32 := ⟨0⟩
  doff : UInt8 := 5
  urg : Bool := false
  ack : Bool := false
  psh : Bool := false
  rst : Bool := false
  syn : Bool := false
  fin : Bool := false
  win : UInt16 := 0
  cksum : UInt16 := 0
  uptr : UInt16 := 0
  deriving DecidableEq, Repr

structure TCPSegment where
  header : TCPHeader := {}
  payload : Bytes := []
  deriving DecidableEq, Repr

def TCPSegment.lengthInSequenceSpace (seg : TCPSegment) : Nat :=
  seg.payload.length + (if seg.header.syn then 1 else 0) + (if seg.header.fin then 1 else 0)

end Sponge
