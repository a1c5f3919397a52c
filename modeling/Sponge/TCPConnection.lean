import Sponge.TCPReceiver
import Sponge.TCPSender

set_option autoImplicit false

namespace Sponge

open Shared

def TCPReceiver.setError (r : TCPReceiver) : TCPReceiver :=
  { r with reassembler := { r.reassembler with output := r.reassembler.output.setError } }

def TCPSender.finSent (s : TCPSender) : Bool :=
  s.stream.eof && s.nextSeqnoAbsolute == s.stream.bytesWritten + 2

def TCPSender.setError (s : TCPSender) : TCPSender := { s with stream := s.stream.setError }

structure TCPConnection where
  cfg : TCPConfig
  receiver : TCPReceiver
  sender : TCPSender
  segmentsOut : List TCPSegment
  lingerAfterStreamsFinish : Bool
  isActive : Bool
  timeSinceLastSegmentReceived : Nat
  deriving DecidableEq

namespace TCPConnection

def new (cfg : TCPConfig) (randomIsn : WrappingInt32) : TCPConnection where
  cfg := cfg
  receiver := .new cfg.recvCapacity
  sender := .new cfg.sendCapacity cfg.rtTimeout cfg.fixedIsn randomIsn
  segmentsOut := []
  lingerAfterStreamsFinish := true
  isActive := true
  timeSinceLastSegmentReceived := 0

def inboundStream (c : TCPConnection) : ByteStream := c.receiver.streamOut

-- Once there is an ackno every segment carries it; the window is narrowed to the header's 16 bits.
def stamp (r : TCPReceiver) (seg : TCPSegment) : TCPSegment :=
  match r.ackno with
  | none => seg
  | some ackno =>
      { seg with header := { seg.header with ack := true, ackno := ackno, win := UInt16.ofNat r.windowSize } }

def moveToSegmentsOut (c : TCPConnection) : TCPConnection :=
  { c with
    segmentsOut := c.segmentsOut ++ c.sender.segmentsOut.map (stamp c.receiver)
    sender := { c.sender with segmentsOut := [] } }

-- check condition about clean shutdown
def isSatisfiedPrereq (c : TCPConnection) : Bool :=
  c.receiver.unassembledBytes == 0 && c.receiver.streamOut.eof && c.sender.stream.eof &&
    c.sender.bytesInFlight == 0

def connect (c : TCPConnection) : TCPConnection :=
  { c with sender := c.sender.fillWindow }.moveToSegmentsOut

def setErrors (c : TCPConnection) : TCPConnection :=
  { c with isActive := false, sender := c.sender.setError, receiver := c.receiver.setError }

-- receive ack except before syn
def acknowledge (c : TCPConnection) (seg : TCPSegment) : TCPConnection :=
  if c.sender.nextSeqnoAbsolute ≠ 0 ∧ seg.header.ack = true then
    { c with sender := (c.sender.ackReceived seg.header.ackno seg.header.win).fillWindow }.moveToSegmentsOut
  else c

-- A payload, SYN or FIN is answered, by an empty segment when nothing else is on its way.
def answer (c : TCPConnection) : TCPConnection :=
  if c.segmentsOut.isEmpty then { c with sender := c.sender.sendEmptySegment }.moveToSegmentsOut
  else c.moveToSegmentsOut

def closeIfDone (c : TCPConnection) : TCPConnection :=
  let c :=
    if c.receiver.streamOut.eof && !c.sender.finSent then { c with lingerAfterStreamsFinish := false } else c
  if !c.lingerAfterStreamsFinish && c.isSatisfiedPrereq then { c with isActive := false } else c

def accept (c : TCPConnection) (seg : TCPSegment) : TCPConnection :=
  let c := { c with timeSinceLastSegmentReceived := 0, receiver := c.receiver.segmentReceived seg }
  if seg.header.rst then c.setErrors else c

def segmentReceived (c : TCPConnection) (seg : TCPSegment) : TCPConnection :=
  let c := (c.accept seg).acknowledge seg
  if 0 < seg.lengthInSequenceSpace then
    -- SYN
    if c.sender.nextSeqnoAbsolute = 0 then c.connect else c.answer.closeIfDone
  else c.closeIfDone

-- A segment that the receiver throws at has only been noticed.
def segmentReceivedExcept (c : TCPConnection) (seg : TCPSegment) : TCPConnection × Except Exception Unit :=
  match c.receiver.segmentReceivedExcept seg with
  | (receiver, .error thrown) => ({ c with timeSinceLastSegmentReceived := 0, receiver }, .error thrown)
  | (_, .ok ()) => (c.segmentReceived seg, .ok ())

def write (c : TCPConnection) (data : Bytes) : Nat × TCPConnection :=
  let (writtenLength, stream) := c.sender.stream.write data
  (writtenLength, { c with sender := { c.sender with stream := stream }.fillWindow }.moveToSegmentsOut)

def endInputStream (c : TCPConnection) : TCPConnection :=
  { c with sender := { c.sender with stream := c.sender.stream.endInput }.fillWindow }.moveToSegmentsOut

def rstSegment : TCPSegment := { header := { rst := true } }

-- The segments of `_sender` stay where they are when the connection gives up.
def giveUp (c : TCPConnection) : TCPConnection :=
  { c.setErrors with segmentsOut := c.segmentsOut ++ [rstSegment], lingerAfterStreamsFinish := false }

def passTime (c : TCPConnection) (msSinceLastTick : Nat) : TCPConnection :=
  let c := { c with
    sender := c.sender.tick msSinceLastTick
    timeSinceLastSegmentReceived := add64 c.timeSinceLastSegmentReceived msSinceLastTick }
  -- active close
  if 10 * c.cfg.rtTimeout.toNat ≤ c.timeSinceLastSegmentReceived ∧ c.isSatisfiedPrereq = true then
    { c with isActive := false }
  else c

def tick (c : TCPConnection) (msSinceLastTick : Nat) : TCPConnection :=
  let c := c.passTime msSinceLastTick
  if TCPConfig.maxRetxAttempts < c.sender.consecutiveRetransmissions then c.giveUp else c.moveToSegmentsOut

def readInbound (c : TCPConnection) (len : Nat) : Bytes × TCPConnection :=
  let (bytes, stream) := c.receiver.reassembler.output.read len
  (bytes, { c with receiver := { c.receiver with reassembler := { c.receiver.reassembler with output := stream } } })

def popInbound (c : TCPConnection) (len : Nat) : TCPConnection :=
  { c with receiver := c.receiver.popOutput len }

end TCPConnection

end Sponge
