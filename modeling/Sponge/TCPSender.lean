import Sponge.Shared.Loop
import Sponge.Shared.Word64
import Sponge.TCPSegment

set_option autoImplicit false

namespace Sponge

open Shared

structure TCPConfig where
  rtTimeout : UInt16 := 1000
  recvCapacity : Nat := 64000
  sendCapacity : Nat := 64000
  fixedIsn : Option WrappingInt32 := none
  deriving DecidableEq

def TCPConfig.maxPayloadSize : Nat := 1000

def TCPConfig.maxRetxAttempts : Nat := 8

inductive TCPSenderState
  | closed | synSent | synAcked | synAckedEof | finSent | finAcked
  deriving DecidableEq

-- `trackingSegments` has the newest segment in front. The `ackno` of a tracked segment is the
-- sender's own mark of where it ends; it is overwritten only on the way out of the connection.
structure TCPSender where
  isn : WrappingInt32
  segmentsOut : List TCPSegment
  initialRetransmissionTimeout : Nat
  stream : ByteStream
  nextSeqno : Nat
  nextAckno : Nat
  trackingSegments : List TCPSegment
  trackedCount : Nat
  timer : Nat
  retransmissionTimeout : Nat
  windowSize : Nat
  remainWindowSize : Nat
  consecutiveTimeOutCount : Nat
  deriving DecidableEq

namespace TCPSender

def new (capacity : Nat) (retxTimeout : UInt16) (fixedIsn : Option WrappingInt32)
    (randomIsn : WrappingInt32) : TCPSender where
  isn := fixedIsn.getD randomIsn
  segmentsOut := []
  initialRetransmissionTimeout := retxTimeout.toNat
  stream := .new capacity
  nextSeqno := 0
  nextAckno := 0
  trackingSegments := []
  trackedCount := 0
  timer := 0
  retransmissionTimeout := retxTimeout.toNat
  windowSize := 1
  remainWindowSize := 1
  consecutiveTimeOutCount := 0

def bytesInFlight (s : TCPSender) : Nat := s.trackedCount

def nextSeqnoAbsolute (s : TCPSender) : Nat := s.nextSeqno

def relativeSeqno (s : TCPSender) : WrappingInt32 := wrap s.nextSeqno s.isn

def consecutiveRetransmissions (s : TCPSender) : Nat := s.consecutiveTimeOutCount

def currentState (s : TCPSender) : TCPSenderState :=
  if s.nextSeqnoAbsolute = 0 then .closed
  else if 0 < s.nextSeqnoAbsolute ∧ s.nextSeqnoAbsolute = s.bytesInFlight then .synSent
  else if s.bytesInFlight < s.nextSeqnoAbsolute ∧ s.stream.eof = false then .synAcked
  else if s.stream.eof = true ∧ s.nextSeqnoAbsolute < s.stream.bytesWritten + 2 then .synAckedEof
  else if s.stream.eof = true ∧ s.nextSeqnoAbsolute = s.stream.bytesWritten + 2 ∧ 0 < s.bytesInFlight then
    .finSent
  else if s.stream.eof = true ∧ s.nextSeqnoAbsolute = s.stream.bytesWritten + 2 ∧ s.bytesInFlight = 0 then
    .finAcked
  else .closed

def emit (s : TCPSender) (seg : TCPSegment) : TCPSender :=
  { s with
    segmentsOut := s.segmentsOut ++ [seg]
    trackingSegments := seg :: s.trackingSegments
    nextSeqno := s.nextSeqno + seg.lengthInSequenceSpace
    trackedCount := s.trackedCount + seg.lengthInSequenceSpace }

def synSegment (s : TCPSender) : TCPSegment :=
  { header := { seqno := s.isn, syn := true, ackno := wrap (s.nextSeqno + 1) s.isn } }

def sendSyn (s : TCPSender) : TCPSender := { s.emit s.synSegment with timer := 0 }

def readSize (s : TCPSender) : Nat :=
  min (if s.stream.bufferSize < s.nextAckno + s.remainWindowSize - s.nextSeqnoAbsolute then s.stream.bufferSize
      else s.nextAckno + s.remainWindowSize - s.nextSeqnoAbsolute)
    TCPConfig.maxPayloadSize

def readPayload (s : TCPSender) : Bytes × ByteStream :=
  if s.readSize ≠ 0 then s.stream.read s.readSize else ([], s.stream)

def nextSegment (s : TCPSender) : TCPSegment :=
  -- even with a payload, when the window is wider than it and the buffer is at eof
  let fin := decide (s.readSize < s.remainWindowSize) && s.readPayload.2.eof
  let seg : TCPSegment :=
    { header := { seqno := s.relativeSeqno, fin := fin, ack := fin }, payload := s.readPayload.1 }
  { seg with header := { seg.header with ackno := seg.header.seqno.advance seg.lengthInSequenceSpace } }

def canSend (s : TCPSender) : Bool :=
  decide (s.nextSeqnoAbsolute < s.nextAckno + s.remainWindowSize) &&
    (!s.stream.bufferEmpty || decide (s.currentState = .synAckedEof))

def sendNext (s : TCPSender) : TCPSender :=
  { { s with stream := s.readPayload.2 }.emit s.nextSegment with
    remainWindowSize := if s.remainWindowSize ≠ s.windowSize then 0 else s.remainWindowSize }

-- Every round reads a byte or sends the FIN.
def rounds (s : TCPSender) : Nat := s.stream.bufferSize + (s.stream.bytesWritten + 2 - s.nextSeqno)

def fillWindow (s : TCPSender) : TCPSender :=
  match s.currentState with
  | .closed => s.sendSyn
  | .synSent => s
  | _ => loop canSend sendNext s.rounds s

-- The tracked segments newer than the one that ends at `ackno`: all of them when there is none.
def remaining (s : TCPSender) (ackno : WrappingInt32) : List TCPSegment :=
  s.trackingSegments.takeWhile fun seg => seg.header.ackno != ackno

def matched (s : TCPSender) (ackno : WrappingInt32) : Bool :=
  s.trackingSegments.any fun seg => seg.header.ackno == ackno

def sequenceLength (segs : List TCPSegment) : Nat := (segs.map TCPSegment.lengthInSequenceSpace).sum

def noteWindow (s : TCPSender) (ackno : WrappingInt32) (windowSize : UInt16) : TCPSender :=
  let absolute := unwrap ackno s.isn s.nextAckno
  if s.nextAckno ≤ absolute ∧ absolute ≤ s.nextSeqno then { s with windowSize := windowSize.toNat } else s

def retire (s : TCPSender) (ackno : WrappingInt32) : TCPSender :=
  if s.matched ackno then
    { s with
      nextAckno := max s.nextAckno (unwrap ackno s.isn s.nextAckno)
      trackingSegments := s.remaining ackno
      consecutiveTimeOutCount := 0
      timer := 0
      retransmissionTimeout := s.initialRetransmissionTimeout }
  else s

-- The oldest tracked segment starts before `ackno`, by the raw values of the two numbers.
def startsBefore (s : TCPSender) (ackno : WrappingInt32) : Bool :=
  match s.trackingSegments.getLast? with
  | none => false
  | some oldest => decide (oldest.header.seqno.rawValue < ackno.rawValue)

def ackReceived (s : TCPSender) (ackno : WrappingInt32) (windowSize : UInt16) : TCPSender :=
  let remainTrackedLength := sequenceLength (s.remaining ackno)
  let s := (s.noteWindow ackno windowSize).retire ackno
  if s.trackedCount = remainTrackedLength ∧ s.startsBefore ackno = true then s
  else
    { s with
      trackedCount := remainTrackedLength
      remainWindowSize := if s.windowSize = 0 ∧ remainTrackedLength = 0 then 1 else s.windowSize }

def startTimer (s : TCPSender) (msSinceLastTick : Nat) : TCPSender :=
  if s.bytesInFlight ≠ 0 then { s with timer := add64 s.timer msSinceLastTick } else s

-- `back()` of an empty list, which the source does not guard against, sends nothing here.
def tick (s : TCPSender) (msSinceLastTick : Nat) : TCPSender :=
  let s := s.startTimer msSinceLastTick
  if s.retransmissionTimeout ≤ s.timer ∧ s.bytesInFlight ≠ 0 then
    { s with
      segmentsOut := s.segmentsOut ++ s.trackingSegments.getLast?.toList
      timer := 0
      retransmissionTimeout :=
        if s.windowSize ≠ 0 then add64 s.retransmissionTimeout s.retransmissionTimeout
        else s.retransmissionTimeout
      consecutiveTimeOutCount := (s.consecutiveTimeOutCount + 1) % 2 ^ 16 }
  else s

def sendEmptySegment (s : TCPSender) : TCPSender :=
  { s with
    segmentsOut := s.segmentsOut ++ [{ header := { seqno := s.relativeSeqno, ackno := s.relativeSeqno } }] }

end TCPSender

end Sponge
