import Sponge.StreamReassembler
import Sponge.TCPSegment

set_option autoImplicit false

namespace Sponge

open Shared

structure TCPReceiver where
  reassembler : StreamReassembler
  capacity : Nat
  haveSYN : Bool
  haveFIN : Bool
  icn : WrappingInt32
  deriving DecidableEq

namespace TCPReceiver

def new (capacity : Nat) : TCPReceiver where
  reassembler := .new capacity
  capacity := capacity
  haveSYN := false
  haveFIN := false
  icn := ⟨0⟩

def streamOut (r : TCPReceiver) : ByteStream := r.reassembler.streamOut

def unassembledBytes (r : TCPReceiver) : Nat := r.reassembler.unassembledBytes

def endStream (r : TCPReceiver) : TCPReceiver :=
  { r with reassembler := { r.reassembler with output := r.reassembler.output.endInput } }

-- What follows the two early returns: `seqno` is past the SYN when the segment carried it.
def accept (r : TCPReceiver) (seg : TCPSegment) (seqno : WrappingInt32) : TCPReceiver :=
  let checkpoint := r.streamOut.bytesWritten
  let r := { r with
    reassembler := r.reassembler.pushSubstring seg.payload
      (sub64 (unwrap seqno r.icn checkpoint) 1) seg.header.fin }
  let r := if seg.header.fin then { r with haveFIN := true } else r
  if r.haveFIN && r.reassembler.empty then r.endStream else r

def segmentReceived (r : TCPReceiver) (seg : TCPSegment) : TCPReceiver :=
  if r.haveSYN then
    -- ignore overlap syn
    if seg.header.syn then r else r.accept seg seg.header.seqno
  else if seg.header.syn then
    let r := { r with haveSYN := true, icn := seg.header.seqno }
    r.accept seg (wrap 1 r.icn)
  else r

def acceptExcept (r : TCPReceiver) (seg : TCPSegment) (seqno : WrappingInt32) : TCPReceiver × Except Exception Unit :=
  let checkpoint := r.streamOut.bytesWritten
  match r.reassembler.pushSubstringExcept seg.payload (sub64 (unwrap seqno r.icn checkpoint) 1) seg.header.fin with
  | (reassembler, .error thrown) => ({ r with reassembler }, .error thrown)
  | (reassembler, .ok ()) =>
      let r := { r with reassembler }
      let r := if seg.header.fin then { r with haveFIN := true } else r
      (if r.haveFIN && r.reassembler.empty then r.endStream else r, .ok ())

def segmentReceivedExcept (r : TCPReceiver) (seg : TCPSegment) : TCPReceiver × Except Exception Unit :=
  if r.haveSYN then
    if seg.header.syn then (r, .ok ()) else r.acceptExcept seg seg.header.seqno
  else if seg.header.syn then
    let r := { r with haveSYN := true, icn := seg.header.seqno }
    r.acceptExcept seg (wrap 1 r.icn)
  else (r, .ok ())

def ackno (r : TCPReceiver) : Option WrappingInt32 :=
  let lengthWoFlag := r.streamOut.bytesWritten
  if r.haveSYN then
    if r.haveFIN && r.streamOut.inputEnded then some (wrap (lengthWoFlag + 2) r.icn)
    else some (wrap (lengthWoFlag + 1) r.icn)
  else none

def windowSize (r : TCPReceiver) : Nat :=
  r.capacity - (r.streamOut.bytesWritten - r.streamOut.bytesRead)

def popOutput (r : TCPReceiver) (len : Nat) : TCPReceiver :=
  { r with reassembler := r.reassembler.popOutput len }

inductive Op
  | segment (seg : TCPSegment)
  | read (len : Nat)
  | popOutput (len : Nat)
  deriving DecidableEq

def step (r : TCPReceiver) : Op → TCPReceiver
  | .segment seg => r.segmentReceived seg
  | .read len =>
      { r with reassembler := { r.reassembler with output := (r.reassembler.output.read len).2 } }
  | .popOutput len => r.popOutput len

@[simp] theorem step_read (r : TCPReceiver) (len : Nat) : r.step (.read len) = r.popOutput len := by
  simp [step, popOutput, StreamReassembler.popOutput, ByteStream.read_snd]

def position (r : TCPReceiver) (seg : TCPSegment) : Nat :=
  if r.haveSYN then unwrap seg.header.seqno r.icn r.streamOut.bytesWritten
  else unwrap (wrap 1 seg.header.seqno) seg.header.seqno r.streamOut.bytesWritten

theorem segmentReceived_ignored {r : TCPReceiver} {seg : TCPSegment} (same : seg.header.syn = r.haveSYN) :
    r.segmentReceived seg = r := by
  cases open_ : r.haveSYN <;> simp [segmentReceived, same, open_]

def opened (r : TCPReceiver) (seg : TCPSegment) : TCPReceiver :=
  if r.haveSYN then r else { r with haveSYN := true, icn := seg.header.seqno }

def pushed (r : TCPReceiver) (seg : TCPSegment) : StreamReassembler :=
  r.reassembler.pushSubstring seg.payload (sub64 (r.position seg) 1) seg.header.fin

theorem segmentReceived_accepted {r : TCPReceiver} {seg : TCPSegment} (differ : seg.header.syn ≠ r.haveSYN) :
    r.segmentReceived seg =
      { r.opened seg with
        haveFIN := r.haveFIN || seg.header.fin
        reassembler :=
          if (r.haveFIN || seg.header.fin) && (r.pushed seg).empty then
            { r.pushed seg with output := (r.pushed seg).output.endInput }
          else r.pushed seg } := by
  cases open_ : r.haveSYN <;> cases syn : seg.header.syn <;> cases fin : seg.header.fin <;>
    simp_all [segmentReceived, accept, opened, pushed, position, endStream, streamOut]
  all_goals split_ifs <;> simp_all

theorem acceptExcept_cases (r : TCPReceiver) (seg : TCPSegment) (seqno : WrappingInt32) :
    (∃ reassembler, r.acceptExcept seg seqno = ({ r with reassembler }, .error StreamReassembler.substrError) ∧
        reassembler.output = r.reassembler.output ∧ reassembler.capacity = r.reassembler.capacity) ∨
      r.acceptExcept seg seqno = (r.accept seg seqno, .ok ()) := by
  unfold acceptExcept accept
  dsimp only
  rcases r.reassembler.pushSubstringExcept_cases seg.payload
    (sub64 (unwrap seqno r.icn r.streamOut.bytesWritten) 1) seg.header.fin with ⟨list, size, thrown⟩ | same
  · rw [thrown]
    exact .inl ⟨_, rfl, by simp, by simp⟩
  · rw [same]
    exact .inr rfl

-- A segment whose payload throws has opened the stream at most.
theorem segmentReceivedExcept_cases (r : TCPReceiver) (seg : TCPSegment) :
    (∃ r', r.segmentReceivedExcept seg = (r', .error StreamReassembler.substrError) ∧ r'.streamOut = r.streamOut ∧
        r'.reassembler.capacity = r.reassembler.capacity ∧ r'.haveSYN = true) ∨
      r.segmentReceivedExcept seg = (r.segmentReceived seg, .ok ()) := by
  unfold segmentReceivedExcept segmentReceived
  split_ifs with opened
  · exact .inr rfl
  · rcases r.acceptExcept_cases seg seg.header.seqno with ⟨reassembler, thrown, output, capacity⟩ | same
    · exact .inl ⟨_, thrown, output, capacity, opened⟩
    · exact .inr same
  · dsimp only
    rcases ({ r with haveSYN := true, icn := seg.header.seqno } : TCPReceiver).acceptExcept_cases seg
      (wrap 1 seg.header.seqno) with ⟨reassembler, thrown, output, capacity⟩ | same
    · exact .inl ⟨_, thrown, output, capacity, rfl⟩
    · exact .inr same
  · exact .inr rfl

theorem ackno_isSome (r : TCPReceiver) : r.ackno.isSome = r.haveSYN := by
  simp only [ackno]
  split_ifs <;> simp_all

theorem ackno_of_haveSYN {r : TCPReceiver} (opened : r.haveSYN = true) : ∃ ackno, r.ackno = some ackno :=
  Option.isSome_iff_exists.mp (r.ackno_isSome.trans opened)

theorem segmentReceived_fed (r : TCPReceiver) (seg : TCPSegment) :
    r.streamOut.Fed (r.segmentReceived seg).streamOut := by
  by_cases same : seg.header.syn = r.haveSYN
  · rw [segmentReceived_ignored same]
    exact .same
  · have pushed : r.streamOut.Fed (r.pushed seg).output := StreamReassembler.pushSubstring_fed ..
    rw [segmentReceived_accepted same, streamOut, StreamReassembler.streamOut]
    split
    next => exact pushed.endInput
    next => exact pushed

theorem segmentReceived_haveSYN (r : TCPReceiver) (seg : TCPSegment) (opened : r.haveSYN = true) :
    (r.segmentReceived seg).haveSYN = true := by
  by_cases same : seg.header.syn = r.haveSYN
  · rwa [segmentReceived_ignored same]
  · simp [segmentReceived_accepted same, TCPReceiver.opened, opened]

end TCPReceiver

end Sponge
