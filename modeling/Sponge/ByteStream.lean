import Mathlib.Data.List.Infix
import Mathlib.Tactic.Common

set_option autoImplicit false

namespace Sponge

abbrev Bytes := List UInt8

-- `fits` and `accounted` are what keep the two unsigned subtractions of the source from wrapping.
structure ByteStream where
  buffer : Bytes
  capacity : Nat
  isEnded : Bool
  writtenLength : Nat
  hasError : Bool
  fits : buffer.length ≤ capacity
  accounted : buffer.length ≤ writtenLength
  deriving DecidableEq

namespace ByteStream

def new (capacity : Nat) : ByteStream where
  buffer := []
  capacity := capacity
  isEnded := false
  writtenLength := 0
  hasError := false
  fits := Nat.zero_le _
  accounted := Nat.le_refl _

def bufferSize (s : ByteStream) : Nat := s.buffer.length

def bufferEmpty (s : ByteStream) : Bool := s.buffer.isEmpty

def inputEnded (s : ByteStream) : Bool := s.isEnded

def eof (s : ByteStream) : Bool := s.inputEnded && s.bufferEmpty

def bytesWritten (s : ByteStream) : Nat := s.writtenLength

def bytesRead (s : ByteStream) : Nat := s.bytesWritten - s.bufferSize

def remainingCapacity (s : ByteStream) : Nat := s.capacity - s.bufferSize

def setError (s : ByteStream) : ByteStream := { s with hasError := true }

def endInput (s : ByteStream) : ByteStream := { s with isEnded := true }

def appendLength (s : ByteStream) (data : Bytes) : Nat :=
  if s.remainingCapacity ≤ data.length then s.remainingCapacity else data.length

theorem appendLength_le (s : ByteStream) (data : Bytes) :
    s.appendLength data ≤ s.remainingCapacity ∧ s.appendLength data ≤ data.length := by
  unfold appendLength
  split <;> omega

def append (s : ByteStream) (data : Bytes) : ByteStream where
  buffer := s.buffer ++ data.take (s.appendLength data)
  capacity := s.capacity
  isEnded := s.isEnded
  writtenLength := s.writtenLength + s.appendLength data
  hasError := s.hasError
  fits := by
    have fits := s.fits
    have room := (s.appendLength_le data).1
    simp only [remainingCapacity, bufferSize] at room
    simp only [List.length_append, List.length_take]
    omega
  accounted := by
    have accounted := s.accounted
    simp only [List.length_append, List.length_take]
    omega

def write (s : ByteStream) (data : Bytes) : Nat × ByteStream := (s.appendLength data, s.append data)

def peekOutput (s : ByteStream) (len : Nat) : Bytes :=
  if s.bufferSize < len then [] else s.buffer.take len

def popOutput (s : ByteStream) (len : Nat) : ByteStream :=
  if s.bufferSize < len then s.setError
  else
    { s with
      buffer := s.buffer.drop len
      fits := by
        have fits := s.fits
        simp only [List.length_drop]
        omega
      accounted := by
        have accounted := s.accounted
        simp only [List.length_drop]
        omega }

def read (s : ByteStream) (len : Nat) : Bytes × ByteStream :=
  if s.bufferSize < len then ([], s.setError) else (s.peekOutput len, s.popOutput len)

theorem append_of_full {s : ByteStream} {data : Bytes} (full : s.appendLength data = 0) : s.append data = s := by
  simp [append, full]

section Accessors

variable (s : ByteStream) (data : Bytes) (len : Nat)

@[simp] theorem new_buffer (capacity : Nat) : (new capacity).buffer = [] := rfl
@[simp] theorem new_capacity (capacity : Nat) : (new capacity).capacity = capacity := rfl
@[simp] theorem new_isEnded (capacity : Nat) : (new capacity).isEnded = false := rfl
@[simp] theorem new_writtenLength (capacity : Nat) : (new capacity).writtenLength = 0 := rfl

@[simp] theorem endInput_buffer : s.endInput.buffer = s.buffer := rfl
@[simp] theorem endInput_capacity : s.endInput.capacity = s.capacity := rfl
@[simp] theorem endInput_isEnded : s.endInput.isEnded = true := rfl
@[simp] theorem endInput_writtenLength : s.endInput.writtenLength = s.writtenLength := rfl

@[simp] theorem write_snd : (s.write data).2 = s.append data := rfl

@[simp] theorem append_buffer : (s.append data).buffer = s.buffer ++ data.take (s.appendLength data) := rfl
@[simp] theorem append_capacity : (s.append data).capacity = s.capacity := rfl
@[simp] theorem append_isEnded : (s.append data).isEnded = s.isEnded := rfl
@[simp] theorem append_writtenLength :
    (s.append data).writtenLength = s.writtenLength + s.appendLength data := rfl

@[simp] theorem popOutput_buffer :
    (s.popOutput len).buffer = if s.bufferSize < len then s.buffer else s.buffer.drop len := by
  unfold popOutput
  split <;> rfl

@[simp] theorem popOutput_capacity : (s.popOutput len).capacity = s.capacity := by
  unfold popOutput
  split <;> rfl

@[simp] theorem popOutput_isEnded : (s.popOutput len).isEnded = s.isEnded := by
  unfold popOutput
  split <;> rfl

@[simp] theorem popOutput_writtenLength : (s.popOutput len).writtenLength = s.writtenLength := by
  unfold popOutput
  split <;> rfl

theorem popOutput_hasError (kept : s.hasError = true) : (s.popOutput len).hasError = true := by
  unfold popOutput
  split
  next => rfl
  next => exact kept

theorem read_snd : (s.read len).2 = s.popOutput len := by
  unfold read popOutput
  split <;> rfl

theorem read_fst : (s.read len).1 = s.peekOutput len := by
  unfold read peekOutput
  split <;> rfl

end Accessors

theorem appendLength_of_room (s : ByteStream) (data : Bytes) (room : data.length ≤ s.remainingCapacity) :
    s.appendLength data = data.length := by
  unfold appendLength
  split <;> omega

theorem append_of_room (s : ByteStream) (data : Bytes) (room : data.length ≤ s.remainingCapacity) :
    (s.append data).buffer = s.buffer ++ data ∧
      (s.append data).writtenLength = s.writtenLength + data.length ∧
      (s.append data).remainingCapacity = s.remainingCapacity - data.length := by
  simp only [append_buffer, append_writtenLength, remainingCapacity, bufferSize, append_capacity,
    s.appendLength_of_room data room, List.take_length, List.length_append]
  refine ⟨trivial, trivial, ?_⟩
  omega

@[simp] theorem append_bytesRead (s : ByteStream) (data : Bytes) : (s.append data).bytesRead = s.bytesRead := by
  have accepted := (s.appendLength_le data).2
  simp only [bytesRead, bytesWritten, bufferSize, append_writtenLength, append_buffer, List.length_append,
    List.length_take, Nat.min_eq_left accepted]
  omega

@[simp] theorem endInput_bytesRead (s : ByteStream) : s.endInput.bytesRead = s.bytesRead := rfl

theorem buffer_of_capacity_zero (s : ByteStream) (none : s.capacity = 0) : s.buffer = [] := by
  have fits := s.fits
  rwa [none, Nat.le_zero, List.length_eq_zero_iff] at fits

theorem peek_append_pop (s : ByteStream) (len : Nat) :
    s.peekOutput len ++ (s.popOutput len).buffer = s.buffer := by
  rw [popOutput_buffer]
  unfold peekOutput
  split <;> simp

theorem bytesRead_popOutput (s : ByteStream) (len : Nat) :
    (s.popOutput len).bytesRead = s.bytesRead + (s.peekOutput len).length := by
  have accounted := s.accounted
  have same := congrArg List.length (s.peek_append_pop len)
  simp only [List.length_append] at same
  simp only [bytesRead, bytesWritten, bufferSize, popOutput_writtenLength]
  omega

inductive Fed (s : ByteStream) : ByteStream → Prop
  | same : Fed s s
  | append {t : ByteStream} (before : Fed s t) (data : Bytes) : Fed s (t.append data)
  | endInput {t : ByteStream} (before : Fed s t) : Fed s t.endInput

namespace Fed

variable {s t : ByteStream}

theorem capacity (fed : Fed s t) : t.capacity = s.capacity := by
  induction fed with
  | same => rfl
  | append _ data ih => exact ih
  | endInput _ ih => exact ih

theorem bytesRead (fed : Fed s t) : t.bytesRead = s.bytesRead := by
  induction fed with
  | same => rfl
  | append _ data ih => rw [append_bytesRead, ih]
  | endInput _ ih => exact ih

theorem hasError (fed : Fed s t) : t.hasError = s.hasError := by
  induction fed with
  | same => rfl
  | append _ data ih => exact ih
  | endInput _ ih => exact ih

theorem isEnded (fed : Fed s t) (ended : s.isEnded = true) : t.isEnded = true := by
  induction fed with
  | same => exact ended
  | append _ data ih => exact ih
  | endInput _ ih => rfl

theorem writtenLength_le (fed : Fed s t) : s.writtenLength ≤ t.writtenLength := by
  induction fed with
  | same => exact le_rfl
  | append _ data ih => exact ih.trans (Nat.le_add_right ..)
  | endInput _ ih => exact ih

theorem writtenLength (fed : Fed s t) (full : s.capacity = 0) : t.writtenLength = s.writtenLength := by
  induction fed with
  | same => rfl
  | @append t before data ih =>
      have room := (t.appendLength_le data).1
      rw [remainingCapacity, before.capacity, full] at room
      rw [append_writtenLength, ih]
      omega
  | endInput _ ih => exact ih

end Fed

end ByteStream

end Sponge
