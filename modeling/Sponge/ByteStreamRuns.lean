import Sponge.ByteStream
import Sponge.Shared.Runs

set_option autoImplicit false

namespace Sponge.ByteStream

open Shared

inductive Op
  | write (data : Bytes)
  | peekOutput (len : Nat)
  | popOutput (len : Nat)
  | read (len : Nat)
  | endInput
  | setError
  deriving DecidableEq

def step (s : ByteStream) : Op → ByteStream
  | .write data => (s.write data).2
  | .peekOutput _ => s
  | .popOutput len => s.popOutput len
  | .read len => (s.read len).2
  | .endInput => s.endInput
  | .setError => s.setError

-- What an operation takes in at the input side and gives out at the output side. `popOutput` returns nothing:
-- what it takes away is what was in front of the buffer.
def taken (s : ByteStream) : Op → Bytes
  | .write data => data.take (s.write data).1
  | _ => []

def given (s : ByteStream) : Op → Bytes
  | .popOutput len => s.buffer.take (s.bufferSize - (s.popOutput len).bufferSize)
  | .read len => (s.read len).1
  | _ => []

structure Trace where
  stream : ByteStream
  accepted : Bytes
  removed : Bytes
  deriving DecidableEq

namespace Trace

def new (capacity : Nat) : Trace where
  stream := .new capacity
  accepted := []
  removed := []

def step (t : Trace) (op : Op) : Trace where
  stream := t.stream.step op
  accepted := t.accepted ++ t.stream.taken op
  removed := t.removed ++ t.stream.given op

def run (capacity : Nat) (ops : List Op) : Trace := ops.foldl step (new capacity)

structure Fifo (capacity : Nat) (t : Trace) : Prop where
  bytes : t.accepted = t.removed ++ t.stream.buffer
  written : t.stream.bytesWritten = t.accepted.length
  room : t.stream.capacity = capacity

end Trace

theorem appendLength_eq_min (s : ByteStream) (data : Bytes) :
    s.appendLength data = min s.remainingCapacity data.length := by
  simp only [appendLength]
  split <;> omega

theorem step_capacity (s : ByteStream) (op : Op) : (s.step op).capacity = s.capacity := by
  cases op with
  | read len => simp [step, read_snd]
  | popOutput len => simp [step]
  | write data | peekOutput len | endInput | setError => rfl

theorem given_popOutput (s : ByteStream) (len : Nat) : s.given (.popOutput len) = s.peekOutput len := by
  simp only [given, bufferSize, popOutput_buffer, peekOutput]
  by_cases beyond : s.buffer.length < len
  · simp [beyond]
  · simp [beyond, Nat.sub_sub_self (Nat.not_lt.mp beyond)]

theorem given_append_step (s : ByteStream) (op : Op) :
    s.given op ++ (s.step op).buffer = s.buffer ++ s.taken op := by
  cases op with
  | popOutput len => simp [given_popOutput, step, taken, -popOutput_buffer, peek_append_pop]
  | read len => simp [given, read_fst, step, read_snd, taken, -popOutput_buffer, peek_append_pop]
  | write data | peekOutput len | endInput | setError => simp [given, step, taken, write, setError]

theorem step_bytesWritten (s : ByteStream) (op : Op) :
    (s.step op).bytesWritten = s.bytesWritten + (s.taken op).length := by
  cases op with
  | write data =>
      have accepted := (s.appendLength_le data).2
      simp [step, taken, bytesWritten, write, accepted]
  | read len => simp [step, taken, bytesWritten, read_snd]
  | popOutput len | peekOutput len | endInput | setError => simp [step, taken, bytesWritten, setError]

theorem Trace.Fifo.step {capacity : Nat} {t : Trace} (fifo : t.Fifo capacity) (op : Op) :
    (t.step op).Fifo capacity where
  bytes := by
    simp only [Trace.step, fifo.bytes, List.append_assoc, given_append_step]
  written := by
    simp only [Trace.step, step_bytesWritten, fifo.written, List.length_append]
  room := (step_capacity t.stream op).trans fifo.room

theorem Trace.run_fifo (capacity : Nat) (ops : List Op) : (run capacity ops).Fifo capacity := by
  induction ops using List.reverseRecOn with
  | nil => exact ⟨rfl, rfl, rfl⟩
  | append_singleton ops op ih =>
      simp only [run, List.foldl_concat]
      exact ih.step op

-- Each write takes the longest part of its data that fits, and asking for more than is there takes nothing.
theorem fifo_law (capacity : Nat) (ops : List Op) :
    (Trace.run capacity ops).accepted = (Trace.run capacity ops).removed ++ (Trace.run capacity ops).stream.buffer ∧
      (Trace.run capacity ops).stream.bufferSize ≤ capacity ∧
      (Trace.run capacity ops).stream.remainingCapacity =
        capacity - (Trace.run capacity ops).stream.bufferSize ∧
      (Trace.run capacity ops).stream.bytesWritten = (Trace.run capacity ops).accepted.length ∧
      (Trace.run capacity ops).stream.bytesRead = (Trace.run capacity ops).removed.length ∧
      (∀ data, ((Trace.run capacity ops).stream.write data).1 =
        min (Trace.run capacity ops).stream.remainingCapacity data.length) ∧
      ∀ len, (Trace.run capacity ops).stream.bufferSize < len →
        (Trace.run capacity ops).stream.peekOutput len = [] ∧
        ((Trace.run capacity ops).stream.read len).1 = [] ∧
        ∀ op ∈ [Op.peekOutput len, .popOutput len, .read len],
          (Trace.run capacity (ops ++ [op])).removed = (Trace.run capacity ops).removed ∧
          (Trace.run capacity (ops ++ [op])).stream.buffer = (Trace.run capacity ops).stream.buffer := by
  have fifo := Trace.run_fifo capacity ops
  have fits := (Trace.run capacity ops).stream.fits
  simp only [Trace.run, List.foldl_concat]
  simp only [Trace.run] at fifo fits
  generalize ops.foldl Trace.step (Trace.new capacity) = t at fifo fits
  have written := fifo.written
  rw [fifo.bytes, List.length_append] at written
  refine ⟨fifo.bytes, fifo.room ▸ fits, by rw [remainingCapacity, fifo.room], fifo.written, ?_, ?_, ?_⟩
  · simp [bytesRead, written, bufferSize]
  · exact fun data => t.stream.appendLength_eq_min data
  · intro len beyond
    refine ⟨by simp [peekOutput, beyond], by simp [read, beyond], ?_⟩
    have popped : t.stream.peekOutput len = [] := by simp [peekOutput, beyond]
    have kept : t.stream.given (.popOutput len) = [] := by rw [given_popOutput, popped]
    have returned : t.stream.given (.read len) = [] := by rw [given, read_fst, popped]
    have nothing : t.stream.given (.peekOutput len) = [] := rfl
    simp [Trace.step, kept, returned, nothing, step, read_snd, beyond]

def Late (s : ByteStream) : Op → Prop
  | .write data => s.inputEnded = true ∧ data ≠ [] ∧ s.bufferSize < s.capacity
  | _ => False

instance (s : ByteStream) : (op : Op) → Decidable (s.Late op)
  | .write _ => inferInstanceAs (Decidable (_ ∧ _))
  | .peekOutput _ | .popOutput _ | .read _ | .endInput | .setError => inferInstanceAs (Decidable False)

def run (capacity : Nat) (ops : List Op) : ByteStream := ops.foldl step (new capacity)

theorem step_inputEnded (s : ByteStream) (op : Op) :
    (s.step op).inputEnded = true ↔ s.inputEnded = true ∨ op = .endInput := by
  cases op <;> simp [step, inputEnded, read_snd, setError]

theorem run_inputEnded (capacity : Nat) (ops : List Op) :
    (run capacity ops).inputEnded = true ↔ Op.endInput ∈ ops := by
  induction ops using List.reverseRecOn with
  | nil => simp [run, inputEnded]
  | append_singleton ops op ih =>
      simp only [run, List.foldl_concat, step_inputEnded, List.mem_append, List.mem_singleton]
      exact or_congr ih eq_comm

theorem taken_eq_nil_iff (s : ByteStream) (op : Op) (ended : s.inputEnded = true) :
    s.taken op = [] ↔ ¬ s.Late op := by
  cases op with
  | write data =>
      have room : s.remainingCapacity = 0 ↔ ¬ s.bufferSize < s.capacity := by
        rw [remainingCapacity]
        omega
      simp only [taken, write, appendLength_eq_min, List.take_eq_nil_iff, Nat.min_eq_zero_iff, room,
        List.length_eq_zero_iff, Late, ended]
      tauto
  | peekOutput len | popOutput len | read len | endInput | setError => simp [taken, Late]

theorem step_eof (s : ByteStream) (op : Op) (ended : s.eof = true) (punctual : ¬ s.Late op) :
    (s.step op).eof = true := by
  simp only [eof, Bool.and_eq_true, bufferEmpty, List.isEmpty_iff] at ended ⊢
  have law := s.given_append_step op
  rw [ended.2, (s.taken_eq_nil_iff op ended.1).mpr punctual, List.append_nil, List.append_eq_nil_iff] at law
  exact ⟨(s.step_inputEnded op).mpr (Or.inl ended.1), law.2⟩

theorem ended_stands {s : ByteStream} {ops : List Op} (ended : s.inputEnded = true)
    (punctual : AllAllowed step (fun s op => ¬ s.Late op) s ops) :
    (ops.foldl step s).bytesWritten = s.bytesWritten ∧ (s.eof = true → (ops.foldl step s).eof = true) := by
  induction ops generalizing s with
  | nil => simp
  | cons op ops ih =>
      obtain ⟨written, eof⟩ := ih ((s.step_inputEnded op).mpr (Or.inl ended)) punctual.2
      have nothing := (s.taken_eq_nil_iff op ended).mpr punctual.1
      simp only [List.foldl_cons, written, step_bytesWritten, nothing, List.length_nil, Nat.add_zero, true_and]
      exact fun done => eof (s.step_eof op done punctual.1)

-- Nothing in the stream turns a late write away: it stays finite exactly when no such write is made.
theorem finite_iff_no_late_write (capacity : Nat) (ops : List Op) :
    (∀ front back, ops = front ++ back → Op.endInput ∈ front →
      (∀ data rest, back = .write data :: rest → ((run capacity front).write data).1 = 0) ∧
      (run capacity ops).bytesWritten = (run capacity front).bytesWritten ∧
      ((run capacity front).eof = true → (run capacity ops).eof = true)) ↔
    AllAllowed step (fun s op => ¬ s.Late op) (new capacity) ops := by
  rw [allAllowed_iff]
  constructor
  · intro finite front op back split late
    have ended : (run capacity front).inputEnded = true := by
      cases op with
      | write data => exact late.1
      | _ => exact late.elim
    refine ((run capacity front).taken_eq_nil_iff op ended).mp ?_ late
    cases op with
    | write data =>
        have refused := (finite front _ split ((run_inputEnded capacity front).mp ended)).1 data back rfl
        simp [taken, refused]
    | _ => rfl
  · rintro punctual front back rfl called
    have ended := (run_inputEnded capacity front).mpr called
    have later : AllAllowed step (fun s op => ¬ s.Late op) (run capacity front) back :=
      (allAllowed_append.mp (allAllowed_iff.mpr punctual)).2
    have stands := ended_stands ended later
    refine ⟨?_, by simpa [run] using stands⟩
    rintro data rest rfl
    have nothing := ((run capacity front).taken_eq_nil_iff _ ended).mpr later.1
    have written := (run capacity front).step_bytesWritten (.write data)
    rw [nothing] at written
    simpa [step, write, bytesWritten] using written

theorem late_write_accepted :
    ((run 2 [.endInput]).write [7]).1 = 1 ∧ (run 2 [.endInput]).eof = true ∧
      (run 2 [.endInput, .write [7]]).bytesWritten = 1 ∧ (run 2 [.endInput, .write [7]]).eof = false := by
  decide

end Sponge.ByteStream
