import Mathlib.Algebra.BigOperators.Group.List.Basic
import Sponge.BufferStorage
import Sponge.Shared.Loop

set_option autoImplicit false

namespace Sponge

open Shared

structure FileDescriptor where
  eof : Bool := false
  closed : Bool := false
  readCount : UInt32 := 0
  writeCount : UInt32 := 0
  received : Bytes := []
  sent : Bytes := []
  deriving DecidableEq

namespace FileDescriptor

def registerRead (self : FileDescriptor) : FileDescriptor := { self with readCount := self.readCount + 1 }

def registerWrite (self : FileDescriptor) : FileDescriptor := { self with writeCount := self.writeCount + 1 }

-- The kernel's answers to the system calls are inputs; `none` and `false` are the -1 for which `SystemCall` throws.
def close (self : FileDescriptor) (succeeds : Bool) : FileDescriptor × Except Exception Unit :=
  if succeeds then
    ({ self with eof := true, closed := true }, .ok ())
  else
    (self, .error (.runtimeError "close"))

def shutdownWrite (self : FileDescriptor) (succeeds : Bool) : FileDescriptor × Except Exception Unit :=
  if succeeds then
    (self.registerWrite, .ok ())
  else
    (self, .error (.runtimeError "shutdown"))

def read (self : FileDescriptor) (limit : Nat) (answer : Nat → Option Bytes) :
    FileDescriptor × Except Exception Bytes :=
  let sizeToRead := min (1024 * 1024) limit
  match answer sizeToRead with
  | none => (self, .error (.runtimeError "read"))
  | some data =>
      let self := if 0 < limit ∧ data.length = 0 then { self with eof := true } else self
      if sizeToRead < data.length then
        (self, .error (.runtimeError "read() read more than requested"))
      else
        ({ self.registerRead with received := self.received ++ data }, .ok data)

structure Writing where
  fd : FileDescriptor
  buffer : BufferViewList
  totalBytesWritten : Nat := 0
  calls : Nat := 0
  result : Except Exception Unit := .ok ()

def writeOnce (writev : Nat → Option Nat) (w : Writing) : Writing :=
  let called := { w with calls := w.calls + 1 }
  match writev w.calls with
  | none => { called with result := .error (.runtimeError "writev") }
  | some bytesWritten =>
      if bytesWritten = 0 ∧ w.buffer.size ≠ 0 then
        { called with result := .error (.runtimeError "write returned 0 given non-empty input buffer") }
      else if w.buffer.size < bytesWritten then
        { called with result := .error (.runtimeError "write wrote more than length of input buffer") }
      else
        let (buffer, result) := w.buffer.removePrefix bytesWritten
        { called with
          fd := { w.fd.registerWrite with sent := w.fd.sent ++ w.buffer.concatenate.take bytesWritten }
          buffer := buffer
          totalBytesWritten := w.totalBytesWritten + bytesWritten
          result := result }

def writesOn (writeAll : Bool) (w : Writing) : Bool := w.result.isOk && writeAll && w.buffer.size != 0

/-- Every round but the last leaves less to write, so the buffer's size bounds the rounds. -/
def write (self : FileDescriptor) (buffer : BufferViewList) (writeAll : Bool) (writev : Nat → Option Nat) :
    FileDescriptor × Except Exception Nat :=
  let first := writeOnce writev { fd := self, buffer }
  let last := loop (writesOn writeAll) (writeOnce writev) buffer.size first
  (last.fd, last.result.map fun _ => last.totalBytesWritten)

theorem count_ne_succ (count : UInt32) : count ≠ count + 1 ∧ count ≠ count + 1 + 1 := by
  constructor <;> intro same <;> have numbers := congrArg UInt32.toNat same <;>
    simp only [UInt32.toNat_add] at numbers <;> have bound := count.toNat_lt <;> simp at numbers <;> omega

section Finish

variable (self : FileDescriptor) (succeeds : Bool)

theorem close_failed (failed : (self.close succeeds).2.isOk = false) : (self.close succeeds).1 = self := by
  cases succeeds with
  | true => cases failed
  | false => rfl

theorem shutdownWrite_failed (failed : (self.shutdownWrite succeeds).2.isOk = false) :
    (self.shutdownWrite succeeds).1 = self := by
  cases succeeds with
  | true => cases failed
  | false => rfl

theorem close_sent : (self.close succeeds).1.sent = self.sent := by
  cases succeeds <;> rfl

theorem shutdownWrite_sent : (self.shutdownWrite succeeds).1.sent = self.sent := by
  cases succeeds <;> rfl

variable {self succeeds} {after : FileDescriptor}

theorem close_ok (called : self.close succeeds = (after, .ok ())) :
    after = { self with eof := true, closed := true } := by
  cases succeeds <;> cases called
  rfl

theorem shutdownWrite_ok (called : self.shutdownWrite succeeds = (after, .ok ())) : after = self.registerWrite := by
  cases succeeds <;> cases called
  rfl

end Finish

section Read

variable (self : FileDescriptor) (limit : Nat) (answer : Nat → Option Bytes)

structure Reads (before : FileDescriptor) (limit : Nat) (after : FileDescriptor) (data : Bytes) : Prop where
  received : after.received = before.received ++ data
  within : data.length ≤ limit
  sent : after.sent = before.sent

theorem read_cases :
    (∃ data, (self.read limit answer).2 = .ok data ∧ Reads self limit (self.read limit answer).1 data) ∨
      (self.read limit answer).2.isOk = false ∧ Reads self limit (self.read limit answer).1 [] := by
  unfold read
  dsimp only
  cases answer (min (1024 * 1024) limit) with
  | none => exact .inr ⟨rfl, (List.append_nil _).symm, Nat.zero_le _, rfl⟩
  | some data =>
      dsimp only
      split
      next =>
        refine .inr ⟨rfl, ?_⟩
        split <;> exact ⟨(List.append_nil _).symm, Nat.zero_le _, rfl⟩
      next less =>
        refine .inl ⟨data, rfl, ?_⟩
        have within : data.length ≤ limit := by omega
        split <;> exact ⟨rfl, within, rfl⟩

def ReadsHonestly (answer : Nat → Option Bytes) : Prop := ∀ size, ∃ data, answer size = some data ∧ data.length ≤ size

theorem read_ok (honest : ReadsHonestly answer) :
    (self.read limit answer).2.isOk = true ∧ (self.read limit answer).1.readCount = self.readCount + 1 := by
  obtain ⟨data, answered, within⟩ := honest (min (1024 * 1024) limit)
  unfold read
  dsimp only
  rw [answered]
  dsimp only
  rw [if_neg (Nat.not_lt.mpr within)]
  refine ⟨rfl, ?_⟩
  split <;> rfl

end Read

def taken (writev : Nat → Option Nat) (k : Nat) : Nat := ((List.range k).map fun i => (writev i).getD 0).sum

def Fits (writev : Nat → Option Nat) (size k : Nat) : Prop :=
  ∃ n, writev k = some n ∧ (n = 0 → taken writev k = size) ∧ taken writev k + n ≤ size

-- The kernel goes on taking until nothing is left. An empty buffer is offered to it once.
def TakesAll (writev : Nat → Option Nat) (size : Nat) : Prop :=
  Fits writev size 0 ∧ ∀ k, taken writev k < size → Fits writev size k

section Write

variable {writev : Nat → Option Nat}

theorem taken_succ (writev : Nat → Option Nat) (k : Nat) :
    taken writev (k + 1) = taken writev k + (writev k).getD 0 := by
  simp [taken, List.range_succ]

theorem taken_mono (writev : Nat → Option Nat) : Monotone (taken writev) :=
  monotone_nat_of_le_succ fun k => by rw [taken_succ]; omega

structure Wrote (writev : Nat → Option Nat) (start : FileDescriptor) (content : Bytes) (k : Nat) (w : Writing) :
    Prop where
  calls : w.calls = k
  total : w.totalBytesWritten = taken writev k
  sent : w.fd.sent = start.sent ++ content.take (taken writev k)
  left : w.buffer.concatenate = content.drop (taken writev k)
  within : taken writev k ≤ content.length
  fitted : ∀ j < k, Fits writev content.length j
  succeeded : w.result = .ok ()

structure Threw (writev : Nat → Option Nat) (start : FileDescriptor) (content : Bytes) (k : Nat) (w : Writing) :
    Prop where
  sent : w.fd.sent = start.sent ++ content.take (taken writev k)
  offered : k = 0 ∨ taken writev k < content.length
  fitted : ∀ j < k, Fits writev content.length j
  unfit : ¬Fits writev content.length k
  failed : w.result.isOk = false

variable {start : FileDescriptor} {content : Bytes} {k : Nat} {w : Writing}

theorem Wrote.size (wrote : Wrote writev start content k w) : w.buffer.size = content.length - taken writev k := by
  rw [BufferViewList.size_eq, wrote.left, List.length_drop]

theorem wrote_start (start : FileDescriptor) (buffer : BufferViewList) :
    Wrote writev start buffer.concatenate 0 { fd := start, buffer } where
  calls := rfl
  total := rfl
  sent := (List.append_nil _).symm
  left := rfl
  within := Nat.zero_le _
  fitted := fun _ early => absurd early (Nat.not_lt_zero _)
  succeeded := rfl

theorem removePrefix_within (buffer : BufferViewList) {n : Nat} (fits : n ≤ buffer.size) :
    (buffer.removePrefix n).2 = .ok () ∧ (buffer.removePrefix n).1.concatenate = buffer.concatenate.drop n := by
  have content (views : List Bytes) : views.flatten = views.flatMap id := List.flatMap_id.symm
  rw [BufferViewList.size_eq, BufferViewList.concatenate, content] at fits
  obtain ⟨views, removed, dropped⟩ :
      ∃ views, removeFront id BufferViewList.removeViewPrefix BufferViewList.outOfRange buffer.views n =
        (views, .ok ()) ∧ _ := removeFront_within BufferViewList.cuts_removeViewPrefix fits
  simp only [BufferViewList.removePrefix, BufferViewList.concatenate, content, removed, dropped, and_self]

theorem Wrote.fits (wrote : Wrote writev start content k w) (fits : Fits writev content.length k) :
    Wrote writev start content (k + 1) (writeOnce writev w) := by
  obtain ⟨n, answer, stops, room⟩ := fits
  have size := wrote.size
  have within := wrote.within
  have next : taken writev (k + 1) = taken writev k + n := by rw [taken_succ, answer, Option.getD_some]
  have removed := removePrefix_within w.buffer (n := n) (by omega)
  have written : writeOnce writev w =
      { fd := { w.fd.registerWrite with sent := w.fd.sent ++ w.buffer.concatenate.take n }
        buffer := (w.buffer.removePrefix n).1
        totalBytesWritten := w.totalBytesWritten + n
        calls := w.calls + 1
        result := (w.buffer.removePrefix n).2 } := by
    simp only [writeOnce, wrote.calls, answer]
    rw [if_neg (by omega), if_neg (by omega)]
  rw [written]
  refine ⟨by rw [wrote.calls], by rw [wrote.total, next], ?_, ?_, by omega, ?_, removed.1⟩
  · change w.fd.sent ++ w.buffer.concatenate.take n = _
    rw [wrote.sent, wrote.left, next, List.take_add, List.append_assoc]
  · rw [removed.2, wrote.left, List.drop_drop, next]
  · intro j early
    rcases Nat.lt_succ_iff_lt_or_eq.mp early with before | rfl
    · exact wrote.fitted j before
    · exact ⟨n, answer, stops, room⟩

theorem Wrote.unfit (wrote : Wrote writev start content k w) (unfit : ¬Fits writev content.length k)
    (offered : k = 0 ∨ taken writev k < content.length) : Threw writev start content k (writeOnce writev w) := by
  have size := wrote.size
  have within := wrote.within
  have same : (writeOnce writev w).fd = w.fd ∧ (writeOnce writev w).result.isOk = false := by
    simp only [writeOnce, wrote.calls]
    cases answer : writev k with
    | none => exact ⟨rfl, rfl⟩
    | some n =>
        dsimp only
        by_cases nothing : n = 0 ∧ w.buffer.size ≠ 0
        · rw [if_pos nothing]
          exact ⟨rfl, rfl⟩
        · by_cases more : w.buffer.size < n
          · rw [if_neg nothing, if_pos more]
            exact ⟨rfl, rfl⟩
          · exact absurd ⟨n, answer, by omega, by omega⟩ unfit
  exact ⟨by rw [same.1, wrote.sent], offered, wrote.fitted, unfit, same.2⟩

theorem Wrote.next (wrote : Wrote writev start content k w) (offered : k = 0 ∨ taken writev k < content.length) :
    Wrote writev start content (k + 1) (writeOnce writev w) ∨ Threw writev start content k (writeOnce writev w) := by
  by_cases fits : Fits writev content.length k
  · exact .inl (wrote.fits fits)
  · exact .inr (wrote.unfit fits offered)

inductive Written (writev : Nat → Option Nat) (start : FileDescriptor) (content : Bytes) (w : Writing) : Prop
  | wrote (k : Nat) (wrote : Wrote writev start content (k + 1) w)
  | threw (k : Nat) (threw : Threw writev start content k w)

theorem written_first (start : FileDescriptor) (buffer : BufferViewList) :
    Written writev start buffer.concatenate (writeOnce writev { fd := start, buffer }) := by
  rcases (wrote_start start buffer).next (.inl rfl) with wrote | threw
  · exact .wrote 0 wrote
  · exact .threw 0 threw

def rank (w : Writing) : Nat := if w.result.isOk then w.buffer.size else 0

theorem Written.round {writeAll : Bool} (written : Written writev start content w)
    (running : writesOn writeAll w = true) :
    Written writev start content (writeOnce writev w) ∧ rank (writeOnce writev w) < rank w := by
  simp only [writesOn, Bool.and_eq_true, bne_iff_ne] at running
  cases written with
  | threw k threw => exact absurd running.1.1 (by rw [threw.failed]; decide)
  | wrote k wrote =>
      have size := wrote.size
      have before : rank w = w.buffer.size := if_pos running.1.1
      rcases wrote.next (.inr (by omega)) with more | threw
      · have smaller := more.size
        have within := more.within
        have after : rank (writeOnce writev w) = (writeOnce writev w).buffer.size := by
          rw [rank, more.succeeded]
          rfl
        have grown : taken writev (k + 1) < taken writev (k + 1 + 1) := by
          obtain ⟨n, answer, stops, _⟩ := more.fitted (k + 1) (Nat.lt_succ_self _)
          rw [taken_succ writev (k + 1), answer, Option.getD_some]
          omega
        exact ⟨.wrote _ more, by omega⟩
      · have after : rank (writeOnce writev w) = 0 := by
          rw [rank, threw.failed]
          rfl
        exact ⟨.threw _ threw, by omega⟩

theorem Written.rank_le (written : Written writev start content w) : rank w ≤ content.length := by
  unfold rank
  split
  · cases written with
    | wrote k wrote =>
        have size := wrote.size
        omega
    | threw k threw => simp_all [threw.failed]
  · exact Nat.zero_le _

theorem write_ends (self : FileDescriptor) (buffer : BufferViewList) (writev : Nat → Option Nat) (writeAll : Bool) :
    ∃ last, Written writev self buffer.concatenate last ∧ writesOn writeAll last = false ∧
      self.write buffer writeAll writev = (last.fd, last.result.map fun _ => last.totalBytesWritten) := by
  have first : Written writev self buffer.concatenate _ := written_first self buffer
  have round (w : Writing) (running : writesOn writeAll w = true)
      (written : Written writev self buffer.concatenate w) := written.round running
  refine ⟨_, ?_, ?_, rfl⟩
  · exact loop_invariant _ _ (Written writev self buffer.concatenate)
      (fun w running written => (round w running written).1) _ _ first
  · exact loop_exits _ _ (Written writev self buffer.concatenate) rank
      (fun w running written => (round w running written).1) (fun w running written => (round w running written).2) _ _
      first (by rw [BufferViewList.size_eq]; exact first.rank_le)

theorem Threw.not_takesAll (threw : Threw writev start content k w) : ¬TakesAll writev content.length := by
  intro takes
  rcases threw.offered with rfl | less
  · exact threw.unfit takes.1
  · exact threw.unfit (takes.2 k less)

theorem Wrote.takesAll (wrote : Wrote writev start content (k + 1) w)
    (finished : taken writev (k + 1) = content.length) : TakesAll writev content.length := by
  refine ⟨wrote.fitted 0 (Nat.succ_pos k), fun j less => wrote.fitted j ?_⟩
  by_contra late
  have := taken_mono writev (Nat.le_of_not_lt late)
  omega

theorem write_all_or_throws (self : FileDescriptor) (buffer : BufferViewList) (writev : Nat → Option Nat) :
    let written := self.write buffer true writev
    (TakesAll writev buffer.size ∧ written.2 = .ok buffer.size ∧ written.1.sent = self.sent ++ buffer.concatenate) ∨
      (¬TakesAll writev buffer.size ∧ written.2.isOk = false ∧
        ∃ k, (k = 0 ∨ taken writev k < buffer.size) ∧ (∀ j < k, Fits writev buffer.size j) ∧
          ¬Fits writev buffer.size k ∧ written.1.sent = self.sent ++ buffer.concatenate.take (taken writev k)) := by
  obtain ⟨last, written, ended, result⟩ := write_ends self buffer writev true
  rw [result, BufferViewList.size_eq]
  cases written with
  | wrote k wrote =>
      have nothing : last.buffer.size = 0 := by
        simpa [writesOn, wrote.succeeded, Except.isOk, Except.toBool] using ended
      have size := wrote.size
      have within := wrote.within
      have finished : taken writev (k + 1) = buffer.concatenate.length := by omega
      refine .inl ⟨wrote.takesAll finished, ?_, ?_⟩
      · rw [wrote.succeeded, wrote.total, finished]
        rfl
      · rw [wrote.sent, finished, List.take_length]
  | threw k threw =>
      refine .inr ⟨threw.not_takesAll, ?_, k, threw.offered, threw.fitted, threw.unfit, threw.sent⟩
      cases failed : last.result with
      | ok _ =>
          have thrown := threw.failed
          rw [failed] at thrown
          cases thrown
      | error _ => rfl

section Once

variable (self : FileDescriptor) (data : Bytes) (writev : Nat → Option Nat)

structure Writes (before : FileDescriptor) (data : Bytes) (after : FileDescriptor) (n : Nat) : Prop where
  sent : after.sent = before.sent ++ data.take n
  within : n ≤ data.length
  closed : after.closed = before.closed
  eof : after.eof = before.eof
  readCount : after.readCount = before.readCount
  received : after.received = before.received

theorem write_once :
    self.write ⟨[data]⟩ false writev =
      let once := writeOnce writev { fd := self, buffer := ⟨[data]⟩ }
      (once.fd, once.result.map fun _ => once.totalBytesWritten) := by
  have stopped (w : Writing) : writesOn false w = false := by simp [writesOn]
  simp only [write, loop_of_stopped _ _ (stopped _)]

theorem size_single : (⟨[data]⟩ : BufferViewList).size = data.length := by
  rw [BufferViewList.size_eq, BufferViewList.concatenate, List.flatten_singleton]

theorem write_partly :
    (∃ n, (self.write ⟨[data]⟩ false writev).2 = .ok n ∧ Writes self data (self.write ⟨[data]⟩ false writev).1 n ∧
        (self.write ⟨[data]⟩ false writev).1.writeCount = self.writeCount + 1) ∨
      (self.write ⟨[data]⟩ false writev).2.isOk = false ∧ (self.write ⟨[data]⟩ false writev).1 = self := by
  rw [write_once]
  unfold writeOnce
  dsimp only
  rw [size_single]
  cases writev 0 with
  | none => exact .inr ⟨rfl, rfl⟩
  | some n =>
      dsimp only
      split
      next => exact .inr ⟨rfl, rfl⟩
      next =>
        split
        next => exact .inr ⟨rfl, rfl⟩
        next fits =>
          have within : n ≤ data.length := Nat.le_of_not_lt fits
          have removed := removePrefix_within ⟨[data]⟩ (n := n) (by rwa [size_single])
          refine .inl ⟨n, ?_, ⟨?_, within, rfl, rfl, rfl, rfl⟩, rfl⟩
          · rw [removed.1, Nat.zero_add]
            rfl
          · rw [BufferViewList.concatenate, List.flatten_singleton]

def WritesHonestly (answer : Nat → Option Nat) : Prop :=
  ∀ size, ∃ n, answer size = some n ∧ n ≤ size ∧ (n = 0 → size = 0)

theorem write_ok {answer : Nat → Option Nat} (honest : WritesHonestly answer) :
    (self.write ⟨[data]⟩ false fun _ => answer data.length).2.isOk = true := by
  obtain ⟨n, answered, within, some⟩ := honest data.length
  have removed := removePrefix_within ⟨[data]⟩ (n := n) (by rwa [size_single])
  rw [write_once]
  simp only [writeOnce, answered]
  rw [size_single, if_neg (by omega), if_neg (by omega)]
  dsimp only
  rw [removed.1]
  rfl

theorem peekOutput_min (stream : ByteStream) (limit : Nat) :
    stream.peekOutput (min limit stream.bufferSize) = stream.buffer.take (min limit stream.bufferSize) := by
  rw [ByteStream.peekOutput, if_neg (by omega)]

theorem write_front (stream : ByteStream) (limit : Nat) (answer : Nat → Option Nat) :
    let amount := min limit stream.bufferSize
    let written := self.write ⟨[stream.peekOutput amount]⟩ false fun _ => answer amount
    (∃ n, written.2 = .ok n ∧ Writes self stream.buffer written.1 n ∧ written.1.writeCount = self.writeCount + 1) ∨
      written.2.isOk = false ∧ written.1 = self := by
  intro amount
  rw [peekOutput_min]
  refine (self.write_partly (stream.buffer.take amount) fun _ => answer amount).imp_left ?_
  rintro ⟨n, result, writes, count⟩
  have within := writes.within
  rw [List.length_take] at within
  refine ⟨n, result, ⟨?_, by omega, writes.closed, writes.eof, writes.readCount, writes.received⟩, count⟩
  rw [writes.sent, List.take_take, Nat.min_eq_left (by omega)]

theorem write_front_ok (stream : ByteStream) (limit : Nat) {answer : Nat → Option Nat}
    (honest : WritesHonestly answer) :
    let amount := min limit stream.bufferSize
    (self.write ⟨[stream.peekOutput amount]⟩ false fun _ => answer amount).2.isOk = true := by
  intro amount
  have ok := self.write_ok (stream.buffer.take amount) honest
  have length : (stream.buffer.take amount).length = amount := by
    rw [List.length_take]
    exact Nat.min_eq_left (Nat.min_le_right ..)
  rw [length] at ok
  rwa [peekOutput_min]

end Once

end Write

end FileDescriptor

end Sponge
