import Sponge.EventLoop

set_option autoImplicit false

namespace Sponge

open Shared EventLoop FileDescriptor

def maxCopyLength : Nat := 65536

def readInto (fd : FileDescriptor) (stream : ByteStream) (answer : Nat → Option Bytes) :
    FileDescriptor × ByteStream × Except Exception Unit :=
  match fd.read stream.remainingCapacity answer with
  | (fd, .error thrown) => (fd, stream, .error thrown)
  | (fd, .ok data) =>
      let stream := (stream.write data).2
      (fd, if fd.eof then stream.endInput else stream, .ok ())

def writeFrom (fd : FileDescriptor) (stream : ByteStream) (isShutdown : Bool) (answer : Nat → Option Nat)
    (finish : FileDescriptor → FileDescriptor × Except Exception Unit) :
    FileDescriptor × ByteStream × Bool × Except Exception Unit :=
  let bytesToWrite := min maxCopyLength stream.bufferSize
  match fd.write ⟨[stream.peekOutput bytesToWrite]⟩ false fun _ => answer bytesToWrite with
  | (fd, .error thrown) => (fd, stream, isShutdown, .error thrown)
  | (fd, .ok bytesWritten) =>
      let stream := stream.popOutput bytesWritten
      if stream.eof then
        match finish fd with
        | (fd, .error thrown) => (fd, stream, isShutdown, .error thrown)
        | (fd, .ok _) => (fd, stream, true, .ok ())
      else
        (fd, stream, isShutdown, .ok ())

section Callbacks

variable (fd : FileDescriptor) (stream : ByteStream)

structure ReadsInto (fd : FileDescriptor) (stream : ByteStream) (fd' : FileDescriptor) (stream' : ByteStream)
    (data : Bytes) : Prop where
  reads : Reads fd stream.remainingCapacity fd' data
  buffer : stream'.buffer = stream.buffer ++ data
  capacity : stream'.capacity = stream.capacity
  hasError : stream'.hasError = stream.hasError
  ends : stream'.isEnded = true → stream.isEnded = true ∨ fd'.eof = true

structure Drains (fd : FileDescriptor) (stream : ByteStream) (fd' : FileDescriptor) (stream' : ByteStream)
    (n : Nat) : Prop where
  writes : Writes fd stream.buffer fd' n
  buffer : stream'.buffer = stream.buffer.drop n
  capacity : stream'.capacity = stream.capacity
  hasError : stream'.hasError = stream.hasError
  isEnded : stream'.isEnded = stream.isEnded

inductive WritesFrom (finish : FileDescriptor → FileDescriptor × Except Exception Unit) (fd : FileDescriptor)
    (stream : ByteStream) (isShutdown : Bool) : FileDescriptor × ByteStream × Bool × Except Exception Unit → Prop
  | wrote {fd' : FileDescriptor} {stream' : ByteStream} {n : Nat} {result : Except Exception Unit}
      (drains : Drains fd stream fd' stream' n)
      (counted : result = .ok () → fd'.writeCount = fd.writeCount + 1) :
      WritesFrom finish fd stream isShutdown (fd', stream', isShutdown, result)
  | finished {written fd' : FileDescriptor} {stream' : ByteStream} {n : Nat}
      (drains : Drains fd stream written stream' n) (counted : written.writeCount = fd.writeCount + 1)
      (eof : stream'.eof = true) (called : finish written = (fd', .ok ())) :
      WritesFrom finish fd stream isShutdown (fd', stream', true, .ok ())

theorem readInto_spec (answer : Nat → Option Bytes) :
    ∃ data, ReadsInto fd stream (readInto fd stream answer).1 (readInto fd stream answer).2.1 data := by
  unfold readInto
  cases called : fd.read stream.remainingCapacity answer with
  | mk fd' result =>
      have cases := fd.read_cases stream.remainingCapacity answer
      rw [called] at cases
      rcases cases with ⟨data, rfl, reads⟩ | ⟨failed, reads⟩
      · refine ⟨data, ?_⟩
        obtain ⟨buffer, -, -⟩ := stream.append_of_room data reads.within
        dsimp only
        split
        next eof => exact ⟨reads, buffer, rfl, rfl, fun _ => .inr eof⟩
        next => exact ⟨reads, buffer, rfl, rfl, .inl⟩
      · cases result with
        | ok data => cases failed
        | error thrown => exact ⟨[], reads, (List.append_nil _).symm, rfl, rfl, .inl⟩

theorem readInto_ok {answer : Nat → Option Bytes} (honest : ReadsHonestly answer) :
    (readInto fd stream answer).2.2 = .ok () ∧ (readInto fd stream answer).1.readCount = fd.readCount + 1 ∧
      ((readInto fd stream answer).1.eof = true → (readInto fd stream answer).2.1.isEnded = true) := by
  obtain ⟨ok, count⟩ := fd.read_ok stream.remainingCapacity answer honest
  unfold readInto
  cases called : fd.read stream.remainingCapacity answer with
  | mk fd' result =>
      rw [called] at ok count
      cases result with
      | error thrown => cases ok
      | ok data =>
          refine ⟨rfl, count, fun eof => ?_⟩
          dsimp only at eof ⊢
          rw [if_pos eof]
          rfl

variable (isShutdown : Bool) {finish : FileDescriptor → FileDescriptor × Except Exception Unit}

theorem writeFrom_spec (answer : Nat → Option Nat) (fails : ∀ fd, (finish fd).2.isOk = false → (finish fd).1 = fd) :
    WritesFrom finish fd stream isShutdown (writeFrom fd stream isShutdown answer finish) := by
  have cases := fd.write_front stream maxCopyLength answer
  unfold writeFrom
  dsimp only at cases ⊢
  generalize fd.write _ false _ = written at cases ⊢
  obtain ⟨fd', result⟩ := written
  rcases cases with ⟨n, rfl, writes, count⟩ | ⟨failed, rfl⟩
  · have pops : ¬stream.bufferSize < n := Nat.not_lt.mpr writes.within
    have drains : Drains fd stream fd' (stream.popOutput n) n := by
      refine ⟨writes, ?_, ByteStream.popOutput_capacity .., ?_, ByteStream.popOutput_isEnded ..⟩
      · simp only [ByteStream.popOutput, if_neg pops]
      · simp only [ByteStream.popOutput, if_neg pops]
    dsimp only
    split
    next eof =>
      have unchanged := fails fd'
      cases called : finish fd' with
      | mk after result =>
          rw [called] at unchanged
          cases result with
          | error thrown =>
              obtain rfl : after = fd' := unchanged rfl
              exact .wrote drains fun same => by cases same
          | ok _ => exact .finished drains count eof called
    next => exact .wrote drains fun _ => count
  · cases result with
    | ok data => cases failed
    | error thrown =>
        exact .wrote (n := 0) ⟨⟨by simp, Nat.zero_le _, rfl, rfl, rfl, rfl⟩, rfl, rfl, rfl, rfl⟩ fun same => by cases same

theorem writeFrom_ok {answer : Nat → Option Nat} (honest : WritesHonestly answer)
    (succeeds : ∀ fd, (finish fd).2 = .ok ()) : (writeFrom fd stream isShutdown answer finish).2.2.2 = .ok () := by
  have ok := fd.write_front_ok stream maxCopyLength honest
  unfold writeFrom
  dsimp only at ok ⊢
  generalize fd.write _ false _ = written at ok ⊢
  obtain ⟨fd', result⟩ := written
  cases result with
  | error thrown => cases ok
  | ok n =>
      have finished := succeeds fd'
      dsimp only
      split
      · cases called : finish fd' with
        | mk after result =>
            rw [called] at finished
            obtain rfl : result = .ok () := finished
            rfl
      · rfl

end Callbacks

inductive CopyRule
  | stdinToOutbound
  | outboundToSocket
  | socketToInbound
  | inboundToStdout
  deriving DecidableEq

structure CopyKernel where
  inputRead : Nat → Option Bytes
  socketWrite : Nat → Option Nat
  socketShutdown : Bool
  socketRead : Nat → Option Bytes
  outputWrite : Nat → Option Nat
  outputClose : Bool

structure StreamCopy where
  input : FileDescriptor := {}
  output : FileDescriptor := {}
  socket : FileDescriptor := {}
  outbound : ByteStream := .new 1048576
  inbound : ByteStream := .new 1048576
  outboundShutdown : Bool := false
  inboundShutdown : Bool := false
  cancelled : List CopyRule := []
  kernel : CopyKernel

namespace StreamCopy

def rule : CopyRule → Rule StreamCopy
  | .stdinToOutbound =>
      { fd := input
        direction := .input
        callback := fun world =>
          let (input, outbound, result) := readInto world.input world.outbound world.kernel.inputRead
          ({ world with input, outbound }, result)
        interest := fun world =>
          !world.outbound.hasError && decide (0 < world.outbound.remainingCapacity) && !world.inbound.hasError
        cancel := fun world =>
          ({ world with
            outbound := world.outbound.endInput
            cancelled := world.cancelled ++ [.stdinToOutbound] }, .ok ()) }
  | .outboundToSocket =>
      { fd := socket
        direction := .output
        callback := fun world =>
          let (socket, outbound, outboundShutdown, result) :=
            writeFrom world.socket world.outbound world.outboundShutdown world.kernel.socketWrite
              (shutdownWrite · world.kernel.socketShutdown)
          ({ world with socket, outbound, outboundShutdown }, result)
        interest := fun world =>
          !world.outbound.bufferEmpty || (world.outbound.eof && !world.outboundShutdown)
        cancel := fun world =>
          ({ world with
            outbound := world.outbound.endInput
            cancelled := world.cancelled ++ [.outboundToSocket] }, .ok ()) }
  | .socketToInbound =>
      { fd := socket
        direction := .input
        callback := fun world =>
          let (socket, inbound, result) := readInto world.socket world.inbound world.kernel.socketRead
          ({ world with socket, inbound }, result)
        interest := fun world =>
          !world.inbound.hasError && decide (0 < world.inbound.remainingCapacity) && !world.outbound.hasError
        cancel := fun world =>
          ({ world with
            inbound := world.inbound.endInput
            cancelled := world.cancelled ++ [.socketToInbound] }, .ok ()) }
  | .inboundToStdout =>
      { fd := output
        direction := .output
        callback := fun world =>
          let (output, inbound, inboundShutdown, result) :=
            writeFrom world.output world.inbound world.inboundShutdown world.kernel.outputWrite
              (close · world.kernel.outputClose)
          ({ world with output, inbound, inboundShutdown }, result)
        interest := fun world =>
          !world.inbound.bufferEmpty || (world.inbound.eof && !world.inboundShutdown)
        cancel := fun world =>
          ({ world with
            inbound := world.inbound.endInput
            cancelled := world.cancelled ++ [.inboundToStdout] }, .ok ()) }

def allRules : List CopyRule := [.stdinToOutbound, .outboundToSocket, .socketToInbound, .inboundToStdout]

def wait (state : List CopyRule × StreamCopy) (op : Poll × CopyKernel) :
    List CopyRule × StreamCopy × Except Exception Result :=
  waitNextEvent rule state.1 op.1 { state.2 with kernel := op.2 }

def step (state : List CopyRule × StreamCopy) (op : Poll × CopyKernel) : List CopyRule × StreamCopy :=
  ((wait state op).1, (wait state op).2.1)

end StreamCopy

structure Channel where
  received : Bytes
  eof : Bool
  stream : ByteStream
  sent : Bytes
  isShutdown : Bool
  sourceCancelled : Prop
  sinkCancelled : Prop

namespace Channel

structure Sound (c : Channel) : Prop where
  relayed : c.received = c.sent ++ c.stream.buffer
  ended : c.stream.isEnded = true → c.eof = true ∨ c.sourceCancelled ∨ c.sinkCancelled
  complete : c.isShutdown = true → c.stream.eof = true ∧ (c.eof = true ∨ c.sourceCancelled)
  ends : c.sourceCancelled → c.stream.isEnded = true
  healthy : c.stream.hasError = false
  capacity : c.stream.capacity = 1048576

section Sound

variable {c : Channel}

theorem Sound.read (sound : c.Sound) (still : c.eof = false) (alive : ¬c.sourceCancelled) {fd fd' : FileDescriptor}
    {stream' : ByteStream} {data : Bytes} (received : fd.received = c.received)
    (reads : ReadsInto fd c.stream fd' stream' data) :
    Sound { c with received := fd'.received, eof := fd'.eof, stream := stream' } where
  relayed := by
    change fd'.received = c.sent ++ stream'.buffer
    rw [reads.reads.received, received, sound.relayed, reads.buffer, List.append_assoc]
  ended := by
    intro isEnded
    rcases reads.ends isEnded with before | now
    · rcases sound.ended before with early | source | sink
      · exact absurd early (by rw [still]; decide)
      · exact absurd source alive
      · exact .inr (.inr sink)
    · exact .inl now
  complete := by
    intro isShutdown
    rcases (sound.complete isShutdown).2 with early | source
    · exact absurd early (by rw [still]; decide)
    · exact absurd source alive
  ends := fun source => absurd source alive
  healthy := reads.hasError.trans sound.healthy
  capacity := reads.capacity.trans sound.capacity

theorem Sound.write (sound : c.Sound) {fd fd' : FileDescriptor} {stream' : ByteStream} {n : Nat}
    (sent : fd.sent = c.sent) (writes : Drains fd c.stream fd' stream' n) :
    Sound { c with stream := stream', sent := fd'.sent } where
  relayed := by
    change c.received = fd'.sent ++ stream'.buffer
    rw [writes.writes.sent, sent, writes.buffer, List.append_assoc, List.take_append_drop, sound.relayed]
  ended := fun isEnded => sound.ended (writes.isEnded ▸ isEnded)
  complete := by
    intro isShutdown
    obtain ⟨eof, source⟩ := sound.complete isShutdown
    refine ⟨?_, source⟩
    simp only [ByteStream.eof, ByteStream.inputEnded, ByteStream.bufferEmpty, Bool.and_eq_true,
      List.isEmpty_iff] at eof ⊢
    exact ⟨writes.isEnded.trans eof.1, by rw [writes.buffer, eof.2, List.drop_nil]⟩
  ends := fun source => writes.isEnded.trans (sound.ends source)
  healthy := writes.hasError.trans sound.healthy
  capacity := writes.capacity.trans sound.capacity

theorem Sound.shutdown (sound : c.Sound) (alive : ¬c.sinkCancelled) (eof : c.stream.eof = true) :
    Sound { c with isShutdown := true } where
  relayed := sound.relayed
  ended := sound.ended
  complete := by
    intro _
    have isEnded : c.stream.isEnded = true := (Bool.and_eq_true_iff.mp eof).1
    refine ⟨eof, ?_⟩
    rcases sound.ended isEnded with early | source | sink
    · exact .inl early
    · exact .inr source
    · exact absurd sink alive
  ends := sound.ends
  healthy := sound.healthy
  capacity := sound.capacity

theorem Sound.writeFrom (sound : c.Sound) (alive : ¬c.sinkCancelled) {fd : FileDescriptor} (sent : fd.sent = c.sent)
    {finish : FileDescriptor → FileDescriptor × Except Exception Unit} (keeps : ∀ fd, (finish fd).1.sent = fd.sent)
    {after : FileDescriptor × ByteStream × Bool × Except Exception Unit}
    (written : WritesFrom finish fd c.stream c.isShutdown after) :
    Sound { c with stream := after.2.1, sent := after.1.sent, isShutdown := after.2.2.1 } := by
  cases written with
  | wrote drains counted => exact sound.write sent drains
  | @finished middle _ _ _ drains counted eof called =>
      have same := keeps middle
      rw [called] at same
      have finished := (sound.write sent drains).shutdown alive eof
      rw [← same] at finished
      exact finished

theorem Sound.cancel (sound : c.Sound) (source sink : Prop) (gone : source ∨ sink)
    (more : c.sourceCancelled → source) :
    Sound { c with stream := c.stream.endInput, sourceCancelled := source, sinkCancelled := sink } where
  relayed := sound.relayed
  ended := fun _ => .inr gone
  complete := by
    intro isShutdown
    obtain ⟨eof, early⟩ := sound.complete isShutdown
    exact ⟨Bool.and_eq_true_iff.mpr ⟨rfl, (Bool.and_eq_true_iff.mp eof).2⟩, early.imp_right more⟩
  ends := fun _ => rfl
  healthy := sound.healthy
  capacity := sound.capacity

theorem Sound.all_sent (sound : c.Sound) (isShutdown : c.isShutdown = true) : c.sent = c.received := by
  have empty := (Bool.and_eq_true_iff.mp (sound.complete isShutdown).1).2
  rw [sound.relayed, List.isEmpty_iff.mp empty, List.append_nil]

theorem Sound.idle (sound : c.Sound) (isShutdown : c.isShutdown = true) :
    (!c.stream.bufferEmpty || (c.stream.eof && !c.isShutdown)) = false := by
  have empty := (Bool.and_eq_true_iff.mp (sound.complete isShutdown).1).2
  rw [empty, isShutdown, Bool.not_true, Bool.false_or, Bool.and_false]

theorem Sound.open_of_interest (sound : c.Sound)
    (interested : (!c.stream.bufferEmpty || (c.stream.eof && !c.isShutdown)) = true) : c.isShutdown = false := by
  by_contra isShutdown
  rw [sound.idle (by simpa using isShutdown)] at interested
  cases interested

end Sound

end Channel

inductive Flow
  | outbound
  | inbound
  deriving DecidableEq

namespace Flow

def source : Flow → StreamCopy → FileDescriptor
  | outbound => StreamCopy.input
  | inbound => StreamCopy.socket

def stream : Flow → StreamCopy → ByteStream
  | outbound => StreamCopy.outbound
  | inbound => StreamCopy.inbound

def sink : Flow → StreamCopy → FileDescriptor
  | outbound => StreamCopy.socket
  | inbound => StreamCopy.output

def isShutdown : Flow → StreamCopy → Bool
  | outbound => StreamCopy.outboundShutdown
  | inbound => StreamCopy.inboundShutdown

def reader : Flow → CopyRule
  | outbound => .stdinToOutbound
  | inbound => .socketToInbound

def writer : Flow → CopyRule
  | outbound => .outboundToSocket
  | inbound => .inboundToStdout

def channel (flow : Flow) (world : StreamCopy) : Channel where
  received := (flow.source world).received
  eof := (flow.source world).eof
  stream := flow.stream world
  sent := (flow.sink world).sent
  isShutdown := flow.isShutdown world
  sourceCancelled := flow.reader ∈ world.cancelled
  sinkCancelled := flow.writer ∈ world.cancelled

end Flow

namespace StreamCopy

structure Sound (world : StreamCopy) : Prop where
  channel : ∀ flow : Flow, (flow.channel world).Sound
  closes : world.inboundShutdown = true → world.output.closed = true

def Live (id : CopyRule) (world : StreamCopy) : Prop := id ∉ world.cancelled

def Armed : CopyRule → StreamCopy → Prop
  | .stdinToOutbound, world => world.input.eof = false
  | .outboundToSocket, world => world.outboundShutdown = false
  | .socketToInbound, world => world.socket.eof = false
  | .inboundToStdout, world => world.inboundShutdown = false

theorem sound_start (kernel : CopyKernel) : Sound { kernel } where
  channel := by
    intro flow
    cases flow <;>
      refine ⟨rfl, ?_, ?_, ?_, rfl, rfl⟩ <;>
      simp [Flow.channel, Flow.stream, Flow.isShutdown, ByteStream.new]
  closes := by simp

section Rules

variable {world : StreamCopy}

theorem callback_cancelled (id : CopyRule) (world : StreamCopy) :
    ((rule id).callback world).1.cancelled = world.cancelled := by
  cases id <;> rfl

theorem cancel_cancelled (id : CopyRule) (world : StreamCopy) :
    ((rule id).cancel world).1.cancelled = world.cancelled ++ [id] := by
  cases id <;> rfl

theorem cancel_returns (id : CopyRule) (world : StreamCopy) : ((rule id).cancel world).2 = .ok () := by
  cases id <;> rfl

theorem socket_written (world : StreamCopy) :
    WritesFrom (shutdownWrite · world.kernel.socketShutdown) world.socket world.outbound world.outboundShutdown
      (writeFrom world.socket world.outbound world.outboundShutdown world.kernel.socketWrite
        (shutdownWrite · world.kernel.socketShutdown)) :=
  writeFrom_spec _ _ _ _ fun fd => fd.shutdownWrite_failed _

theorem output_written (world : StreamCopy) :
    WritesFrom (close · world.kernel.outputClose) world.output world.inbound world.inboundShutdown
      (writeFrom world.output world.inbound world.inboundShutdown world.kernel.outputWrite
        (close · world.kernel.outputClose)) :=
  writeFrom_spec _ _ _ _ fun fd => fd.close_failed _

theorem socket_unread (world : StreamCopy) :
    ((rule .outboundToSocket).callback world).1.socket.received = world.socket.received ∧
      ((rule .outboundToSocket).callback world).1.socket.eof = world.socket.eof := by
  have written := socket_written world
  simp only [rule]
  generalize writeFrom world.socket _ _ _ _ = after at written ⊢
  cases written with
  | wrote drains counted => exact ⟨drains.writes.received, drains.writes.eof⟩
  | finished drains counted eof called =>
      obtain rfl := shutdownWrite_ok called
      exact ⟨drains.writes.received, drains.writes.eof⟩

-- The socket is read into one stream and written from the other; neither use shows in the other direction.
theorem channel_callback {id : CopyRule} {flow : Flow} (reader : id ≠ flow.reader) (writer : id ≠ flow.writer)
    (world : StreamCopy) : flow.channel ((rule id).callback world).1 = flow.channel world := by
  obtain ⟨data, reads⟩ := readInto_spec world.socket world.inbound world.kernel.socketRead
  cases flow <;> cases id
  case outbound.stdinToOutbound => exact absurd rfl reader
  case outbound.outboundToSocket => exact absurd rfl writer
  case inbound.socketToInbound => exact absurd rfl reader
  case inbound.inboundToStdout => exact absurd rfl writer
  case outbound.socketToInbound =>
    simp only [rule, Flow.channel, Flow.source, Flow.sink, Flow.stream, Flow.isShutdown, reads.reads.sent]
  case outbound.inboundToStdout => rfl
  case inbound.stdinToOutbound => rfl
  case inbound.outboundToSocket =>
    obtain ⟨received, eof⟩ := socket_unread world
    simp only [Flow.channel, Flow.source, received, eof]
    rfl

theorem channel_cancel {id : CopyRule} {flow : Flow} (reader : id ≠ flow.reader) (writer : id ≠ flow.writer)
    (world : StreamCopy) : flow.channel ((rule id).cancel world).1 = flow.channel world := by
  cases flow <;> cases id <;>
    first
    | exact absurd rfl reader
    | exact absurd rfl writer
    | simp [Flow.channel, rule, Flow.source, Flow.sink, Flow.stream, Flow.isShutdown, Flow.reader, Flow.writer]

theorem Sound.reader (sound : world.Sound) (flow : Flow) (alive : Live flow.reader world)
    (armed : Armed flow.reader world) : (flow.channel ((rule flow.reader).callback world).1).Sound := by
  cases flow with
  | outbound =>
      obtain ⟨data, reads⟩ := readInto_spec world.input world.outbound world.kernel.inputRead
      exact (sound.channel .outbound).read armed alive rfl reads
  | inbound =>
      obtain ⟨data, reads⟩ := readInto_spec world.socket world.inbound world.kernel.socketRead
      exact (sound.channel .inbound).read armed alive rfl reads

theorem Sound.writer (sound : world.Sound) (flow : Flow) (alive : Live flow.writer world) :
    (flow.channel ((rule flow.writer).callback world).1).Sound := by
  cases flow with
  | outbound =>
      exact (sound.channel .outbound).writeFrom alive rfl (fun fd => fd.shutdownWrite_sent _) (socket_written world)
  | inbound => exact (sound.channel .inbound).writeFrom alive rfl (fun fd => fd.close_sent _) (output_written world)

theorem closes_callback (closes : world.inboundShutdown = true → world.output.closed = true) (id : CopyRule) :
    ((rule id).callback world).1.inboundShutdown = true → ((rule id).callback world).1.output.closed = true := by
  cases id with
  | stdinToOutbound => exact closes
  | socketToInbound => exact closes
  | outboundToSocket => exact closes
  | inboundToStdout =>
      have written := output_written world
      simp only [rule]
      generalize writeFrom world.output _ _ _ _ = after at written ⊢
      cases written with
      | wrote drains counted => exact fun earlier => drains.writes.closed.trans (closes earlier)
      | finished drains counted eof called =>
          obtain rfl := close_ok called
          exact fun _ => rfl

theorem Sound.callback (sound : world.Sound) {id : CopyRule} (alive : Live id world) (armed : Armed id world) :
    ((rule id).callback world).1.Sound := by
  refine ⟨fun flow => ?_, closes_callback sound.closes id⟩
  by_cases reader : id = flow.reader
  · subst reader
    exact sound.reader flow alive armed
  · by_cases writer : id = flow.writer
    · subst writer
      exact sound.writer flow alive
    · rw [channel_callback reader writer]
      exact sound.channel flow

theorem Sound.cancel (sound : world.Sound) (id : CopyRule) : ((rule id).cancel world).1.Sound := by
  have own : id ∈ world.cancelled ++ [id] := List.mem_append_right _ List.mem_cons_self
  have more {other : CopyRule} (member : other ∈ world.cancelled) : other ∈ world.cancelled ++ [id] :=
    List.mem_append_left _ member
  refine ⟨fun flow => ?_, by cases id <;> exact sound.closes⟩
  by_cases reader : id = flow.reader
  · have sound := (sound.channel flow).cancel _ (flow.writer ∈ world.cancelled ++ [id]) (.inl (reader ▸ own)) more
    subst reader
    cases flow <;> exact sound
  · by_cases writer : id = flow.writer
    · have sound := (sound.channel flow).cancel (flow.reader ∈ world.cancelled ++ [id]) _ (.inr (writer ▸ own)) more
      subst writer
      cases flow <;> exact sound
    · rw [channel_cancel reader writer]
      exact sound.channel flow

theorem armed_others {id other : CopyRule} (different : id ≠ other) (armed : Armed other world) :
    Armed other ((rule id).callback world).1 := by
  have eof := (socket_unread world).2
  cases id <;> cases other <;> first | exact armed | exact eof.trans armed | exact absurd rfl different

theorem armed_cancel (id : CopyRule) {other : CopyRule} (armed : Armed other world) :
    Armed other ((rule id).cancel world).1 := by
  cases id <;> cases other <;> exact armed

theorem Sound.arms (sound : world.Sound) {id : CopyRule} (unfinished : (rule id).finished world = false)
    (interested : (rule id).interest world = true) : Armed id world := by
  cases id with
  | stdinToOutbound => exact (Bool.or_eq_false_iff.mp unfinished).1
  | outboundToSocket => exact (sound.channel .outbound).open_of_interest interested
  | socketToInbound => exact (Bool.or_eq_false_iff.mp unfinished).1
  | inboundToStdout => exact (sound.channel .inbound).open_of_interest interested

theorem live_others {id other : CopyRule} (different : id ≠ other) (alive : Live other world) :
    Live other ((rule id).cancel world).1 ∧ Live other ((rule id).callback world).1 := by
  constructor
  · rw [Live, cancel_cancelled, List.mem_append, List.mem_singleton]
    exact fun member => member.elim alive different.symm
  · rwa [Live, callback_cancelled]

end Rules

theorem keeps : Keeps rule Sound Live Armed where
  arms := fun _ _ sound _ unfinished interested => sound.arms unfinished interested
  callback := by
    intro id world sound alive armed
    exact ⟨sound.callback alive armed, by rwa [Live, callback_cancelled]⟩
  cancel := fun id world sound _ => ⟨sound.cancel id, fun failed => by rw [cancel_returns] at failed; cases failed⟩
  others := by
    intro id other world different _ _ alive
    have others := live_others different alive
    exact ⟨others.1, fun _ => others.2⟩
  othersArmed := fun id _ _ different _ _ armed => ⟨armed_cancel id armed, fun _ => armed_others different armed⟩

structure Done (flow : Flow) (content : Bytes) (world : StreamCopy) : Prop where
  sound : world.Sound
  isShutdown : flow.isShutdown world = true
  received : (flow.source world).received = content
  sent : (flow.sink world).sent = content

theorem Done.not_armed {flow : Flow} {content : Bytes} {world : StreamCopy} (done : Done flow content world)
    {id : CopyRule} (own : id = flow.reader ∨ id = flow.writer) (alive : Live id world) : ¬Armed id world := by
  intro armed
  rcases own with rfl | rfl
  · rcases ((done.sound.channel flow).complete done.isShutdown).2 with eof | cancelled
    · cases flow <;> exact absurd (eof.symm.trans armed) (by decide)
    · exact alive cancelled
  · cases flow <;> exact absurd (done.isShutdown.symm.trans armed) (by decide)

theorem Done.callback {flow : Flow} {content : Bytes} {world : StreamCopy} (done : Done flow content world)
    {id : CopyRule} (alive : Live id world) (armed : Armed id world) :
    Done flow content ((rule id).callback world).1 := by
  have reader : id ≠ flow.reader := fun own => done.not_armed (.inl own) alive armed
  have writer : id ≠ flow.writer := fun own => done.not_armed (.inr own) alive armed
  have same := channel_callback reader writer world
  exact ⟨done.sound.callback alive armed, (congrArg Channel.isShutdown same).trans done.isShutdown,
    (congrArg Channel.received same).trans done.received, (congrArg Channel.sent same).trans done.sent⟩

theorem Done.cancel {flow : Flow} {content : Bytes} {world : StreamCopy} (done : Done flow content world)
    (id : CopyRule) : Done flow content ((rule id).cancel world).1 := by
  obtain ⟨sound, isShutdown, received, sent⟩ := done
  refine ⟨sound.cancel id, ?_, ?_, ?_⟩ <;> cases id <;> cases flow <;> assumption

theorem keeps_done (flow : Flow) (content : Bytes) : Keeps rule (Done flow content) Live Armed where
  arms := fun id world done => keeps.arms id world done.sound
  callback := fun id world done alive armed =>
    ⟨done.callback alive armed, (keeps.callback id world done.sound alive armed).2⟩
  cancel := fun id world done alive => ⟨done.cancel id, (keeps.cancel id world done.sound alive).2⟩
  others := fun id other world different done => keeps.others id other world different done.sound
  othersArmed := fun id other world different done => keeps.othersArmed id other world different done.sound

structure Between (state : List CopyRule × StreamCopy) : Prop where
  holds : Holds Sound Live state.1 state.2
  within : state.1.Sublist allRules
  known : ∀ id, id ∈ state.1 ∨ id ∈ state.2.cancelled

theorem between_start (kernel : CopyKernel) : Between (allRules, { kernel }) where
  holds := ⟨show allRules.Nodup by decide, sound_start kernel, fun _ _ => List.not_mem_nil⟩
  within := List.Sublist.refl _
  known := fun id => .inl (show id ∈ allRules by cases id <;> decide)

theorem Sound.kernel {world : StreamCopy} (sound : world.Sound) (kernel : CopyKernel) : { world with kernel }.Sound :=
  ⟨fun flow => by cases flow; exacts [sound.channel .outbound, sound.channel .inbound], sound.closes⟩

theorem Between.kernel {state : List CopyRule × StreamCopy} (between : Between state) (kernel : CopyKernel) :
    Holds Sound Live state.1 { state.2 with kernel } :=
  ⟨between.holds.distinct, between.holds.holds.kernel kernel, between.holds.lives⟩

theorem Between.step {state : List CopyRule × StreamCopy} (between : Between state) (op : Poll × CopyKernel) :
    Between (step state op) where
  holds := keeps.waitNextEvent op.1 (between.kernel op.2)
  within := (waitNextEvent_sublist ..).trans between.within
  known := by
    intro id
    refine @waitNextEvent_gone _ _ rule (fun id world => id ∈ world.cancelled) ?_ ?_ id _ op.1 _ (between.known id)
    · intro id world _
      rw [cancel_cancelled]
      exact List.mem_append_right _ List.mem_cons_self
    · intro id other world already
      rw [cancel_cancelled, callback_cancelled]
      exact ⟨List.mem_append_left _ already, already⟩

theorem run_between (kernel : CopyKernel) (ops : List (Poll × CopyKernel)) :
    Between (ops.foldl step (allRules, { kernel })) := by
  induction ops using List.reverseRecOn with
  | nil => exact between_start kernel
  | append_singleton ops op ih =>
      rw [List.foldl_append]
      exact ih.step op

theorem run_done {flow : Flow} {content : Bytes} {state : List CopyRule × StreamCopy}
    (between : Holds (Done flow content) Live state.1 state.2) (ops : List (Poll × CopyKernel)) :
    Done flow content (ops.foldl step state).2 := by
  induction ops generalizing state with
  | nil => exact between.holds
  | cons op ops ih =>
      refine ih ((keeps_done flow content).waitNextEvent op.1 ⟨between.distinct, ?_, between.lives⟩)
      obtain ⟨sound, isShutdown, received, sent⟩ := between.holds
      cases flow <;> exact ⟨sound.kernel op.2, isShutdown, received, sent⟩

theorem copies_all_in_order (kernel : CopyKernel) (ops : List (Poll × CopyKernel)) (flow : Flow) :
    let copy := ops.foldl step (allRules, { kernel })
    (flow.source copy.2).received = (flow.sink copy.2).sent ++ (flow.stream copy.2).buffer ∧
      (flow.isShutdown copy.2 = true → ∀ later : List (Poll × CopyKernel),
        let after := (later.foldl step copy).2
        (flow.source after).received = (flow.source copy.2).received ∧
          (flow.sink after).sent = (flow.source copy.2).received) := by
  have between := (run_between kernel ops).holds
  have sound := between.holds.channel flow
  refine ⟨sound.relayed, fun isShutdown later => ?_⟩
  have sent := sound.all_sent isShutdown
  have done := run_done ⟨between.distinct, ⟨between.holds, isShutdown, rfl, sent⟩, between.lives⟩ later
  exact ⟨done.received, done.sent⟩

def greeting : CopyKernel where
  inputRead size := some ([104, 105].take size)
  socketWrite size := some size
  socketShutdown := true
  socketRead _ := some []
  outputWrite size := some size
  outputClose := true

def farewell : CopyKernel := { greeting with inputRead := fun _ => some [] }

def allReady : Poll := .answered (List.replicate 4 { readable := true, writable := true })

def greetingRun : List (Poll × CopyKernel) := [(allReady, greeting), (allReady, farewell)]

theorem copies_all_in_order_greeting :
    let copy := greetingRun.foldl step (allRules, { kernel := greeting })
    ∀ later : List (Poll × CopyKernel), ((later.foldl step copy).2.socket).sent = [104, 105] := by
  intro copy later
  have content : copy.2.input.received = [104, 105] := by decide +kernel
  rw [← content]
  exact ((copies_all_in_order greeting greetingRun .outbound).2 (by decide +kernel) later).2

end StreamCopy

structure CopyKernel.Honest (kernel : CopyKernel) : Prop where
  inputRead : ReadsHonestly kernel.inputRead
  socketWrite : WritesHonestly kernel.socketWrite
  socketShutdown : kernel.socketShutdown = true
  socketRead : ReadsHonestly kernel.socketRead
  outputWrite : WritesHonestly kernel.outputWrite
  outputClose : kernel.outputClose = true

namespace StreamCopy

theorem callback_kernel (id : CopyRule) (world : StreamCopy) :
    ((rule id).callback world).1.kernel = world.kernel := by
  cases id <;> rfl

theorem cancel_kernel (id : CopyRule) (world : StreamCopy) : ((rule id).cancel world).1.kernel = world.kernel := by
  cases id <;> rfl

theorem returns {world : StreamCopy} (honest : world.kernel.Honest) (id : CopyRule) :
    ((rule id).callback world).2 = .ok () := by
  cases id with
  | stdinToOutbound => exact (readInto_ok _ _ honest.inputRead).1
  | socketToInbound => exact (readInto_ok _ _ honest.socketRead).1
  | outboundToSocket =>
      exact writeFrom_ok _ _ _ honest.socketWrite fun fd => by rw [honest.socketShutdown, shutdownWrite, if_pos rfl]
  | inboundToStdout =>
      exact writeFrom_ok _ _ _ honest.outputWrite fun fd => by rw [honest.outputClose, close, if_pos rfl]

theorem services {world : StreamCopy} (honest : world.kernel.Honest) (id : CopyRule) :
    (rule id).serviceCount world ≠ (rule id).serviceCount ((rule id).callback world).1 := by
  have returned := returns honest id
  cases id with
  | stdinToOutbound =>
      have count := (readInto_ok world.input world.outbound honest.inputRead).2.1
      simp only [rule, Rule.serviceCount, count]
      exact (count_ne_succ _).1
  | socketToInbound =>
      have count := (readInto_ok world.socket world.inbound honest.socketRead).2.1
      simp only [rule, Rule.serviceCount, count]
      exact (count_ne_succ _).1
  | outboundToSocket =>
      have written := socket_written world
      simp only [rule, Rule.serviceCount] at returned ⊢
      generalize writeFrom world.socket _ _ _ _ = after at written returned ⊢
      cases written with
      | wrote drains counted =>
          rw [counted returned]
          exact (count_ne_succ _).1
      | finished drains counted eof called =>
          obtain rfl := shutdownWrite_ok called
          simp only [registerWrite, counted]
          exact (count_ne_succ _).2
  | inboundToStdout =>
      have written := output_written world
      simp only [rule, Rule.serviceCount] at returned ⊢
      generalize writeFrom world.output _ _ _ _ = after at written returned ⊢
      cases written with
      | wrote drains counted =>
          rw [counted returned]
          exact (count_ne_succ _).1
      | finished drains counted eof called =>
          obtain rfl := close_ok called
          rw [counted]
          exact (count_ne_succ _).1

theorem serves : Serves rule (fun world => world.Sound ∧ world.kernel.Honest) Live Armed where
  callback := by
    intro id world both alive armed
    have kept := keeps.callback id world both.1 alive armed
    exact ⟨⟨kept.1, by rw [callback_kernel]; exact both.2⟩, kept.2⟩
  cancel := by
    intro id world both alive
    have kept := keeps.cancel id world both.1 alive
    exact ⟨⟨kept.1, by rw [cancel_kernel]; exact both.2⟩, kept.2⟩
  others := fun id other world different both => keeps.others id other world different both.1
  othersArmed := fun id other world different both => keeps.othersArmed id other world different both.1
  cancels := fun id world _ _ => cancel_returns id world
  returns := fun id _ both _ _ => returns both.2 id
  services := fun id _ both _ _ => .inl (services both.2 id)

-- A cancellation ends a stream, which concerns the rules after it only.
theorem allRules_apart : allRules.Pairwise fun earlier later => ∀ world,
    (rule earlier).interest world = false → (rule earlier).interest ((rule later).cancel world).1 = false := by
  refine .cons ?_ (.cons ?_ (.cons ?_ (.cons ?_ .nil))) <;> intro later member <;> cases later <;>
    first | exact fun _ quiet => quiet | simp at member

theorem Between.finished {state : List CopyRule × StreamCopy} (between : Between state)
    (quiet : ∀ id ∈ state.1, (rule id).interest state.2 = false) (flow : Flow) :
    flow.isShutdown state.2 = true ∨ flow.writer ∈ state.2.cancelled := by
  by_contra neither
  obtain ⟨running, alive⟩ := not_or.mp neither
  have sound := between.holds.holds.channel flow
  have idle :
      (!(flow.stream state.2).bufferEmpty || ((flow.stream state.2).eof && !flow.isShutdown state.2)) = false := by
    have idle := quiet flow.writer ((between.known flow.writer).resolve_right alive)
    cases flow <;> exact idle
  rw [Bool.or_eq_false_iff, Bool.not_eq_false'] at idle
  have empty : (flow.stream state.2).buffer = [] := List.isEmpty_iff.mp idle.1
  -- There is room for more, so the reader would still ask.
  have gone : flow.reader ∈ state.2.cancelled := by
    refine (between.known flow.reader).resolve_left fun member => ?_
    have content := quiet flow.reader member
    have room : 0 < (flow.stream state.2).remainingCapacity := by
      have capacity : (flow.stream state.2).capacity = 1048576 := sound.capacity
      rw [ByteStream.remainingCapacity, ByteStream.bufferSize, empty, capacity]
      decide
    have outbound : state.2.outbound.hasError = false := (between.holds.holds.channel .outbound).healthy
    have inbound : state.2.inbound.hasError = false := (between.holds.holds.channel .inbound).healthy
    cases flow <;> simp_all [rule, Flow.reader, Flow.stream]
  have eof : (flow.stream state.2).eof = true := Bool.and_eq_true_iff.mpr ⟨sound.ends gone, idle.1⟩
  rw [eof, Bool.true_and, Bool.not_eq_false'] at idle
  exact running idle.2

theorem Between.exits {state : List CopyRule × StreamCopy} (between : Between state) (kernel : CopyKernel)
    (finished : ∀ flow : Flow, flow.isShutdown state.2 = true) :
    (setUp rule state.1 { state.2 with kernel }).1.any Prod.snd = false := by
  rw [List.any_eq_false]
  intro entry member asks
  have done (flow : Flow) : Done flow (flow.source state.2).received { state.2 with kernel } := by
    have sent := (between.holds.holds.channel flow).all_sent (finished flow)
    have isShutdown := finished flow
    cases flow <;> exact ⟨between.holds.holds.kernel kernel, isShutdown, rfl, sent⟩
  have waiting (flow : Flow) := (keeps_done flow _).setUp ⟨between.holds.distinct, done flow, between.holds.lives⟩
  have alive : Live entry.1 _ := (waiting .outbound).holds.lives entry.1 (List.mem_map_of_mem member)
  have armed : Armed entry.1 _ := (waiting .outbound).waits entry member asks
  have own : ∃ flow : Flow, entry.1 = flow.reader ∨ entry.1 = flow.writer := by
    cases entry.1
    exacts [⟨.outbound, .inl rfl⟩, ⟨.outbound, .inr rfl⟩, ⟨.inbound, .inl rfl⟩, ⟨.inbound, .inr rfl⟩]
  obtain ⟨flow, own⟩ := own
  exact (waiting flow).holds.holds.not_armed own alive armed

theorem copy_returns_when_done (kernel : CopyKernel) (ops : List (Poll × CopyKernel)) (poll : Poll)
    (answers : CopyKernel) (intact : poll.Intact) (honest : answers.Honest) :
    let copy := ops.foldl step (allRules, { kernel })
    let waited := wait copy (poll, answers)
    (∃ result, waited.2.2 = .ok result) ∧
      (poll ≠ .interrupted → waited.2.2 = .ok .exit → ∀ flow : Flow,
        flow.isShutdown waited.2.1 = true ∧ (flow.sink waited.2.1).sent = (flow.source waited.2.1).received ∨
          flow.writer ∈ waited.2.1.cancelled) ∧
      ((∀ flow : Flow, flow.isShutdown copy.2 = true) → waited.2.2 = .ok .exit) := by
  intro copy waited
  have between : Between copy := run_between kernel ops
  have after : Between (waited.1, waited.2.1) := between.step (poll, answers)
  have holds : Holds (fun world => world.Sound ∧ world.kernel.Honest) Live copy.1 { copy.2 with kernel := answers } :=
    ⟨between.holds.distinct, ⟨between.holds.holds.kernel answers, honest⟩, between.holds.lives⟩
  refine ⟨?_, fun undisturbed exits flow => ?_, fun finished => ?_⟩
  · exact serves.waitNextEvent intact holds (keeps.setUp (between.kernel answers)).waits
  · obtain ⟨rules, world⟩ := waitNextEvent_exit_eq undisturbed exits
    obtain ⟨returned, silent⟩ := (waitNextEvent_exit_iff undisturbed).mp exits
    have quiet := setUp_quiet (allRules_apart.sublist between.within) returned silent
    have idle : ∀ id ∈ waited.1, (rule id).interest waited.2.1 = false := by
      intro id member
      have same : waited.2.1 = _ := world
      rw [same]
      exact quiet id (rules ▸ member)
    rcases after.finished idle flow with isShutdown | gone
    · exact .inl ⟨isShutdown, (after.holds.holds.channel flow).all_sent isShutdown⟩
    · exact .inr gone
  · exact waitNextEvent_idle (serves.setUp holds) (between.exits answers finished)

theorem farewell_honest : farewell.Honest where
  inputRead size := ⟨[], rfl, Nat.zero_le size⟩
  socketWrite size := ⟨size, rfl, Nat.le_refl size, id⟩
  socketShutdown := rfl
  socketRead size := ⟨[], rfl, Nat.zero_le size⟩
  outputWrite size := ⟨size, rfl, Nat.le_refl size, id⟩
  outputClose := rfl

theorem copy_returns_when_done_greeting :
    let copy := greetingRun.foldl step (allRules, { kernel := greeting })
    copy.2.socket.sent = [104, 105] ∧ (wait copy (.timeout, farewell)).2.2 = .ok .exit := by
  obtain ⟨-, -, exits⟩ :=
    copy_returns_when_done greeting greetingRun .timeout farewell trivial farewell_honest
  exact ⟨by decide +kernel, exits fun flow => by cases flow <;> decide +kernel⟩

end StreamCopy

end Sponge
