import Mathlib.Data.List.TakeWhile
import Sponge.Shared.Chain
import Sponge.TCPSender

set_option autoImplicit false

namespace Sponge.TCPSender

open Shared

/-- What the sender may put at the absolute number `start`: the SYN at 0, and after it the accepted bytes from `start
- 1` on, with the FIN only once they are all sent and no more can come. -/
structure SentAt (isn : WrappingInt32) (accepted : Bytes) (ended : Bool) (start : Nat) (seg : TCPSegment) :
    Prop where
  seqno : seg.header.seqno = wrap start isn
  mark : seg.header.ackno = wrap (start + seg.lengthInSequenceSpace) isn
  occupies : 1 ≤ seg.lengthInSequenceSpace
  flags : seg.header.ack = seg.header.fin ∧ seg.header.rst = false
  opening : start = 0 → seg.header.syn = true ∧ seg.payload = [] ∧ seg.header.fin = false
  plain : start ≠ 0 → seg.header.syn = false
  short : seg.payload.length ≤ TCPConfig.maxPayloadSize
  inside : start - 1 ≤ accepted.length
  excerpt : seg.payload <+: accepted.drop (start - 1)
  closing : seg.header.fin = true → start - 1 + seg.payload.length = accepted.length ∧ ended = true

abbrev Tiles (isn : WrappingInt32) (accepted : Bytes) (ended : Bool) : Nat → List TCPSegment → Nat → Prop :=
  Chain TCPSegment.lengthInSequenceSpace (SentAt isn accepted ended)

section SentAt

variable {isn : WrappingInt32} {accepted : Bytes} {ended : Bool} {start : Nat} {seg : TCPSegment}

theorem SentAt.extend (sent : SentAt isn accepted ended start seg) (unfinished : seg.header.fin = false)
    (more : Bytes) (ended' : Bool) : SentAt isn (accepted ++ more) ended' start seg :=
  { sent with
    inside := by have := sent.inside; rw [List.length_append]; omega
    excerpt := sent.excerpt.trans ((List.prefix_append accepted more).drop _)
    closing := fun fin => by simp [unfinished] at fin }

theorem SentAt.grow (sent : SentAt isn accepted false start seg) (more : Bytes) :
    SentAt isn (accepted ++ more) ended start seg := by
  refine sent.extend ?_ more ended
  by_contra fin
  simpa using (sent.closing (by simpa using fin)).2

theorem SentAt.close (sent : SentAt isn accepted ended start seg) : SentAt isn accepted true start seg :=
  { sent with closing := fun fin => ⟨(sent.closing fin).1, rfl⟩ }

theorem SentAt.stop_le_fin (sent : SentAt isn accepted ended start seg) :
    start + seg.lengthInSequenceSpace ≤ accepted.length + 1 + if seg.header.fin then 1 else 0 := by
  have length := sent.excerpt.length_le
  have inside := sent.inside
  rw [List.length_drop] at length
  unfold TCPSegment.lengthInSequenceSpace
  by_cases first : start = 0
  · obtain ⟨syn, bare, more⟩ := sent.opening first
    simp only [syn, bare, more, first]
    simp
  · rw [sent.plain first]
    cases seg.header.fin <;> simp <;> omega

theorem SentAt.stop_le (sent : SentAt isn accepted ended start seg) :
    start + seg.lengthInSequenceSpace ≤ accepted.length + 2 := by
  have := sent.stop_le_fin
  split at this <;> omega

theorem SentAt.fin_of_stop (sent : SentAt isn accepted ended start seg)
    (stop : start + seg.lengthInSequenceSpace = accepted.length + 2) : seg.header.fin = true := by
  have past := sent.stop_le_fin
  by_contra unfinished
  rw [if_neg unfinished] at past
  omega

theorem SentAt.stop_of_fin (sent : SentAt isn accepted ended start seg) (fin : seg.header.fin = true) :
    start + seg.lengthInSequenceSpace = accepted.length + 2 := by
  have positive : start ≠ 0 := fun first => by simp [(sent.opening first).2.2] at fin
  have := (sent.closing fin).1
  simp only [TCPSegment.lengthInSequenceSpace, sent.plain positive, fin]
  simp
  omega

theorem SentAt.unfinished (sent : SentAt isn accepted ended start seg)
    (before : start + seg.lengthInSequenceSpace < accepted.length + 2) : seg.header.fin = false := by
  by_contra fin
  have := sent.stop_of_fin (by simpa using fin)
  omega

end SentAt

structure Emits (new : List TCPSegment) (s s' : TCPSender) : Prop where
  out : s'.segmentsOut = s.segmentsOut ++ new
  tracking : s'.trackingSegments = new.reverse ++ s.trackingSegments
  isn : s'.isn = s.isn
  nextAckno : s'.nextAckno = s.nextAckno
  windowSize : s'.windowSize = s.windowSize
  remain : s'.remainWindowSize ≤ s.remainWindowSize
  ended : s'.stream.isEnded = s.stream.isEnded

theorem emits_nothing (s : TCPSender) : Emits [] s s := by
  constructor <;> simp

theorem Emits.trans {new later : List TCPSegment} {s t u : TCPSender} (first : Emits new s t)
    (second : Emits later t u) : Emits (new ++ later) s u := by
  constructor
  · rw [second.out, first.out, List.append_assoc]
  · rw [second.tracking, first.tracking, List.reverse_append, List.append_assoc]
  · rw [second.isn, first.isn]
  · rw [second.nextAckno, first.nextAckno]
  · rw [second.windowSize, first.windowSize]
  · exact le_trans second.remain first.remain
  · rw [second.ended, first.ended]

-- `acked` and then the tracked segments, oldest first, are everything the sender ever made.
structure Tiled (accepted : Bytes) (acked : List TCPSegment) (s : TCPSender) : Prop where
  retired : Tiles s.isn accepted s.stream.isEnded 0 acked s.nextAckno
  outstanding : Tiles s.isn accepted s.stream.isEnded s.nextAckno s.trackingSegments.reverse s.nextSeqno
  count : s.nextAckno + s.trackedCount = s.nextSeqno
  near : s.nextSeqno ≤ s.nextAckno + 2 ^ 16
  written : s.stream.writtenLength = accepted.length
  buffer : s.stream.buffer = accepted.drop (s.nextSeqno - 1)
  last : s.nextSeqno ≤ accepted.length + 2
  closed : s.nextSeqno = accepted.length + 2 → s.stream.isEnded = true
  windowWord : s.windowSize < 2 ^ 16
  remainWord : s.remainWindowSize < 2 ^ 16

theorem tiled_new (capacity : Nat) (retxTimeout : UInt16) (fixedIsn : Option WrappingInt32)
    (randomIsn : WrappingInt32) : Tiled [] [] (new capacity retxTimeout fixedIsn randomIsn) := by
  constructor
  case retired => exact .nil 0
  case outstanding => exact .nil 0
  all_goals simp [new]

namespace Tiled

variable {accepted : Bytes} {acked : List TCPSegment} {s : TCPSender}

theorem bufferSize (tiled : Tiled accepted acked s) :
    s.stream.bufferSize = accepted.length - (s.nextSeqno - 1) := by
  rw [ByteStream.bufferSize, tiled.buffer, List.length_drop]

theorem write_unsent (tiled : Tiled accepted acked s) (unsent : s.nextSeqno ≠ accepted.length + 2) (data : Bytes) :
    Tiled (accepted ++ data.take (s.stream.appendLength data)) acked { s with stream := s.stream.append data } := by
  have last := tiled.last
  have forward := tiled.outstanding.le
  have grow (stop : Nat) (before : stop ≤ s.nextSeqno) (position : Nat) (seg : TCPSegment)
      (inside : position + seg.lengthInSequenceSpace ≤ stop)
      (sent : SentAt s.isn accepted s.stream.isEnded position seg) :
      SentAt s.isn (accepted ++ data.take (s.stream.appendLength data)) s.stream.isEnded position seg :=
    sent.extend (sent.unfinished (by omega)) _ _
  have length : (data.take (s.stream.appendLength data)).length = s.stream.appendLength data := by
    rw [List.length_take]
    exact Nat.min_eq_left (s.stream.appendLength_le data).2
  constructor
  case retired => exact tiled.retired.mono_within (grow _ forward)
  case outstanding => exact tiled.outstanding.mono_within (grow _ le_rfl)
  case count => exact tiled.count
  case near => exact tiled.near
  case written => simp [tiled.written, length]
  case buffer =>
    simp only [ByteStream.append_buffer, tiled.buffer,
      List.drop_append_of_le_length (show s.nextSeqno - 1 ≤ accepted.length by omega)]
  case last => simp only [List.length_append]; omega
  case closed => simp only [List.length_append]; omega
  case windowWord => exact tiled.windowWord
  case remainWord => exact tiled.remainWord

theorem write (tiled : Tiled accepted acked s) (open_ : s.stream.isEnded = false) (data : Bytes) :
    Tiled (accepted ++ data.take (s.stream.appendLength data)) acked { s with stream := s.stream.append data } :=
  tiled.write_unsent (fun closed => by simp [tiled.closed closed] at open_) data

theorem endInput (tiled : Tiled accepted acked s) :
    Tiled accepted acked { s with stream := s.stream.endInput } :=
  { tiled with
    retired := tiled.retired.mono fun _ _ _ sent => sent.close
    outstanding := tiled.outstanding.mono fun _ _ _ sent => sent.close
    closed := fun _ => rfl }

theorem emitted (tiled : Tiled accepted acked s) {seg : TCPSegment} {s' : TCPSender}
    (emits : Emits [seg] s s') (sent : SentAt s.isn accepted s.stream.isEnded s.nextSeqno seg)
    (nextSeqno : s'.nextSeqno = s.nextSeqno + seg.lengthInSequenceSpace)
    (count : s'.trackedCount = s.trackedCount + seg.lengthInSequenceSpace)
    (near : s'.nextSeqno ≤ s.nextAckno + 2 ^ 16)
    (written : s'.stream.writtenLength = accepted.length)
    (buffer : s'.stream.buffer = accepted.drop (s'.nextSeqno - 1))
    (closed : s'.nextSeqno = accepted.length + 2 → s.stream.isEnded = true) : Tiled accepted acked s' where
  retired := by rw [emits.isn, emits.ended, emits.nextAckno]; exact tiled.retired
  outstanding := by
    rw [emits.isn, emits.ended, emits.nextAckno, emits.tracking, nextSeqno]
    simpa using tiled.outstanding.snoc sent
  count := by have := tiled.count; rw [emits.nextAckno]; omega
  near := by rw [emits.nextAckno]; exact near
  written := written
  buffer := buffer
  last := by rw [nextSeqno]; exact sent.stop_le
  closed := by rw [emits.ended]; exact closed
  windowWord := by rw [emits.windowSize]; exact tiled.windowWord
  remainWord := lt_of_le_of_lt emits.remain tiled.remainWord

end Tiled

section NextSegment

variable (s : TCPSender)

theorem readSize_le : s.readSize ≤ s.stream.bufferSize ∧
    s.readSize ≤ s.nextAckno + s.remainWindowSize - s.nextSeqno ∧ s.readSize ≤ TCPConfig.maxPayloadSize := by
  unfold readSize nextSeqnoAbsolute
  split <;> omega

theorem readPayload_eq :
    s.readPayload = (s.stream.buffer.take s.readSize, s.stream.popOutput s.readSize) := by
  have bound := s.readSize_le.1
  unfold readPayload
  split
  next =>
    rw [← ByteStream.read_snd, ByteStream.read, if_neg (by omega), ByteStream.peekOutput, if_neg (by omega)]
  next nothing =>
    rw [not_not] at nothing
    simp [nothing, ByteStream.popOutput]

theorem readPayload_buffer : s.readPayload.2.buffer = s.stream.buffer.drop s.readSize := by
  have bound := s.readSize_le.1
  rw [readPayload_eq, ByteStream.popOutput_buffer, if_neg (by omega)]

theorem nextSegment_payload : s.nextSegment.payload = s.stream.buffer.take s.readSize := by
  simp [nextSegment, readPayload_eq]

theorem nextSegment_fin : s.nextSegment.header.fin = true ↔
    s.readSize < s.remainWindowSize ∧ s.stream.isEnded = true ∧ s.stream.bufferSize = s.readSize := by
  have bound := s.readSize_le.1
  have drained : s.readPayload.2.eof = true ↔ s.stream.isEnded = true ∧ s.stream.bufferSize = s.readSize := by
    rw [ByteStream.eof, ByteStream.inputEnded, ByteStream.bufferEmpty, readPayload_buffer, readPayload_eq,
      ByteStream.popOutput_isEnded]
    simp only [Bool.and_eq_true, List.isEmpty_iff, List.drop_eq_nil_iff]
    exact and_congr_right fun _ => by unfold ByteStream.bufferSize at bound ⊢; omega
  simp [nextSegment, drained]

theorem nextSegment_length : s.nextSegment.lengthInSequenceSpace =
    s.readSize + if s.nextSegment.header.fin then 1 else 0 := by
  have bound := s.readSize_le.1
  have syn : s.nextSegment.header.syn = false := rfl
  rw [TCPSegment.lengthInSequenceSpace, nextSegment_payload, syn, List.length_take,
    Nat.min_eq_left (by simpa [ByteStream.bufferSize] using bound)]
  simp

theorem nextSegment_mark :
    s.nextSegment.header.ackno = wrap (s.nextSeqno + s.nextSegment.lengthInSequenceSpace) s.isn := by
  rw [← wrap_advance]
  rfl

theorem sendNext_emits : Emits [s.nextSegment] s s.sendNext where
  out := rfl
  tracking := rfl
  isn := rfl
  nextAckno := rfl
  windowSize := rfl
  remain := by
    simp only [sendNext]
    split <;> omega
  ended := by
    simp only [sendNext, emit, readPayload_eq]
    exact ByteStream.popOutput_isEnded ..

theorem sendNext_bufferSize : s.sendNext.stream.bufferSize = s.stream.bufferSize - s.readSize := by
  have buffer : s.sendNext.stream.buffer = s.stream.buffer.drop s.readSize := s.readPayload_buffer
  rw [ByteStream.bufferSize, buffer, List.length_drop]
  rfl

theorem sendSyn_emits : Emits [s.synSegment] s s.sendSyn where
  out := rfl
  tracking := rfl
  isn := rfl
  nextAckno := rfl
  windowSize := rfl
  remain := le_rfl
  ended := rfl

theorem fillLoop_emits (rounds : Nat) : ∃ new, Emits new s (loop canSend sendNext rounds s) := by
  apply loop_invariant canSend sendNext fun s' => ∃ new, Emits new s s'
  · rintro t _ ⟨new, emits⟩
    exact ⟨_, emits.trans t.sendNext_emits⟩
  · exact ⟨[], emits_nothing s⟩

theorem fillWindow_invariant (inv : TCPSender → Prop) (before : inv s) (syn : inv s.sendSyn)
    (round : ∀ t : TCPSender, inv t → inv t.sendNext) : inv s.fillWindow := by
  simp only [fillWindow]
  split
  · exact syn
  · exact before
  · exact loop_invariant canSend sendNext inv (fun t _ => round t) s.rounds s before

theorem fillWindow_nextSeqno_le : s.nextSeqno ≤ s.fillWindow.nextSeqno := by
  apply s.fillWindow_invariant fun t => s.nextSeqno ≤ t.nextSeqno
  · exact le_rfl
  · exact Nat.le_add_right ..
  · exact fun t before => before.trans (Nat.le_add_right ..)

theorem fillWindow_sent (sent : s.nextSeqno ≠ 0) : s.fillWindow.nextSeqno ≠ 0 := by
  have := s.fillWindow_nextSeqno_le
  omega

theorem fillWindow_opens : 0 < s.fillWindow.nextSeqno := by
  by_cases fresh : s.nextSeqno = 0
  · simp [fillWindow, currentState, nextSeqnoAbsolute, fresh, sendSyn, emit, synSegment,
      TCPSegment.lengthInSequenceSpace]
  · exact Nat.pos_of_ne_zero (s.fillWindow_sent fresh)

theorem fillWindow_hasError (error : s.stream.hasError = true) : s.fillWindow.stream.hasError = true := by
  apply s.fillWindow_invariant fun t => t.stream.hasError = true
  · exact error
  · exact error
  · intro t kept
    simpa [sendNext, emit, readPayload_eq] using t.stream.popOutput_hasError t.readSize kept

end NextSegment

namespace Tiled

variable {accepted : Bytes} {acked : List TCPSegment} {s : TCPSender}

-- The derived state in terms of the tiling: the last branch of `currentState` is never taken.
theorem currentState_opened (tiled : Tiled accepted acked s) (opened : 0 < s.nextAckno) :
    s.currentState ≠ .closed ∧ s.currentState ≠ .synSent ∧
      (s.currentState = .synAckedEof ↔ s.stream.eof = true ∧ s.nextSeqno < accepted.length + 2) := by
  have count := tiled.count
  have last := tiled.last
  have := tiled.outstanding.le
  unfold currentState nextSeqnoAbsolute bytesInFlight ByteStream.bytesWritten
  rw [tiled.written, if_neg (by omega), if_neg (by omega)]
  cases s.stream.eof with
  | false => simp [show s.trackedCount < s.nextSeqno by omega]
  | true =>
      by_cases unsent : s.nextSeqno < accepted.length + 2
      · simp [unsent]
      · have sent : s.nextSeqno = accepted.length + 2 := by omega
        rcases Nat.eq_zero_or_pos s.trackedCount with none | some <;> simp [*]

theorem fillWindow_eq (tiled : Tiled accepted acked s) :
    s.fillWindow = if s.nextSeqno = 0 then s.sendSyn
      else if s.nextAckno = 0 then s else loop canSend sendNext s.rounds s := by
  have count := tiled.count
  unfold fillWindow
  split_ifs with fresh unacked
  · simp [currentState, nextSeqnoAbsolute, fresh]
  · have state : s.currentState = .synSent := by
      unfold currentState nextSeqnoAbsolute bytesInFlight
      rw [if_neg fresh, if_pos (by omega)]
    rw [state]
  · obtain ⟨open_, acked, _⟩ := tiled.currentState_opened (by omega)
    cases state : s.currentState <;> simp_all

theorem canSend_iff (tiled : Tiled accepted acked s) (opened : 0 < s.nextAckno) :
    s.canSend = true ↔ s.nextSeqno < s.nextAckno + s.remainWindowSize ∧
      (s.nextSeqno ≤ accepted.length ∨ s.stream.isEnded = true ∧ s.nextSeqno = accepted.length + 1) := by
  have := tiled.outstanding.le
  have nothing : s.stream.buffer = [] ↔ accepted.length < s.nextSeqno := by
    rw [tiled.buffer, List.drop_eq_nil_iff]
    omega
  simp only [canSend, (tiled.currentState_opened opened).2.2, ByteStream.eof, ByteStream.inputEnded,
    ByteStream.bufferEmpty, Bool.and_eq_true, Bool.or_eq_true, Bool.not_eq_true', decide_eq_true_eq,
    List.isEmpty_eq_false_iff, List.isEmpty_iff, nothing, ne_eq]
  refine and_congr Iff.rfl ?_
  constructor
  · rintro (unsent | ⟨⟨ended, sent⟩, more⟩)
    · omega
    · exact Or.inr ⟨ended, by omega⟩
  · rintro (unsent | ⟨ended, sent⟩)
    · omega
    · exact Or.inr ⟨⟨ended, by omega⟩, by omega⟩

theorem nextSegment_bounds (tiled : Tiled accepted acked s) (opened : 0 < s.nextAckno)
    (running : s.canSend = true) :
    1 ≤ s.nextSegment.lengthInSequenceSpace ∧
      s.nextSeqno + s.nextSegment.lengthInSequenceSpace ≤ s.nextAckno + s.remainWindowSize + 1 := by
  obtain ⟨room, unsent⟩ := (tiled.canSend_iff opened).mp running
  have := tiled.outstanding.le
  have size := tiled.bufferSize
  have read : s.readSize = min (min s.stream.bufferSize (s.nextAckno + s.remainWindowSize - s.nextSeqno)) 1000 := by
    unfold readSize nextSeqnoAbsolute TCPConfig.maxPayloadSize
    split <;> omega
  have length := s.nextSegment_length
  constructor
  · rcases unsent with unsent | ⟨ended, sent⟩
    · omega
    · have fin := s.nextSegment_fin.mpr ⟨by omega, ended, by omega⟩
      rw [length, fin]
      simp
  · rw [length]
    split <;> omega

theorem nextSegment_sent (tiled : Tiled accepted acked s) (opened : 0 < s.nextAckno)
    (running : s.canSend = true) :
    SentAt s.isn accepted s.stream.isEnded s.nextSeqno s.nextSegment := by
  obtain ⟨_, unsent⟩ := (tiled.canSend_iff opened).mp running
  have := tiled.outstanding.le
  have size := tiled.bufferSize
  have bounds := s.readSize_le
  have length : s.nextSegment.payload.length = s.readSize := by
    rw [nextSegment_payload, List.length_take]
    exact Nat.min_eq_left bounds.1
  constructor
  case seqno => rfl
  case mark => exact s.nextSegment_mark
  case occupies => exact (tiled.nextSegment_bounds opened running).1
  case flags => exact ⟨rfl, rfl⟩
  case opening => omega
  case plain => exact fun _ => rfl
  case short => rw [length]; exact bounds.2.2
  case inside => omega
  case excerpt => rw [nextSegment_payload, ← tiled.buffer]; exact List.take_prefix _ _
  case closing =>
    intro fin
    obtain ⟨_, ended, drained⟩ := s.nextSegment_fin.mp fin
    exact ⟨by omega, ended⟩

theorem sendNext (tiled : Tiled accepted acked s) (opened : 0 < s.nextAckno)
    (running : s.canSend = true) : Tiled accepted acked s.sendNext := by
  have sent := tiled.nextSegment_sent opened running
  have bounds := tiled.nextSegment_bounds opened running
  have := tiled.outstanding.le
  have remain := tiled.remainWord
  have size := tiled.bufferSize
  have length := s.nextSegment_length
  have inside := sent.inside
  have read := s.readSize_le.1
  apply tiled.emitted s.sendNext_emits sent rfl rfl
  case near => simp only [TCPSender.sendNext, emit]; omega
  case written => simp [TCPSender.sendNext, emit, readPayload_eq, tiled.written]
  case buffer =>
    simp only [TCPSender.sendNext, emit, readPayload_buffer, tiled.buffer, List.drop_drop]
    by_cases fin : s.nextSegment.header.fin = true
    · obtain ⟨_, _, drained⟩ := s.nextSegment_fin.mp fin
      rw [List.drop_eq_nil_of_le (by omega), List.drop_eq_nil_of_le (by omega)]
    · rw [length, if_neg fin]
      congr 1
      omega
  case closed =>
    simp only [TCPSender.sendNext, emit]
    intro done
    by_cases fin : s.nextSegment.header.fin = true
    · exact (sent.closing fin).2
    · rw [length, if_neg fin] at done
      omega

theorem sendSyn (tiled : Tiled accepted acked s) (fresh : s.nextSeqno = 0) :
    Tiled accepted acked s.sendSyn := by
  have := tiled.outstanding.le
  have sent : SentAt s.isn accepted s.stream.isEnded s.nextSeqno s.synSegment := by
    constructor
    all_goals simp [synSegment, fresh, TCPSegment.lengthInSequenceSpace]
  have length : s.synSegment.lengthInSequenceSpace = 1 := rfl
  apply tiled.emitted s.sendSyn_emits sent rfl rfl
  case near => simp only [TCPSender.sendSyn, emit, length]; omega
  case written => exact tiled.written
  case buffer => simpa [TCPSender.sendSyn, emit, length, fresh] using tiled.buffer
  case closed => simp only [TCPSender.sendSyn, emit, length]; omega

theorem fillLoop (tiled : Tiled accepted acked s) (opened : 0 < s.nextAckno) (rounds : Nat) :
    ∃ new, Emits new s (loop canSend TCPSender.sendNext rounds s) ∧
      Tiled accepted acked (loop canSend TCPSender.sendNext rounds s) := by
  apply loop_invariant canSend TCPSender.sendNext fun s' => ∃ new, Emits new s s' ∧ Tiled accepted acked s'
  · rintro t running ⟨new, emits, tiled'⟩
    exact ⟨_, emits.trans t.sendNext_emits, tiled'.sendNext (by rw [emits.nextAckno]; exact opened) running⟩
  · exact ⟨[], emits_nothing s, tiled⟩

theorem fillWindow (tiled : Tiled accepted acked s) :
    ∃ new, Emits new s s.fillWindow ∧ Tiled accepted acked s.fillWindow := by
  rw [tiled.fillWindow_eq]
  split_ifs with fresh unacked
  · exact ⟨_, s.sendSyn_emits, tiled.sendSyn fresh⟩
  · exact ⟨[], emits_nothing s, tiled⟩
  · exact tiled.fillLoop (by omega) _

theorem rounds_sendNext (tiled : Tiled accepted acked s) (opened : 0 < s.nextAckno)
    (running : s.canSend = true) : s.sendNext.rounds < s.rounds := by
  obtain ⟨_, unsent⟩ := (tiled.canSend_iff opened).mp running
  have after := tiled.sendNext opened running
  have size := tiled.bufferSize
  have size' := after.bufferSize
  have nextSeqno : s.sendNext.nextSeqno = s.nextSeqno + s.nextSegment.lengthInSequenceSpace := rfl
  have longer := (tiled.nextSegment_bounds opened running).1
  have written := tiled.written
  have written' := after.written
  simp only [rounds, ByteStream.bytesWritten]
  omega

-- The loop of `fillWindow` ends by its own condition, not by the count of its rounds.
theorem fillWindow_exits (tiled : Tiled accepted acked s) (opened : 0 < s.nextAckno) :
    s.fillWindow.canSend = false := by
  have := tiled.outstanding.le
  rw [tiled.fillWindow_eq, if_neg (by omega), if_neg (by omega)]
  apply loop_exits canSend TCPSender.sendNext (fun t => Tiled accepted acked t ∧ 0 < t.nextAckno) rounds
  · rintro t running ⟨tiled, opened⟩
    exact ⟨tiled.sendNext opened running, opened⟩
  · rintro t running ⟨tiled, opened⟩
    exact tiled.rounds_sendNext opened running
  · exact ⟨tiled, opened⟩
  · exact le_rfl

theorem tracking_of_idle (tiled : Tiled accepted acked s) (idle : s.trackedCount = 0) : s.trackingSegments = [] := by
  have count := tiled.count
  have outstanding := tiled.outstanding
  rw [← List.reverse_eq_nil_iff]
  cases segs : s.trackingSegments.reverse with
  | nil => rfl
  | cons first rest =>
      rw [segs] at outstanding
      cases outstanding with
      | cons sent later =>
          have := sent.occupies
          have := later.le
          omega

end Tiled

section Acknowledge

variable {accepted : Bytes} {acked : List TCPSegment} {s : TCPSender} {ackno : WrappingInt32}

theorem remaining_of_unmatched (none : s.matched ackno = false) : s.remaining ackno = s.trackingSegments := by
  unfold remaining
  rw [List.takeWhile_eq_self_iff]
  intro seg member
  simpa using List.any_eq_false.mp none seg member

theorem matched_split (found : s.matched ackno = true) :
    ∃ seg older, s.trackingSegments = s.remaining ackno ++ seg :: older ∧ seg.header.ackno = ackno := by
  have aux (segs : List TCPSegment) (found : (segs.any fun seg => seg.header.ackno == ackno) = true) :
      ∃ seg older, segs = (segs.takeWhile fun seg => seg.header.ackno != ackno) ++ seg :: older ∧
        seg.header.ackno = ackno := by
    induction segs with
    | nil => simp at found
    | cons first rest ih =>
        by_cases here : first.header.ackno = ackno
        · exact ⟨first, rest, by simp [here], here⟩
        · obtain ⟨seg, older, split, mark⟩ := ih (by simpa [here] using found)
          refine ⟨seg, older, ?_, mark⟩
          rw [List.takeWhile_cons, if_pos (by simp [here]), List.cons_append, ← split]
  exact aux s.trackingSegments found

@[simp] theorem sequenceLength_reverse (segs : List TCPSegment) :
    sequenceLength segs.reverse = sequenceLength segs := by
  simp [sequenceLength, List.map_reverse, List.sum_reverse]

theorem noteWindow_frame (s : TCPSender) (ackno : WrappingInt32) (windowSize : UInt16) :
    s.noteWindow ackno windowSize = { s with windowSize := (s.noteWindow ackno windowSize).windowSize } := by
  unfold noteWindow
  dsimp only
  split <;> rfl

theorem ackReceived_frame (s : TCPSender) (ackno : WrappingInt32) (windowSize : UInt16) :
    (s.ackReceived ackno windowSize).isn = s.isn ∧ (s.ackReceived ackno windowSize).stream = s.stream ∧
      (s.ackReceived ackno windowSize).segmentsOut = s.segmentsOut ∧
      (s.ackReceived ackno windowSize).nextSeqno = s.nextSeqno := by
  simp only [ackReceived, retire]
  rw [noteWindow_frame]
  split_ifs <;> simp

theorem ackReceived_trackedCount (s : TCPSender) (ackno : WrappingInt32) (windowSize : UInt16) :
    (s.ackReceived ackno windowSize).trackedCount = sequenceLength (s.remaining ackno) := by
  simp only [TCPSender.ackReceived]
  split
  next same => exact same.1
  next => rfl

theorem retire_trackingSegments (s : TCPSender) (ackno : WrappingInt32) :
    (s.retire ackno).trackingSegments = s.remaining ackno := by
  cases found : s.matched ackno with
  | true => simp [retire, found]
  | false => simp [retire, found, remaining_of_unmatched found]

theorem ackReceived_trackingSegments (s : TCPSender) (ackno : WrappingInt32) (windowSize : UInt16) :
    (s.ackReceived ackno windowSize).trackingSegments = s.remaining ackno := by
  have tracking := (s.noteWindow ackno windowSize).retire_trackingSegments ackno
  have same : (s.noteWindow ackno windowSize).remaining ackno = s.remaining ackno := by rw [noteWindow_frame]; rfl
  simp only [ackReceived]
  split <;> exact tracking.trans same

theorem ackReceived_unmatched (counted : s.trackedCount = sequenceLength s.trackingSegments)
    (none : s.matched ackno = false) (windowSize : UInt16) :
    s.ackReceived ackno windowSize =
      { s.noteWindow ackno windowSize with
        remainWindowSize :=
          if s.startsBefore ackno = true then s.remainWindowSize
          else if (s.noteWindow ackno windowSize).windowSize = 0 ∧ s.trackedCount = 0 then 1
          else (s.noteWindow ackno windowSize).windowSize } := by
  have length : sequenceLength (s.remaining ackno) = s.trackedCount := by
    rw [remaining_of_unmatched none, counted]
  have idle : (s.noteWindow ackno windowSize).retire ackno = s.noteWindow ackno windowSize := by
    have same : (s.noteWindow ackno windowSize).matched ackno = false := by
      rw [noteWindow_frame]
      exact none
    rw [retire, same, if_neg (by simp)]
  simp only [ackReceived, length, idle]
  rw [noteWindow_frame]
  have same : startsBefore { s with windowSize := (s.noteWindow ackno windowSize).windowSize } ackno =
      s.startsBefore ackno := rfl
  rw [same]
  cases s.startsBefore ackno <;> simp

theorem Tiled.counted (tiled : Tiled accepted acked s) : s.trackedCount = sequenceLength s.trackingSegments := by
  have total := tiled.outstanding.total
  have count := tiled.count
  rw [← sequenceLength_reverse, sequenceLength]
  omega

theorem Tiled.ackReceived_unmatched (tiled : Tiled accepted acked s) (none : s.matched ackno = false)
    (windowSize : UInt16) :
    s.ackReceived ackno windowSize =
      { s.noteWindow ackno windowSize with
        remainWindowSize :=
          if s.startsBefore ackno = true then s.remainWindowSize
          else if (s.noteWindow ackno windowSize).windowSize = 0 ∧ s.trackedCount = 0 then 1
          else (s.noteWindow ackno windowSize).windowSize } :=
  TCPSender.ackReceived_unmatched tiled.counted none windowSize

theorem Tiled.oldest (tiled : Tiled accepted acked s) {oldest : TCPSegment}
    (last : s.trackingSegments.getLast? = some oldest) :
    SentAt s.isn accepted s.stream.isEnded s.nextAckno oldest := by
  have here : s.trackingSegments.reverse[0]? = some oldest := by
    rw [← List.head?_eq_getElem?, List.head?_reverse, last]
  simpa using tiled.outstanding.getElem? here

theorem Tiled.matched_position (tiled : Tiled accepted acked s) (found : s.matched ackno = true) :
    ∃ older position, s.trackingSegments = s.remaining ackno ++ older ∧
      Tiles s.isn accepted s.stream.isEnded s.nextAckno older.reverse position ∧
      Tiles s.isn accepted s.stream.isEnded position (s.remaining ackno).reverse s.nextSeqno ∧
      s.nextAckno < position ∧ ackno = wrap position s.isn := by
  obtain ⟨seg, older, split, mark⟩ := matched_split found
  have outstanding := tiled.outstanding
  rw [split, List.reverse_append] at outstanding
  obtain ⟨position, old, new⟩ := outstanding.split
  refine ⟨seg :: older, position, split, old, new, ?_⟩
  rw [List.reverse_cons] at old
  obtain ⟨start, before, sent, stop⟩ := old.unsnoc
  have := before.le
  have := sent.occupies
  exact ⟨by omega, by rw [← mark, sent.mark, stop]⟩

theorem Tiled.remaining_nextSeqno (tiled : Tiled accepted acked s) : s.remaining (wrap s.nextSeqno s.isn) = [] := by
  have outstanding := tiled.outstanding
  cases tracked : s.trackingSegments with
  | nil => simp [remaining, tracked]
  | cons newest older =>
      rw [tracked, List.reverse_cons] at outstanding
      obtain ⟨start, _, sent, stop⟩ := outstanding.unsnoc
      have mark : newest.header.ackno = wrap s.nextSeqno s.isn := by rw [sent.mark, stop]
      simp [remaining, tracked, mark]

theorem Tiled.ackReceived_matched (tiled : Tiled accepted acked s) (found : s.matched ackno = true)
    (windowSize : UInt16) :
    ∃ newer older position, s.trackingSegments = newer ++ older ∧
      Tiles s.isn accepted s.stream.isEnded s.nextAckno older.reverse position ∧
      Tiles s.isn accepted s.stream.isEnded position newer.reverse s.nextSeqno ∧
      s.nextAckno < position ∧ ackno = wrap position s.isn ∧
      s.ackReceived ackno windowSize =
        { s with
          windowSize := windowSize.toNat
          nextAckno := position
          trackingSegments := newer
          consecutiveTimeOutCount := 0
          timer := 0
          retransmissionTimeout := s.initialRetransmissionTimeout
          trackedCount := s.nextSeqno - position
          remainWindowSize :=
            if windowSize.toNat = 0 ∧ s.nextSeqno - position = 0 then 1 else windowSize.toNat } := by
  obtain ⟨older, position, split, old, new, later, mark⟩ := tiled.matched_position found
  refine ⟨s.remaining ackno, older, position, split, old, new, later, mark, ?_⟩
  have near := tiled.near
  have count := tiled.count
  have := new.le
  have absolute : unwrap ackno s.isn s.nextAckno = position := by
    rw [mark]
    exact unwrap_wrap_near _ _ _ (by omega) (by omega)
  have length : sequenceLength (s.remaining ackno) = s.nextSeqno - position := by
    have total := new.total
    rw [← sequenceLength_reverse, sequenceLength]
    omega
  have noted : s.noteWindow ackno windowSize = { s with windowSize := windowSize.toNat } := by
    rw [noteWindow, absolute]
    exact if_pos (by omega)
  have retired : (s.noteWindow ackno windowSize).retire ackno =
      { s with
        windowSize := windowSize.toNat
        nextAckno := position
        trackingSegments := s.remaining ackno
        consecutiveTimeOutCount := 0
        timer := 0
        retransmissionTimeout := s.initialRetransmissionTimeout } := by
    rw [noted, retire, if_pos (by exact found)]
    simp only [absolute, Nat.max_eq_right (Nat.le_of_lt later)]
    rfl
  simp only [ackReceived, length, retired]
  rw [if_neg (by omega)]

theorem Tiled.ackReceived (tiled : Tiled accepted acked s) (ackno : WrappingInt32) (windowSize : UInt16) :
    ∃ older, Tiled accepted (acked ++ older) (s.ackReceived ackno windowSize) ∧
      older ++ (s.ackReceived ackno windowSize).trackingSegments.reverse = s.trackingSegments.reverse := by
  have word := windowSize.toNat_lt
  cases found : s.matched ackno with
  | false =>
      refine ⟨[], ?_, ?_⟩
      · rw [tiled.ackReceived_unmatched found, noteWindow_frame, List.append_nil]
        have noted : (s.noteWindow ackno windowSize).windowSize < 2 ^ 16 := by
          unfold noteWindow
          dsimp only
          split
          next => exact word
          next => exact tiled.windowWord
        exact
          { tiled with
            windowWord := noted
            remainWord := by
              dsimp only
              split_ifs
              · exact tiled.remainWord
              · omega
              · exact noted }
      · rw [tiled.ackReceived_unmatched found, noteWindow_frame]
        rfl
  | true =>
      obtain ⟨newer, older, position, split, old, new, later, mark, after⟩ :=
        tiled.ackReceived_matched found windowSize
      have := new.le
      have near := tiled.near
      refine ⟨older.reverse, ?_, by rw [after, split, List.reverse_append]⟩
      rw [after]
      exact
        { retired := tiled.retired.append old
          outstanding := new
          count := by dsimp only; omega
          near := by dsimp only; omega
          written := tiled.written
          buffer := tiled.buffer
          last := tiled.last
          closed := tiled.closed
          windowWord := word
          remainWord := by
            dsimp only
            split_ifs <;> omega }

end Acknowledge

section Tick

variable {accepted : Bytes} {acked : List TCPSegment} {s : TCPSender}

theorem startTimer_frame (s : TCPSender) (ms : Nat) :
    s.startTimer ms = { s with timer := (s.startTimer ms).timer } := by
  unfold startTimer
  split <;> rfl

theorem tick_frame (s : TCPSender) (ms : Nat) :
    s.tick ms =
      { s with
        segmentsOut := (s.tick ms).segmentsOut
        timer := (s.tick ms).timer
        retransmissionTimeout := (s.tick ms).retransmissionTimeout
        consecutiveTimeOutCount := (s.tick ms).consecutiveTimeOutCount } := by
  unfold tick
  rw [startTimer_frame]
  dsimp only
  split <;> rfl

theorem tick_segmentsOut (s : TCPSender) (ms : Nat) :
    (s.tick ms).segmentsOut = s.segmentsOut ∨
      s.trackedCount ≠ 0 ∧ (s.tick ms).segmentsOut = s.segmentsOut ++ s.trackingSegments.getLast?.toList := by
  unfold tick
  rw [startTimer_frame]
  dsimp only
  split
  next expired => exact Or.inr ⟨expired.2, rfl⟩
  next => exact Or.inl rfl

theorem Tiled.tick (tiled : Tiled accepted acked s) (ms : Nat) : Tiled accepted acked (s.tick ms) := by
  rw [tick_frame]
  exact { tiled with }

theorem Tiled.oldest_of_flight (tiled : Tiled accepted acked s) (flight : s.trackedCount ≠ 0) :
    ∃ oldest, s.trackingSegments.getLast? = some oldest := by
  have count := tiled.count
  have total := tiled.outstanding.total
  cases last : s.trackingSegments.getLast? with
  | none =>
      rw [List.getLast?_eq_none_iff] at last
      simp [last] at total
      omega
  | some oldest => exact ⟨oldest, rfl⟩

theorem Tiled.tick_out (tiled : Tiled accepted acked s) (ms : Nat) :
    (s.tick ms).segmentsOut = s.segmentsOut ∨
      ∃ oldest, s.trackingSegments.getLast? = some oldest ∧
        (s.tick ms).segmentsOut = s.segmentsOut ++ [oldest] := by
  rcases s.tick_segmentsOut ms with same | ⟨flight, sent⟩
  · exact Or.inl same
  · obtain ⟨oldest, last⟩ := tiled.oldest_of_flight flight
    exact Or.inr ⟨oldest, last, by rw [sent, last]; rfl⟩

end Tick

structure Counted (s : TCPSender) : Prop where
  flight : s.trackedCount = sequenceLength s.trackingSegments
  within : s.trackedCount ≤ s.nextSeqno

theorem counted_new (capacity : Nat) (retxTimeout : UInt16) (fixedIsn : Option WrappingInt32)
    (randomIsn : WrappingInt32) : (new capacity retxTimeout fixedIsn randomIsn).Counted := ⟨rfl, le_rfl⟩

section Counted

variable {s : TCPSender}

theorem Counted.emit (counted : s.Counted) (seg : TCPSegment) : (s.emit seg).Counted where
  flight := by
    simp only [TCPSender.emit, counted.flight, sequenceLength, List.map_cons, List.sum_cons]
    omega
  within := Nat.add_le_add_right counted.within _

theorem Counted.fillWindow (counted : s.Counted) : s.fillWindow.Counted := by
  apply s.fillWindow_invariant Counted counted
  · have emitted := counted.emit s.synSegment
    exact ⟨emitted.flight, emitted.within⟩
  · intro t before
    have emitted := Counted.emit (s := { t with stream := t.readPayload.2 }) ⟨before.flight, before.within⟩ t.nextSegment
    exact ⟨emitted.flight, emitted.within⟩

theorem Counted.remaining_le (counted : s.Counted) (ackno : WrappingInt32) :
    sequenceLength (s.remaining ackno) ≤ s.trackedCount := by
  obtain ⟨older, split⟩ : s.remaining ackno <+: s.trackingSegments := List.takeWhile_prefix _
  rw [counted.flight, ← split, sequenceLength, sequenceLength, List.map_append, List.sum_append]
  exact Nat.le_add_right ..

theorem Counted.ackReceived (counted : s.Counted) (ackno : WrappingInt32) (windowSize : UInt16) :
    (s.ackReceived ackno windowSize).Counted where
  flight := by rw [ackReceived_trackedCount, ackReceived_trackingSegments]
  within := by
    rw [ackReceived_trackedCount, (ackReceived_frame ..).2.2.2]
    exact (counted.remaining_le ackno).trans counted.within

theorem Counted.tick (counted : s.Counted) (ms : Nat) : (s.tick ms).Counted := by
  rw [tick_frame]
  exact ⟨counted.flight, counted.within⟩

end Counted

end Sponge.TCPSender
