import Sponge.ReceiverStream

set_option autoImplicit false

namespace Sponge.TCPReceiver

open Shared

def Op.Drawn (isn : WrappingInt32) (stream : Bytes) : Op → Prop
  | .segment seg => Carried isn stream seg
  | _ => True

def SynSeen (ops : List Op) : Prop := ∃ seg, Op.segment seg ∈ ops ∧ seg.header.syn = true

def FinSeen (ops : List Op) : Prop :=
  ∃ before seg after, ops = before ++ Op.segment seg :: after ∧ SynSeen before ∧ seg.header.fin = true

structure EndsAsSent (isn : WrappingInt32) (stream : Bytes) (ops : List Op) (r : TCPReceiver) : Prop where
  inputEnded : r.streamOut.inputEnded = true ↔ FinSeen ops ∧ r.streamOut.bytesWritten = stream.length
  before : SynSeen ops → ¬ (FinSeen ops ∧ r.streamOut.bytesWritten = stream.length) →
    r.ackno = some (wrap (1 + r.streamOut.bytesWritten) isn)
  after : FinSeen ops ∧ r.streamOut.bytesWritten = stream.length →
    r.ackno = some (wrap (2 + stream.length) isn)

def FinSafe (stream : Bytes) (r : TCPReceiver) : Op → Prop
  | .segment seg => seg.header.syn ≠ r.haveSYN → ¬ CutShort stream r seg
  | _ => True

instance (stream : Bytes) (r : TCPReceiver) : (op : Op) → Decidable (FinSafe stream r op)
  | .segment _ => inferInstanceAs (Decidable (_ → _))
  | .read _ | .popOutput _ => inferInstanceAs (Decidable True)

theorem synSeen_concat (ops : List Op) (op : Op) :
    SynSeen (ops ++ [op]) ↔ SynSeen ops ∨ ∃ seg, op = .segment seg ∧ seg.header.syn = true := by
  simp only [SynSeen, List.mem_append, List.mem_singleton, or_and_right, exists_or, eq_comm]

theorem finSeen_concat (ops : List Op) (op : Op) :
    FinSeen (ops ++ [op]) ↔
      FinSeen ops ∨ SynSeen ops ∧ ∃ seg, op = .segment seg ∧ seg.header.fin = true := by
  constructor
  · rintro ⟨before, seg, after, same, syn, fin⟩
    rcases List.eq_nil_or_concat after with rfl | ⟨after, last, rfl⟩
    · obtain ⟨rfl, rfl⟩ := List.append_inj' same rfl |>.imp id fun h => by simpa using h
      exact Or.inr ⟨syn, seg, rfl, fin⟩
    · rw [List.concat_eq_append, ← List.cons_append, ← List.append_assoc] at same
      obtain ⟨rfl, _⟩ := List.append_inj' same rfl
      exact Or.inl ⟨before, seg, after, rfl, syn, fin⟩
  · rintro (⟨before, seg, after, rfl, syn, fin⟩ | ⟨syn, seg, rfl, fin⟩)
    · exact ⟨before, seg, after ++ [op], by simp, syn, fin⟩
    · exact ⟨ops, seg, [], rfl, syn, fin⟩

structure Sees (ops : List Op) (r : TCPReceiver) : Prop where
  syn : r.haveSYN = true ↔ SynSeen ops
  fin : r.haveFIN = true ↔ FinSeen ops

theorem segmentReceived_flags (r : TCPReceiver) (seg : TCPSegment) :
    (r.segmentReceived seg).haveSYN = (r.haveSYN || seg.header.syn) ∧
      (r.segmentReceived seg).haveFIN = (r.haveFIN || (seg.header.syn != r.haveSYN && seg.header.fin)) := by
  by_cases same : seg.header.syn = r.haveSYN
  · simp [segmentReceived_ignored same, same]
  · rw [segmentReceived_accepted same]
    cases open_ : r.haveSYN <;> simp_all [opened]

theorem Sees.step {isn : WrappingInt32} {stream : Bytes} {ops : List Op} {r : TCPReceiver}
    (sees : Sees ops r) {op : Op} (drawn : op.Drawn isn stream) : Sees (ops ++ [op]) (r.step op) := by
  have idle (len : Nat) (quiet : ∀ seg, op ≠ .segment seg) : Sees (ops ++ [op]) (r.popOutput len) := by
    constructor
    · rw [synSeen_concat, ← sees.syn]
      simp [quiet, popOutput]
    · rw [finSeen_concat, ← sees.fin]
      simp [quiet, popOutput]
  cases op with
  | segment seg =>
      obtain ⟨syn, fin⟩ := r.segmentReceived_flags seg
      have bare : seg.header.syn = true → seg.header.fin = false := by
        cases drawn with
        | syn _ _ _ more => exact fun _ => more
        | data _ plain _ _ _ _ => simp [plain]
        | empty plain _ _ => simp [plain]
      constructor
      · rw [synSeen_concat, ← sees.syn, TCPReceiver.step, syn]
        simp
      · rw [finSeen_concat, ← sees.fin, ← sees.syn, TCPReceiver.step, fin]
        cases r.haveSYN <;> cases flag : seg.header.syn <;> simp_all
  | read len => simpa using idle len (by simp)
  | popOutput len => exact idle len (by simp)

theorem sees_run {isn : WrappingInt32} {stream : Bytes} (capacity : Nat) (ops : List Op)
    (drawn : ∀ op ∈ ops, op.Drawn isn stream) : Sees ops (ops.foldl step (new capacity)) := by
  induction ops using List.reverseRecOn with
  | nil => constructor <;> simp [new, SynSeen, FinSeen]
  | append_singleton ops op ih =>
      rw [List.foldl_append]
      exact (ih fun op member => drawn op (by simp [member])).step (drawn op (by simp))

section End

variable {isn : WrappingInt32} {stream : Bytes} {r : TCPReceiver} {a : ByteReassembler}

theorem Follows.endsAsSent_iff (follows : Follows isn stream r a) {ops : List Op} (sees : Sees ops r) :
    EndsAsSent isn stream ops r ↔ (a.ended = true ↔ r.haveFIN = true ∧ a.out.length = stream.length) := by
  have ended : r.streamOut.inputEnded = a.ended := follows.rel.ended
  have written := follows.written
  constructor
  · intro ends
    rw [← ended, ends.inputEnded, written, sees.fin]
  · intro agree
    constructor
    · rw [ended, written, agree, sees.fin]
    · rw [← sees.syn, ← sees.fin, written, ← agree]
      intro opened running
      simp [ackno, opened, ended, running, written, follows.icn opened, Nat.add_comm]
    · rw [← sees.fin, written, ← agree]
      intro finished
      obtain ⟨fin, all⟩ := agree.mp finished
      have opened : r.haveSYN = true := by
        by_contra silent
        simp [(follows.silent (by simpa using silent)).2] at fin
      simp [ackno, opened, fin, ended, finished, written, all, follows.icn opened, Nat.add_comm]

theorem Ends.pop (ends : Ends stream r a) (len : Nat) : Ends stream (r.popOutput len) (a.pop len) where
  eofAt := (a.pop_eofAt len).trans ends.eofAt
  ended := by simpa [popOutput] using ends.ended

theorem Follows.step_safe (follows : Follows isn stream r a) (short : stream.length < 2 ^ 31 - 2)
    (ends : Ends stream r a) {op : Op} (drawn : op.Drawn isn stream) (safe : FinSafe stream r op) :
    ∃ a', Follows isn stream (r.step op) a' ∧ Ends stream (r.step op) a' := by
  cases op with
  | segment seg =>
      by_cases same : seg.header.syn = r.haveSYN
      · exact ⟨a, by rwa [step, segmentReceived_ignored same], by rwa [step, segmentReceived_ignored same]⟩
      · exact ⟨_, follows.segment_safe short ends drawn same (safe same)⟩
  | read len => exact ⟨_, by simpa using follows.pop len, by simpa using ends.pop len⟩
  | popOutput len => exact ⟨_, follows.pop len, ends.pop len⟩

-- An unsafe segment ends the stream while bytes of it are still missing.
theorem Follows.step_iff (follows : Follows isn stream r a) (short : stream.length < 2 ^ 31 - 2)
    (ends : Ends stream r a) {ops : List Op} (sees : Sees ops r) {op : Op} (drawn : op.Drawn isn stream) :
    EndsAsSent isn stream (ops ++ [op]) (r.step op) ↔ FinSafe stream r op := by
  have sees' := sees.step drawn
  constructor
  · intro correct
    cases op with
    | segment seg =>
        intro differ cut
        obtain ⟨fin, nothing, missing⟩ := (follows.cutShort_iff short ends drawn differ).mp cut
        have next := follows.segment short drawn differ
        rw [fin, nothing, Bool.and_self, if_pos rfl] at next
        have := ((next.endsAsSent_iff sees').mp correct).mp rfl
        simp only at this
        omega
    | read len => trivial
    | popOutput len => trivial
  · intro safe
    obtain ⟨a', follows', ends'⟩ := follows.step_safe short ends drawn safe
    exact (follows'.endsAsSent_iff sees').mpr ends'.ended

end End

theorem run_safe {isn : WrappingInt32} {stream : Bytes} {capacity : Nat} (positive : 1 ≤ capacity)
    (short : stream.length < 2 ^ 31 - 2) (ops : List Op) (drawn : ∀ op ∈ ops, op.Drawn isn stream)
    (safe : AllAllowed step (FinSafe stream) (new capacity) ops) :
    ∃ a, Follows isn stream (ops.foldl step (new capacity)) a ∧
      Ends stream (ops.foldl step (new capacity)) a := by
  induction ops using List.reverseRecOn with
  | nil =>
      exact ⟨_, follows_new isn stream positive,
        { eofAt := rfl
          ended := by simp [new, ByteReassembler.new] }⟩
  | append_singleton ops op ih =>
      rw [allAllowed_append] at safe
      obtain ⟨a, follows, ends⟩ := ih (fun op member => drawn op (by simp [member])) safe.1
      rw [List.foldl_append]
      exact follows.step_safe short ends (drawn op (by simp)) safe.2.1

theorem ends_as_sent_iff (capacity : Nat) (positive : 1 ≤ capacity) (isn : WrappingInt32) (stream : Bytes)
    (short : stream.length < 2 ^ 31 - 2) (ops : List Op) (drawn : ∀ op ∈ ops, op.Drawn isn stream) :
    (∀ before, before <+: ops → EndsAsSent isn stream before (before.foldl step (new capacity))) ↔
      AllAllowed step (FinSafe stream) (new capacity) ops := by
  induction ops using List.reverseRecOn with
  | nil =>
      simp only [List.prefix_nil, forall_eq, AllAllowed, iff_true]
      exact ((follows_new isn stream positive).endsAsSent_iff (sees_run capacity [] drawn)).mpr
        (by simp [new, ByteReassembler.new])
  | append_singleton ops op ih =>
      have earlier : ∀ op ∈ ops, op.Drawn isn stream := fun op member => drawn op (by simp [member])
      simp only [List.prefix_concat_iff, forall_eq_or_imp, allAllowed_append, AllAllowed, and_true, ih earlier,
        List.foldl_append, List.foldl_cons, List.foldl_nil]
      rw [and_comm]
      refine and_congr_right fun safe => ?_
      obtain ⟨a, follows, ends⟩ := run_safe positive short ops earlier safe
      exact follows.step_iff short ends (sees_run capacity ops earlier) (drawn op (by simp))

def sampleDelivery : List Op :=
  [.segment sampleSyn,
    .segment { header := { seqno := wrap 2 ⟨4294967295⟩, fin := true }, payload := [2] },
    .segment (sampleData 1 [1])]

theorem sampleDelivery_drawn : ∀ op ∈ sampleDelivery, op.Drawn ⟨4294967295⟩ [1, 2] := by
  simp only [sampleDelivery, List.forall_mem_cons]
  refine ⟨.syn rfl rfl rfl rfl, .data 1 rfl rfl (by decide) (by decide) (by decide),
    .data 0 rfl rfl (by decide) (by decide) (by decide), by simp⟩

theorem ends_as_sent_iff_sample :
    EndsAsSent ⟨4294967295⟩ [1, 2] sampleDelivery (sampleDelivery.foldl step (new 2)) ∧
      (sampleDelivery.foldl step (new 2)).streamOut.inputEnded = true :=
  ⟨(ends_as_sent_iff 2 (by decide) ⟨4294967295⟩ [1, 2] (by decide) sampleDelivery sampleDelivery_drawn).mpr
    (by decide +kernel) _ (List.prefix_refl _), by decide +kernel⟩

-- The FIN of a one byte stream overtakes the byte: the stream ends empty and the whole of it is acknowledged.
def overtaken : List Op :=
  [.segment sampleSyn, .segment { header := { seqno := wrap 2 ⟨4294967295⟩, fin := true } }]

theorem overtaking_fin_ends_early :
    (∀ op ∈ overtaken, op.Drawn ⟨4294967295⟩ [1]) ∧
      (overtaken.foldl step (new 4)).streamOut.inputEnded = true ∧
      (overtaken.foldl step (new 4)).streamOut.bytesWritten = 0 ∧
      (overtaken.foldl step (new 4)).ackno = some (wrap 2 ⟨4294967295⟩) ∧
      ¬ EndsAsSent ⟨4294967295⟩ [1] overtaken (overtaken.foldl step (new 4)) := by
  refine ⟨?_, by decide +kernel, by decide +kernel, by decide +kernel, ?_⟩
  · simp only [overtaken, List.forall_mem_cons]
    exact ⟨.syn rfl rfl rfl rfl, .data 1 rfl rfl (by decide) (by decide) (by decide), by simp⟩
  · intro correct
    have all := (correct.inputEnded.mp (by decide +kernel)).2
    revert all
    decide +kernel

end Sponge.TCPReceiver
