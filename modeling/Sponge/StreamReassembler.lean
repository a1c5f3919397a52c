import Sponge.Buffer
import Sponge.Shared.Spans
import Sponge.Shared.Word64

set_option autoImplicit false

namespace Sponge

open Shared

abbrev Staged := Span UInt8

structure StreamReassembler where
  stagingList : List Staged
  stagingSize : Nat
  unassembledStartIndex : Nat
  haveEof : Bool
  eofIndex : Nat
  output : ByteStream
  capacity : Nat
  deriving DecidableEq

namespace StreamReassembler

def new (capacity : Nat) : StreamReassembler where
  stagingList := []
  stagingSize := 0
  unassembledStartIndex := 0
  haveEof := false
  eofIndex := 0
  output := .new capacity
  capacity := capacity

def eofProcess (r : StreamReassembler) : StreamReassembler :=
  if r.haveEof && decide (r.eofIndex ≤ r.unassembledStartIndex) then
    { r with output := r.output.endInput, stagingList := [], stagingSize := 0 }
  else r

def piece (data : Bytes) (index tempStart tempMaxEnd : Nat) : List Staged :=
  if tempStart ≤ tempMaxEnd then
    [{ start := tempStart
       stop := tempMaxEnd
       items := (data.drop (sub64 tempStart index)).take (tempMaxEnd - tempStart + 1) }]
  else []

def substringLength (tempStart tempMaxEnd : Nat) : Nat := tempMaxEnd + 1 - tempStart

-- The walk over `_staging_list`, with `_staging_size` carried along. Where the walk stops with
-- the rest of the list untouched the source breaks out of its loop.
def place (data : Bytes) (index maxIndex : Nat) : Nat → Nat → List Staged → Nat → List Staged × Nat
  | tempStart, tempEnd, [], size =>
      let tempMaxEnd := min tempEnd maxIndex
      (piece data index tempStart tempMaxEnd, size + substringLength tempStart tempMaxEnd)
  | tempStart, tempEnd, iter :: rest, size =>
      if tempStart < iter.start then
        let tempMaxEnd := min (min tempEnd (iter.start - 1)) maxIndex
        let nextStart := add64 iter.stop 1
        let before := piece data index tempStart tempMaxEnd
        let size := size + substringLength tempStart tempMaxEnd
        if tempEnd < nextStart then (before ++ iter :: rest, size)
        else
          let (rest, size) := place data index maxIndex nextStart tempEnd rest size
          (before ++ iter :: rest, size)
      else if tempEnd ≤ iter.stop then (iter :: rest, size)
      else
        let (rest, size) :=
          place data index maxIndex (max (add64 iter.stop 1) tempStart) tempEnd rest size
        (iter :: rest, size)

-- `data.substr` throws when its position lies past the end of `data`.
def SubstrFails (data : Bytes) (index tempStart tempMaxEnd : Nat) : Prop :=
  tempStart ≤ tempMaxEnd ∧ data.length < sub64 tempStart index

instance (data : Bytes) (index tempStart tempMaxEnd : Nat) : Decidable (SubstrFails data index tempStart tempMaxEnd) :=
  inferInstanceAs (Decidable (_ ∧ _))

def substrError : Exception := .outOfRange "basic_string::substr"

-- The walk with its throw, which leaves what was inserted before it. `place` is the walk that meets none.
def placeExcept (data : Bytes) (index maxIndex : Nat) :
    Nat → Nat → List Staged → Nat → List Staged × Nat × Except Exception Unit
  | tempStart, tempEnd, [], size =>
      let tempMaxEnd := min tempEnd maxIndex
      if SubstrFails data index tempStart tempMaxEnd then ([], size, .error substrError)
      else (piece data index tempStart tempMaxEnd, size + substringLength tempStart tempMaxEnd, .ok ())
  | tempStart, tempEnd, iter :: rest, size =>
      if tempStart < iter.start then
        let tempMaxEnd := min (min tempEnd (iter.start - 1)) maxIndex
        let nextStart := add64 iter.stop 1
        if SubstrFails data index tempStart tempMaxEnd then (iter :: rest, size, .error substrError)
        else
          let before := piece data index tempStart tempMaxEnd
          let size := size + substringLength tempStart tempMaxEnd
          if tempEnd < nextStart then (before ++ iter :: rest, size, .ok ())
          else
            let (rest, size, result) := placeExcept data index maxIndex nextStart tempEnd rest size
            (before ++ iter :: rest, size, result)
      else if tempEnd ≤ iter.stop then (iter :: rest, size, .ok ())
      else
        let (rest, size, result) :=
          placeExcept data index maxIndex (max (add64 iter.stop 1) tempStart) tempEnd rest size
        (iter :: rest, size, result)

def flush : List Staged → StreamReassembler → StreamReassembler
  | [], r => { r with stagingList := [] }
  | iter :: rest, r =>
      if iter.start = r.unassembledStartIndex then
        flush rest
          { r with
            output := (r.output.write iter.items).2
            unassembledStartIndex := add64 iter.stop 1
            stagingSize := r.stagingSize - (iter.stop - iter.start + 1) }
      else { r with stagingList := iter :: rest }

def unassembledMaxIndex (r : StreamReassembler) : Nat :=
  add64 (sub64 r.unassembledStartIndex r.output.bufferSize) (sub64 r.capacity 1)

def markEof (r : StreamReassembler) (data : Bytes) (index : Nat) (eof : Bool) : StreamReassembler :=
  if eof then { r with haveEof := true, eofIndex := add64 index data.length } else r

def stage (r : StreamReassembler) (data : Bytes) (index : Nat) : StreamReassembler :=
  let tempStart := max r.unassembledStartIndex index
  let tempEnd := sub64 (add64 index data.length) 1
  let (list, size) := place data index r.unassembledMaxIndex tempStart tempEnd r.stagingList r.stagingSize
  { r with stagingList := list, stagingSize := size }

def pushSubstring (r : StreamReassembler) (data : Bytes) (index : Nat) (eof : Bool) : StreamReassembler :=
  let r := r.markEof data index eof
  if data.length = 0 then r.eofProcess
  -- already assembled data
  else if add64 index data.length < r.unassembledStartIndex then r.eofProcess
  else
    let r := r.stage data index
    (flush r.stagingList r).eofProcess

def stageExcept (r : StreamReassembler) (data : Bytes) (index : Nat) : StreamReassembler × Except Exception Unit :=
  let tempStart := max r.unassembledStartIndex index
  let tempEnd := sub64 (add64 index data.length) 1
  let (list, size, result) :=
    placeExcept data index r.unassembledMaxIndex tempStart tempEnd r.stagingList r.stagingSize
  ({ r with stagingList := list, stagingSize := size }, result)

def pushSubstringExcept (r : StreamReassembler) (data : Bytes) (index : Nat) (eof : Bool) :
    StreamReassembler × Except Exception Unit :=
  let r := r.markEof data index eof
  if data.length = 0 then (r.eofProcess, .ok ())
  else if add64 index data.length < r.unassembledStartIndex then (r.eofProcess, .ok ())
  else
    match r.stageExcept data index with
    | (r, .error thrown) => (r, .error thrown)
    | (r, .ok ()) => ((flush r.stagingList r).eofProcess, .ok ())

section Except

theorem placeExcept_cases (data : Bytes) (index maxIndex tempStart tempEnd : Nat) (spans : List Staged) (size : Nat) :
    (placeExcept data index maxIndex tempStart tempEnd spans size).2.2 = .error substrError ∨
      placeExcept data index maxIndex tempStart tempEnd spans size =
        ((place data index maxIndex tempStart tempEnd spans size).1,
          (place data index maxIndex tempStart tempEnd spans size).2, .ok ()) := by
  induction spans generalizing tempStart size with
  | nil =>
      rw [placeExcept, place]
      dsimp only
      split
      next => exact .inl rfl
      next => exact .inr rfl
  | cons iter rest ih =>
      rw [placeExcept, place]
      dsimp only
      by_cases before : tempStart < iter.start
      · rw [if_pos before, if_pos before]
        by_cases fails : SubstrFails data index tempStart (min (min tempEnd (iter.start - 1)) maxIndex)
        · exact .inl (by rw [if_pos fails])
        · rw [if_neg fails]
          split
          next => exact .inr rfl
          next =>
            rcases ih (add64 iter.stop 1) (size + substringLength tempStart
              (min (min tempEnd (iter.start - 1)) maxIndex)) with thrown | same
            · exact .inl thrown
            · exact .inr (by rw [same])
      · rw [if_neg before, if_neg before]
        split
        next => exact .inr rfl
        next =>
          rcases ih (max (add64 iter.stop 1) tempStart) size with thrown | same
          · exact .inl thrown
          · exact .inr (by rw [same])

variable (r : StreamReassembler) (data : Bytes) (index : Nat) (eof : Bool)

theorem stageExcept_cases :
    (∃ list size, r.stageExcept data index =
        ({ r with stagingList := list, stagingSize := size }, .error substrError)) ∨
      r.stageExcept data index = (r.stage data index, .ok ()) := by
  have cases := placeExcept_cases data index r.unassembledMaxIndex (max r.unassembledStartIndex index)
    (sub64 (add64 index data.length) 1) r.stagingList r.stagingSize
  unfold stageExcept stage
  dsimp only
  rcases cases with thrown | same
  · exact .inl ⟨_, _, by rw [thrown]⟩
  · exact .inr (by rw [same])

-- A push that throws has done nothing to the output.
theorem pushSubstringExcept_cases :
    (∃ list size, r.pushSubstringExcept data index eof =
        ({ r.markEof data index eof with stagingList := list, stagingSize := size }, .error substrError)) ∨
      r.pushSubstringExcept data index eof = (r.pushSubstring data index eof, .ok ()) := by
  unfold pushSubstringExcept pushSubstring
  dsimp only
  split_ifs
  · exact .inr rfl
  · exact .inr rfl
  · rcases (r.markEof data index eof).stageExcept_cases data index with ⟨list, size, thrown⟩ | same
    · exact .inl ⟨list, size, by rw [thrown]⟩
    · exact .inr (by rw [same])

end Except

section Frame

variable (r : StreamReassembler) (data : Bytes) (index : Nat) (eof : Bool)

@[simp] theorem markEof_capacity : (r.markEof data index eof).capacity = r.capacity := by
  cases eof <;> rfl

@[simp] theorem markEof_output : (r.markEof data index eof).output = r.output := by
  cases eof <;> rfl

@[simp] theorem stage_capacity : (r.stage data index).capacity = r.capacity := rfl

@[simp] theorem eofProcess_capacity : r.eofProcess.capacity = r.capacity := by
  unfold eofProcess
  split <;> rfl

theorem flush_capacity (spans : List Staged) : (flush spans r).capacity = r.capacity := by
  induction spans generalizing r with
  | nil => rfl
  | cons iter rest ih =>
      rw [flush]
      split
      next => rw [ih]
      next => rfl

theorem eofProcess_fed {start : ByteStream} (fed : start.Fed r.output) : start.Fed r.eofProcess.output := by
  unfold eofProcess
  split
  next => exact fed.endInput
  next => exact fed

theorem flush_fed {start : ByteStream} (fed : start.Fed r.output) (spans : List Staged) :
    start.Fed (flush spans r).output := by
  induction spans generalizing r with
  | nil => exact fed
  | cons iter rest ih =>
      rw [flush]
      split
      next => exact ih _ (fed.append iter.items)
      next => exact fed

theorem pushSubstring_capacity : (r.pushSubstring data index eof).capacity = r.capacity := by
  unfold pushSubstring
  dsimp only
  split_ifs <;> simp [flush_capacity]

theorem pushSubstring_fed : r.output.Fed (r.pushSubstring data index eof).output := by
  have marked : r.output.Fed (r.markEof data index eof).output := by
    rw [markEof_output]
    exact .same
  unfold pushSubstring
  dsimp only
  split_ifs
  · exact eofProcess_fed _ marked
  · exact eofProcess_fed _ marked
  · exact eofProcess_fed _ (flush_fed ((r.markEof data index eof).stage data index) marked _)

theorem pushSubstring_bytesRead :
    (r.pushSubstring data index eof).output.bytesRead = r.output.bytesRead :=
  (r.pushSubstring_fed data index eof).bytesRead

end Frame

def unassembledBytes (r : StreamReassembler) : Nat := r.stagingSize

def empty (r : StreamReassembler) : Bool := r.stagingSize == 0

def streamOut (r : StreamReassembler) : ByteStream := r.output

def popOutput (r : StreamReassembler) (len : Nat) : StreamReassembler :=
  { r with output := r.output.popOutput len }

end StreamReassembler

end Sponge
