import Sponge.Buffer
import Sponge.Shared.Segments

set_option autoImplicit false

namespace Sponge

open Shared

-- A `Buffer` with its storage. An exhausted one lets go of the storage but keeps its offset.
@[ext] structure Buffer where
  storage : Option Bytes := none
  startingOffset : Nat := 0
  within : ∀ bytes ∈ storage, startingOffset ≤ bytes.length := by simp
  deriving DecidableEq

namespace Buffer

def ofString (str : Bytes) : Buffer where
  storage := some str

def str (self : Buffer) : Bytes :=
  match self.storage with
  | none => []
  | some bytes => bytes.drop self.startingOffset

def size (self : Buffer) : Nat := self.str.length

theorem length_of_mem {self : Buffer} {bytes : Bytes} (stored : bytes ∈ self.storage) :
    bytes.length = self.startingOffset + self.str.length := by
  have within := self.within bytes stored
  rw [str, Option.mem_def.mp stored, List.length_drop]
  omega

def advance (self : Buffer) (n : Nat) (fits : n ≤ self.str.length) : Buffer where
  storage := if self.storage.map List.length = some (self.startingOffset + n) then none else self.storage
  startingOffset := self.startingOffset + n
  within := by
    split
    · simp
    · intro bytes stored
      rw [length_of_mem stored]
      omega

theorem storage_advance (self : Buffer) {n : Nat} (fits : n ≤ self.str.length) :
    (self.advance n fits).storage =
      if self.storage.map List.length = some (self.startingOffset + n) then none else self.storage := rfl

def removePrefix (self : Buffer) (n : Nat) : Except Exception Buffer :=
  if short : self.str.length < n then
    .error (.outOfRange "Buffer::remove_prefix")
  else
    .ok (self.advance n (Nat.le_of_not_lt short))

theorem str_advance (self : Buffer) {n : Nat} (fits : n ≤ self.str.length) :
    (self.advance n fits).str = self.str.drop n := by
  cases stored : self.storage with
  | none => simp [str, advance, stored]
  | some bytes =>
      have length := length_of_mem (Option.mem_def.mpr stored)
      by_cases exhausted : bytes.length = self.startingOffset + n
      · have whole : self.str.length ≤ n := by omega
        simp only [str, advance, stored, Option.map_some, exhausted, if_true]
        rw [str, stored] at whole
        exact (List.drop_eq_nil_of_le whole).symm
      · simp [str, advance, stored, exhausted]

theorem removePrefix_ok (self : Buffer) {n : Nat} (fits : n ≤ self.str.length) :
    self.removePrefix n = .ok (self.advance n fits) := by
  rw [removePrefix, dif_neg (Nat.not_lt.mpr fits)]

theorem advance_part (self : Buffer) {n : Nat} (part : n < self.str.length) :
    (self.advance n part.le).storage = self.storage ∧
      (self.advance n part.le).startingOffset = self.startingOffset + n := by
  refine ⟨if_neg fun exhausted => ?_, rfl⟩
  obtain ⟨bytes, stored, length⟩ := Option.map_eq_some_iff.mp exhausted
  have := length_of_mem (Option.mem_def.mpr stored)
  omega

theorem advance_advance (self : Buffer) {m n : Nat} (part : m < self.str.length)
    (left : n ≤ (self.advance m part.le).str.length) (both : m + n ≤ self.str.length) :
    (self.advance m part.le).advance n left = self.advance (m + n) both := by
  obtain ⟨storage, offset⟩ := self.advance_part part
  refine Buffer.ext ?_ ?_
  · rw [storage_advance, storage, offset, Nat.add_assoc, storage_advance]
  · exact Nat.add_assoc ..

theorem cuts_removePrefix : Cuts str removePrefix where
  drops := by
    intro self n part
    exact ⟨self.advance n part.le, self.removePrefix_ok part.le, self.str_advance part.le⟩
  composes := by
    intro self m n shorter shortened inside
    have part : m < self.str.length := by omega
    rw [self.removePrefix_ok part.le] at shortened
    obtain rfl := Except.ok.inj shortened
    have left : n ≤ (self.advance m part.le).str.length := by
      rw [str_advance, List.length_drop]
      omega
    rw [removePrefix_ok _ left, removePrefix_ok _ inside.le, self.advance_advance part left]

end Buffer

structure StoredBufferList where
  buffers : List Buffer := []
  deriving DecidableEq

namespace StoredBufferList

def exposed (self : StoredBufferList) : BufferList := ⟨self.buffers.map Buffer.str⟩

def concatenate (self : StoredBufferList) : Bytes := self.buffers.foldl (fun ret buf => ret ++ buf.str) []

def size (self : StoredBufferList) : Nat := self.buffers.foldl (fun ret buf => ret + buf.size) 0

def outOfRange : Exception := .outOfRange "BufferList::remove_prefix"

def removePrefix (self : StoredBufferList) (n : Nat) : StoredBufferList × Except Exception Unit :=
  let (buffers, result) := removeFront Buffer.str Buffer.removePrefix outOfRange self.buffers n
  ({ buffers }, result)

theorem concatenate_eq (self : StoredBufferList) : self.concatenate = self.buffers.flatMap Buffer.str :=
  foldl_append_content Buffer.str self.buffers []

theorem size_eq (self : StoredBufferList) : self.size = self.concatenate.length := by
  rw [concatenate_eq, ← Nat.zero_add (List.length _)]
  exact foldl_add_length Buffer.str self.buffers 0

end StoredBufferList

structure BufferViewList where
  views : List Bytes := []
  deriving DecidableEq

namespace BufferViewList

def ofBufferList (buffers : BufferList) : BufferViewList := ⟨buffers.buffers⟩

def size (self : BufferViewList) : Nat := self.views.foldl (fun ret view => ret + view.length) 0

def concatenate (self : BufferViewList) : Bytes := self.views.flatten

def removeViewPrefix (view : Bytes) (n : Nat) : Except Exception Bytes := .ok (view.drop n)

def outOfRange : Exception := .outOfRange "BufferListView::remove_prefix"

def removePrefix (self : BufferViewList) (n : Nat) : BufferViewList × Except Exception Unit :=
  let (views, result) := removeFront id removeViewPrefix outOfRange self.views n
  ({ views }, result)

theorem size_eq (self : BufferViewList) : self.size = self.concatenate.length := by
  rw [concatenate, ← List.flatMap_id, ← Nat.zero_add (List.length _)]
  exact foldl_add_length id self.views 0

theorem cuts_removeViewPrefix : Cuts id removeViewPrefix where
  drops := fun view n _ => ⟨view.drop n, rfl, rfl⟩
  composes := by
    intro view m n shorter shortened _
    obtain rfl := Except.ok.inj shortened
    rw [removeViewPrefix, removeViewPrefix, List.drop_drop]

end BufferViewList

structure RemovesPrefix {α : Type} (concatenate : α → Bytes) (size : α → Nat)
    (removePrefix : α → Nat → α × Except Exception Unit) (outOfRange : Exception) : Prop where
  removes : ∀ list n, n ≤ size list →
    (removePrefix list n).2 = .ok () ∧ concatenate (removePrefix list n).1 = (concatenate list).drop n
  throws : ∀ list n, size list < n → (removePrefix list n).2 = .error outOfRange
  sums : ∀ list counts, removeEach removePrefix list counts = removePrefix list counts.sum

theorem removesPrefix_of_cuts {α γ : Type} {content : γ → Bytes} {cut : γ → Nat → Except Exception γ}
    (cuts : Cuts content cut) {concatenate : α → Bytes} {size : α → Nat}
    {removePrefix : α → Nat → α × Except Exception Unit} {outOfRange : Exception} {wrap : List γ → α}
    (wrapped : ∀ list, ∃ segs, wrap segs = list) (held : ∀ segs, concatenate (wrap segs) = segs.flatMap content)
    (sized : ∀ list, size list = (concatenate list).length)
    (removing : ∀ segs n, removePrefix (wrap segs) n = Prod.map wrap id (removeFront content cut outOfRange segs n)) :
    RemovesPrefix concatenate size removePrefix outOfRange := by
  constructor
  case removes =>
    intro list n fits
    obtain ⟨segs, rfl⟩ := wrapped list
    rw [sized, held] at fits
    obtain ⟨after, removed, dropped⟩ : ∃ after, removeFront content cut outOfRange segs n = (after, .ok ()) ∧ _ :=
      removeFront_within cuts fits
    rw [removing, removed]
    refine ⟨rfl, ?_⟩
    rw [Prod.map_fst, held, held, dropped]
  case throws =>
    intro list n beyond
    obtain ⟨segs, rfl⟩ := wrapped list
    rw [sized, held] at beyond
    rw [removing, removeFront_beyond beyond]
    rfl
  case sums =>
    intro list counts
    obtain ⟨segs, rfl⟩ := wrapped list
    rw [removeEach_map removing, removeEach_removeFront cuts, removing]

theorem remove_prefix_drops :
    RemovesPrefix StoredBufferList.concatenate StoredBufferList.size StoredBufferList.removePrefix
        (.outOfRange "BufferList::remove_prefix") ∧
      RemovesPrefix BufferViewList.concatenate BufferViewList.size BufferViewList.removePrefix
        (.outOfRange "BufferListView::remove_prefix") := by
  constructor
  · exact removesPrefix_of_cuts Buffer.cuts_removePrefix (fun list => ⟨list.buffers, rfl⟩)
      (fun segs => StoredBufferList.concatenate_eq ⟨segs⟩) StoredBufferList.size_eq fun _ _ => rfl
  · exact removesPrefix_of_cuts BufferViewList.cuts_removeViewPrefix (fun list => ⟨list.views, rfl⟩)
      (fun _ => List.flatMap_id.symm) BufferViewList.size_eq fun _ _ => rfl

def mixedBuffers : StoredBufferList where
  buffers :=
    [{ startingOffset := 3 }, { storage := some [1, 2, 3, 4], startingOffset := 1 }, .ofString [], .ofString [5, 6]]

theorem remove_prefix_drops_mixed :
    (mixedBuffers.removePrefix 4).1.concatenate = [6] ∧
      removeEach StoredBufferList.removePrefix mixedBuffers [1, 0, 3] = mixedBuffers.removePrefix 4 ∧
      ((BufferViewList.ofBufferList mixedBuffers.exposed).removePrefix 6).2 =
        .error (.outOfRange "BufferListView::remove_prefix") := by
  obtain ⟨lists, views⟩ := remove_prefix_drops
  exact ⟨(lists.removes mixedBuffers 4 (by decide)).2, lists.sums mixedBuffers [1, 0, 3], views.throws _ 6 (by decide)⟩

end Sponge
