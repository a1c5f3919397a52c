import Mathlib.Algebra.Order.Ring.Nat
import Sponge.ByteStream

set_option autoImplicit false

namespace Sponge

inductive Exception
  | runtimeError (what : String)
  | outOfRange (what : String)
  deriving DecidableEq, Repr

-- A `Buffer` is modelled by the bytes it exposes, so its storage and starting offset are left out.
structure BufferList where
  buffers : List Bytes := []
  deriving DecidableEq, Repr

namespace BufferList

def ofBuffer (buffer : Bytes) : BufferList := ⟨[buffer]⟩

def append (self other : BufferList) : BufferList := ⟨self.buffers ++ other.buffers⟩

def toBuffer (self : BufferList) : Except Exception Bytes :=
  match self.buffers with
  | [] => .ok []
  | [buffer] => .ok buffer
  | _ => .error (.runtimeError
      "BufferList: please use concatenate() to combine a multi-Buffer BufferList into one Buffer")

def concatenate (self : BufferList) : Bytes := self.buffers.flatten

def size (self : BufferList) : Nat := (self.buffers.map List.length).sum

def Contiguous (self : BufferList) : Prop := self.buffers.length ≤ 1

instance (self : BufferList) : Decidable self.Contiguous := inferInstanceAs (Decidable (_ ≤ _))

@[simp] theorem concatenate_ofBuffer (buffer : Bytes) : (ofBuffer buffer).concatenate = buffer := by
  simp [ofBuffer, concatenate]

@[simp] theorem concatenate_append (self other : BufferList) :
    (self.append other).concatenate = self.concatenate ++ other.concatenate := by
  simp [append, concatenate]

theorem size_eq (self : BufferList) : self.size = self.concatenate.length := by
  simp [size, concatenate, List.length_flatten]

@[simp] theorem size_ofBuffer (buffer : Bytes) : (ofBuffer buffer).size = buffer.length := by
  simp [size_eq]

@[simp] theorem toBuffer_ofBuffer (buffer : Bytes) : (ofBuffer buffer).toBuffer = .ok buffer := rfl

theorem toBuffer_of_contiguous {self : BufferList} (contiguous : self.Contiguous) :
    self.toBuffer = .ok self.concatenate := by
  obtain ⟨buffers⟩ := self
  match buffers, contiguous with
  | [], _ => rfl
  | [buffer], _ => simp [toBuffer, concatenate]
  | _ :: _ :: _, contiguous => exact absurd contiguous (by simp [Contiguous])

end BufferList

end Sponge
