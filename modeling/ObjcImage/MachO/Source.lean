import ObjcImage.MachO.Error
import ObjcImage.Bytes.Stream

set_option autoImplicit false

/-!
The bytes of a file, read with bounds checks: a read that does not fit names its offset, its size
and the number of bytes there are.
-/

namespace ObjcImage

namespace Source

def slice (bytes : ByteArray) (offset size : Nat) : Except ImageError (List UInt8) :=
  if offset + size ≤ bytes.size then .ok (bytes.extract offset (offset + size)).data.toList
  else .error (.outOfBounds offset size bytes.size)

def readWord (bytes : ByteArray) (e : Endian) (offset width : Nat) : Except ImageError Nat :=
  (slice bytes offset width).map e.value

theorem slice_ok_bound {bytes : ByteArray} {offset size : Nat} {out : List UInt8}
    (h : slice bytes offset size = .ok out) : offset + size ≤ bytes.size := by
  unfold slice at h
  split at h
  · assumption
  · simp at h

theorem readWord_ok_bound {bytes : ByteArray} {e : Endian} {offset width value : Nat}
    (h : readWord bytes e offset width = .ok value) : offset + width ≤ bytes.size := by
  unfold readWord at h
  cases hs : slice bytes offset width with
  | ok out => exact slice_ok_bound hs
  | error err => simp [hs, Except.map] at h

end Source

end ObjcImage
