set_option autoImplicit false

/-!
Chained fixup pointers: a rebase or a bind packed into one word with the distance to the next slot
of its chain, in units of the pointer format's stride; zero ends the chain.
-/

namespace ObjcImage

inductive PointerFormat where
  | arm64e | ptr64 | ptr32 | ptr32Cache | ptr32Firmware | ptr64Offset | arm64eKernel
  | ptr64KernelCache | arm64eUserland | arm64eFirmware | x86_64KernelCache | arm64eUserland24
  | arm64eSharedCache
  deriving DecidableEq, Repr

namespace PointerFormat

def ofCode? : Nat → Option PointerFormat
  | 1 => some .arm64e | 2 => some .ptr64 | 3 => some .ptr32 | 4 => some .ptr32Cache
  | 5 => some .ptr32Firmware | 6 => some .ptr64Offset | 7 => some .arm64eKernel
  | 8 => some .ptr64KernelCache | 9 => some .arm64eUserland | 10 => some .arm64eFirmware
  | 11 => some .x86_64KernelCache | 12 => some .arm64eUserland24 | 13 => some .arm64eSharedCache
  | _ => none

def name : PointerFormat → String
  | .arm64e => "Arm64e" | .ptr64 => "Ptr64" | .ptr32 => "Ptr32" | .ptr32Cache => "Ptr32Cache"
  | .ptr32Firmware => "Ptr32Firmware" | .ptr64Offset => "Ptr64Offset"
  | .arm64eKernel => "Arm64eKernel" | .ptr64KernelCache => "Ptr64KernelCache"
  | .arm64eUserland => "Arm64eUserland" | .arm64eFirmware => "Arm64eFirmware"
  | .x86_64KernelCache => "X86_64KernelCache" | .arm64eUserland24 => "Arm64eUserland24"
  | .arm64eSharedCache => "Arm64eSharedCache"

def stride : PointerFormat → Nat
  | .arm64e | .arm64eUserland | .arm64eUserland24 => 8
  | _ => 4

def isNarrow : PointerFormat → Bool
  | .ptr32 | .ptr32Cache | .ptr32Firmware => true
  | _ => false

end PointerFormat

inductive ChainedPointer where
  | rebase (target : Nat) (relative : Bool)
  | bind (ordinal : Nat) (addend : Int)
  deriving DecidableEq, Repr

def bitsOf (raw lo hi : Nat) : Nat := raw / Nat.pow 2 lo % Nat.pow 2 (hi + 1 - lo)

def bitOf (raw i : Nat) : Bool := raw / Nat.pow 2 i % 2 == 1

def signExtend (value bits : Nat) : Int :=
  if Nat.pow 2 (bits - 1) ≤ value then (value : Int) - (Nat.pow 2 bits : Nat) else value

namespace ChainedPointer

/-- Decodes a raw slot: the fixup and the distance in bytes to the next slot of the chain (zero
ends it). The shared-cache format is not read. -/
def decode (raw : Nat) (format : PointerFormat) : Option (ChainedPointer × Nat) :=
  let stride := format.stride
  match format with
  | .arm64e | .arm64eUserland | .arm64eKernel | .arm64eFirmware =>
    let next := bitsOf raw 51 61 * stride
    if bitOf raw 62 then
      let addend := if bitOf raw 63 then 0 else signExtend (bitsOf raw 32 50) 19
      some (.bind (bitsOf raw 0 15) addend, next)
    else if bitOf raw 63 then some (.rebase (bitsOf raw 0 31) true, next)
    else some (.rebase (bitsOf raw 0 42) (format != .arm64e), next)
  | .arm64eUserland24 =>
    let next := bitsOf raw 51 61 * stride
    if bitOf raw 62 then
      let addend := if bitOf raw 63 then 0 else signExtend (bitsOf raw 32 50) 19
      some (.bind (bitsOf raw 0 23) addend, next)
    -- Authenticated or not, a rebase keeps the low 24 bits as an offset.
    else some (.rebase (bitsOf raw 0 23) true, next)
  | .ptr64 | .ptr64Offset =>
    let next := bitsOf raw 51 62 * stride
    if bitOf raw 63 then some (.bind (bitsOf raw 0 23) (bitsOf raw 24 31), next)
    else some (.rebase (bitsOf raw 0 35) (format == .ptr64Offset), next)
  | .ptr64KernelCache | .x86_64KernelCache =>
    some (.rebase (bitsOf raw 0 29) true, bitsOf raw 51 62 * stride)
  | .ptr32 | .ptr32Cache | .ptr32Firmware =>
    let word := raw % Nat.pow 2 32
    let next := bitsOf word 26 30 * stride
    if format == .ptr32 && bitOf word 31 then
      some (.bind (bitsOf word 0 19) (bitsOf word 20 25), next)
    else some (.rebase (bitsOf word 0 25) false, next)
  | .arm64eSharedCache => none

end ChainedPointer

end ObjcImage
