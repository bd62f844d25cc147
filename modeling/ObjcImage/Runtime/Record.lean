import ObjcImage.MachO.Image
import ObjcImage.Bytes.Stream

set_option autoImplicit false

/-!
The runtime's records as they lie in an image. A record is read only when all of it is mapped, and
its pointer fields are read through the image's fixups.
-/

namespace ObjcImage

namespace MachImage

def readString (img : MachImage) : SlotValue → Except ImageError String
  | .value address => img.readCString address
  | .null => .error (.unmapped 0 1)
  | .bind symbol => .error (.parse ("string pointer bound to " ++ symbol))

def readAddress (img : MachImage) (slot : Nat) : Except ImageError Nat := do
  match ← img.readPointer slot with
  | .value address => pure address
  | _ => throw (.unmapped slot img.arch.pointerWidth)

end MachImage

structure ClassRecord where
  isa : SlotValue
  superclass : SlotValue
  data : Option Nat
  isSwift : Bool

def ClassRecord.read (img : MachImage) (address : Nat) : Except ImageError ClassRecord := do
  let w := img.arch.pointerWidth
  let _ ← img.translate address (5 * w)
  let isa ← img.readPointer address
  let superclass ← img.readPointer (address + w)
  let data ← img.readPointer (address + 4 * w)
  -- The low two (32-bit) or three (64-bit) bits of the data pointer are flags.
  let flagSpan := if img.arch.is64 then 8 else 4
  match data with
  | .value bits => pure ⟨isa, superclass, some (bits - bits % flagSpan), bits % 4 != 0⟩
  | _ => pure ⟨isa, superclass, none, false⟩

structure ClassData where
  flags : Nat
  instanceStart : Nat
  instanceSize : Nat
  name : SlotValue
  baseMethods : SlotValue
  baseProtocols : SlotValue
  ivars : SlotValue
  baseProperties : SlotValue

namespace ClassData

def read (img : MachImage) (address : Nat) : Except ImageError ClassData := do
  let w := img.arch.pointerWidth
  -- 64-bit layouts keep a reserved word before the pointers.
  let ptrs := if img.arch.is64 then 16 else 12
  let _ ← img.translate address (ptrs + 7 * w)
  let flags ← img.readU32 address
  let instanceStart ← img.readU32 (address + 4)
  let instanceSize ← img.readU32 (address + 8)
  let field (index : Nat) := img.readPointer (address + ptrs + index * w)
  pure ⟨flags, instanceStart, instanceSize, ← field 1, ← field 2, ← field 3, ← field 4, ← field 6⟩

def isRoot (d : ClassData) : Bool := d.flags / 2 % 2 == 1

end ClassData

/-- A protocol record. The fields after `flags` exist only when `size` covers them. -/
structure ProtocolRecord where
  name : SlotValue
  protocols : SlotValue
  instanceMethods : SlotValue
  classMethods : SlotValue
  optionalInstanceMethods : SlotValue
  optionalClassMethods : SlotValue
  instanceProperties : SlotValue
  size : Nat
  flags : Nat
  extendedMethodTypes : Option SlotValue
  classProperties : Option SlotValue

/-- The fields of a protocol record up to its extended method types, which exist only when `size`
covers them; `ProtocolRecord.read` adds the class properties. -/
def ProtocolRecord.readHead (img : MachImage) (address : Nat) : Except ImageError ProtocolRecord := do
  let w := img.arch.pointerWidth
  let _ ← img.translate address (8 * w + 8)
  let field (index : Nat) := img.readPointer (address + index * w)
  let size ← img.readU32 (address + 8 * w)
  let flags ← img.readU32 (address + 8 * w + 4)
  let extended : Except ImageError (Option SlotValue) :=
    if 8 * w + 8 + w ≤ size then some <$> img.readPointer (address + 8 * w + 8) else pure none
  pure ⟨← field 1, ← field 2, ← field 3, ← field 4, ← field 5, ← field 6, ← field 7, size, flags,
    ← extended, none⟩

/-- A protocol record. Its class properties, two words after the extended method types, are read
when `size` covers them; their address can then lie past the last 64-bit address, which the
image's address arithmetic takes as a fault or wraps around. -/
def ProtocolRecord.read (img : MachImage) (address : Nat) :
    Except AddressFault (Except ImageError ProtocolRecord) :=
  match ProtocolRecord.readHead img address with
  | .error e => .ok (.error e)
  | .ok record =>
    let w := img.arch.pointerWidth
    if 8 * w + 8 + 3 * w ≤ record.size then
      (img.arithmetic.add (address + 8 * w + 8) (2 * w)).map fun slot =>
        (img.readPointer slot).map fun v => { record with classProperties := some v }
    else .ok (.ok record)

structure CategoryRecord where
  name : SlotValue
  cls : SlotValue
  instanceMethods : SlotValue
  classMethods : SlotValue
  protocols : SlotValue
  instanceProperties : SlotValue
  classProperties : Option SlotValue

def CategoryRecord.read (img : MachImage) (address : Nat) (hasClassProperties : Bool) :
    Except ImageError CategoryRecord := do
  let w := img.arch.pointerWidth
  let _ ← img.translate address ((if hasClassProperties then 7 else 6) * w)
  let field (index : Nat) := img.readPointer (address + index * w)
  pure ⟨← field 0, ← field 1, ← field 2, ← field 3, ← field 4, ← field 5,
    ← if hasClassProperties then some <$> field 6 else pure none⟩

structure ListHeader where
  entsize : Nat
  flags : Nat
  count : Nat

namespace ListHeader

def size : Nat := 8

/-- The first word holds the entry size in bits 2 to 15 and flags in the others. -/
def read (img : MachImage) (address : Nat) : Except ImageError ListHeader := do
  let word ← img.readU32 address
  let count ← img.readU32 (address + 4)
  let entsize := word % 65536 / 4 * 4
  pure ⟨entsize, word - entsize, count⟩

def isSmall (h : ListHeader) : Bool := h.flags / Nat.pow 2 31 % 2 == 1

end ListHeader

structure MethodEntry where
  name : Except ImageError Nat
  types : Except ImageError Nat
  imp : Option Nat

/-- Reads a method entry. A relative entry holds three signed 32-bit offsets, each from its own
address; the name's offset leads to a selector reference, which holds the name's address. -/
def MethodEntry.read (img : MachImage) (address : Nat) (small : Bool) :
    Except ImageError MethodEntry :=
  if small then do
    let offset (field : Nat) : Except ImageError Nat := do
      let delta ← img.readU32 (address + field)
      pure ((((address + field : Nat) : Int) + toSigned 32 delta) % (Nat.pow 2 64 : Nat)).toNat
    let selref ← offset 0
    let types ← offset 4
    let impWord ← img.readU32 (address + 8)
    let imp ← if impWord == 0 then pure none else some <$> offset 8
    pure ⟨img.readAddress selref, .ok types, imp⟩
  else do
    let w := img.arch.pointerWidth
    let imp ← img.readPointer (address + 2 * w)
    pure ⟨img.readAddress address, img.readAddress (address + w), imp.address?⟩

structure IvarEntry where
  offset : SlotValue
  name : SlotValue
  types : SlotValue
  alignmentCode : Nat
  size : Nat

namespace IvarEntry

def read (img : MachImage) (address : Nat) : Except ImageError IvarEntry := do
  let w := img.arch.pointerWidth
  pure ⟨← img.readPointer address, ← img.readPointer (address + w),
    ← img.readPointer (address + 2 * w), ← img.readU32 (address + 3 * w),
    ← img.readU32 (address + 3 * w + 4)⟩

/-- The alignment in bytes: the code is a power of two, and all ones means a pointer's width. -/
def alignment (e : IvarEntry) (width : Nat) : Nat :=
  if e.alignmentCode = 0xffffffff then width
  else if e.alignmentCode < 32 then Nat.pow 2 e.alignmentCode
  else 0

end IvarEntry

structure PropertyEntry where
  name : SlotValue
  attributes : SlotValue

def PropertyEntry.read (img : MachImage) (address : Nat) : Except ImageError PropertyEntry := do
  let w := img.arch.pointerWidth
  pure ⟨← img.readPointer address, ← img.readPointer (address + w)⟩

def methodEntrySize (width : Nat) (small : Bool) : Nat := if small then 12 else 3 * width

def ivarEntrySize (width : Nat) : Nat := 3 * width + 8

def propertyEntrySize (width : Nat) : Nat := 2 * width

end ObjcImage
