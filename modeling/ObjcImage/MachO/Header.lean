import ObjcImage.MachO.Machine
import ObjcImage.MachO.Error

set_option autoImplicit false

/-!
The Mach-O header: the magic, which also gives the word size and the byte order, the machine, the
file type, the number and total size of the load commands, and the flags.
-/

namespace ObjcImage

/-- The magic of an image, which gives its word size and byte order. Read in big-endian order,
the first four bytes of a big-endian image are `feedface` or `feedfacf`; those of a little-endian
image are the same bytes swapped. -/
inductive Magic where
  | big32 | big64 | little32 | little64
  deriving DecidableEq, Repr

namespace Magic

def ofWord? : Nat → Option Magic
  | 0xfeedface => some .big32 | 0xfeedfacf => some .big64
  | 0xcefaedfe => some .little32 | 0xcffaedfe => some .little64
  | _ => none

def sniff (bytes : List UInt8) : Option Magic :=
  if bytes.length < 4 then none else ofWord? (Endian.big.value (bytes.take 4))

def name : Magic → String
  | .big32 => "MhMagic" | .big64 => "MhMagic64" | .little32 => "MhCigam" | .little64 => "MhCigam64"

def is64 : Magic → Bool
  | .big64 | .little64 => true
  | _ => false

def endian : Magic → Endian
  | .big32 | .big64 => .big
  | .little32 | .little64 => .little

end Magic

inductive FileType where
  | object | execute | fvmlib | core | preload | dylib | dylinker | bundle | dylibStub | dsym
  | kextBundle | fileset | unknown
  deriving DecidableEq, Repr

namespace FileType

def ofRaw : Nat → FileType
  | 1 => .object | 2 => .execute | 3 => .fvmlib | 4 => .core | 5 => .preload | 6 => .dylib
  | 7 => .dylinker | 8 => .bundle | 9 => .dylibStub | 10 => .dsym | 11 => .kextBundle
  | 12 => .fileset | _ => .unknown

def name : FileType → String
  | .object => "MhObject" | .execute => "MhExecute" | .fvmlib => "MhFvmlib" | .core => "MhCore"
  | .preload => "MhPreload" | .dylib => "MhDylib" | .dylinker => "MhDylinker"
  | .bundle => "MhBundle" | .dylibStub => "MhDylibStub" | .dsym => "MhDsym"
  | .kextBundle => "MhKextBundle" | .fileset => "MhFileset" | .unknown => "Unknown"

end FileType

/-- The header flags this library knows; others are dropped. -/
def knownHeaderFlags : Nat :=
  0x1 + 0x2 + 0x4 + 0x8 + 0x10 + 0x20 + 0x80 + 0x8000 + 0x10000 + 0x200000 + 0x800000 +
    0x02000000 + 0x08000000 + 0x80000000

structure Header where
  magic : Magic
  cpu : CpuType
  subtype : CpuSubType
  fileType : FileType
  ncmds : Nat
  sizeofcmds : Nat
  flags : Nat
  deriving DecidableEq, Repr

namespace Header

def size (h : Header) : Nat := if h.magic.is64 then 32 else 28

def architecture (h : Header) : Architecture := ⟨h.cpu, h.subtype, h.magic.is64, h.magic.endian⟩

def parse (bytes : List UInt8) : Except ImageError Header :=
  match Magic.sniff bytes with
  | none => .error (.malformedHeader .unrecognizedMagic)
  | some m =>
    let e := m.endian
    let size := if m.is64 then 32 else 28
    if bytes.length < size then .error (.malformedHeader .truncatedHeader)
    else
      let word (i : Nat) : Nat := e.value ((bytes.drop (4 * i)).take 4)
      let cpu := CpuType.ofRaw (word 1)
      .ok ⟨m, cpu, CpuSubType.ofRaw cpu (word 2), FileType.ofRaw (word 3), word 4, word 5,
        word 6 &&& knownHeaderFlags⟩

end Header

end ObjcImage
