import ObjcImage.Fixup.Table

set_option autoImplicit false

/-!
One architecture's image. Reading it checks its layout, so that an address is backed by at most one
section of the file, and a read at an address goes to that section's bytes unless they are encrypted.
-/

namespace ObjcImage

structure MachImage where
  bytes : ByteArray
  header : Header
  arch : Architecture
  commands : List LoadCommand
  segments : List Segment
  fixups : FixupTable
  encrypted : Option (Nat × Nat)
  arithmetic : AddressArithmetic

namespace MachImage

/-- Checks one segment, given the segments after it: it lies in the file, it overlaps none of
them, and each of its sections lies inside it and, when backed by the file, in the file. -/
def checkSegment (fileSize : Nat) (seg : Segment) (later : List Segment) : Except ImageError Unit := do
  if seg.fileoff + seg.filesize > fileSize then
    throw (.malformedHeader (.segmentExceedsFile seg.name))
  if let some other := later.find? seg.overlaps then
    throw (.malformedHeader (.segmentsOverlap seg.name other.name))
  for sect in seg.sections do
    if sect.addr < seg.vmaddr || sect.addr + sect.size > seg.vmEnd then
      throw (.malformedHeader (.sectionOutsideSegment sect.segname sect.sectname seg.name))
    if !sect.isZerofill && sect.size > 0 && sect.offset + sect.size > fileSize then
      throw (.malformedHeader (.sectionExceedsFile sect.segname sect.sectname))

def checkSegments (fileSize : Nat) : List Segment → Except ImageError Unit
  | [] => pure ()
  | seg :: later => do
    checkSegment fileSize seg later
    checkSegments fileSize later

def firstOverlap : List Section → Option (Section × Section)
  | a :: b :: rest => if a.addr + a.size > b.addr then some (a, b) else firstOverlap (b :: rest)
  | _ => none

def checkSectionOverlap (segments : List Segment) : Except ImageError Unit :=
  let backed := (segments.flatMap (·.sections)).filter fun s => !s.isZerofill && s.size > 0
  match firstOverlap (backed.mergeSort fun a b => a.addr ≤ b.addr) with
  | some (a, b) => .error (.malformedHeader (.sectionsOverlap a.segname a.sectname b.segname b.sectname))
  | none => .ok ()

def segmentsOf (commands : List LoadCommand) : List Segment :=
  commands.filterMap fun | .segment s => some s | _ => none

def encryptedRange (commands : List LoadCommand) : Option (Nat × Nat) :=
  commands.findSome? fun | .encryptionInfo e => e.range? | _ => none

def layout (bytes : ByteArray) : Except ImageError (Header × List LoadCommand × List Segment) := do
  let list := bytes.data.toList
  let header ← Header.parse list
  let commands ← LoadCommand.parseAll list header
  let segments := segmentsOf commands
  checkSegments bytes.size segments
  checkSectionOverlap segments
  pure (header, commands, segments)

/-- Reads a thin image: its layout is checked first, then its fixup table is built, which can
fault when `arith` is checked. -/
def parse (arith : AddressArithmetic) (bytes : ByteArray) :
    Except AddressFault (Except ImageError MachImage) :=
  match layout bytes with
  | .error e => .ok (.error e)
  | .ok (header, commands, segments) =>
    let arch := header.architecture
    (FixupTable.build arith bytes arch segments commands).map fun fixups =>
      .ok ⟨bytes, header, arch, commands, segments, fixups, encryptedRange commands, arith⟩

def sections (img : MachImage) : List Section := img.segments.flatMap (·.sections)

def uuid? (img : MachImage) : Option (List UInt8) :=
  img.commands.findSome? fun | .uuid _ b => some b | _ => none

def dylibId? (img : MachImage) : Option Dylib :=
  img.commands.findSome? fun | .dylibId d => some d | _ => none

def mappedSection? (img : MachImage) (address : Nat) : Option Section :=
  img.sections.find? fun s => !s.isZerofill && s.contains address

/-- The file offset of `size` bytes at `address`, which must lie in one section backed by the
file and not meet the encrypted range. -/
def fileOffset (img : MachImage) (address size : Nat) : Except ImageError Nat :=
  match img.mappedSection? address with
  | none => .error (.unmapped address size)
  | some s =>
    let delta := address - s.addr
    if size > s.size - delta then .error (.unmapped address size)
    else
      let offset := s.offset + delta
      match img.encrypted with
      | some (start, stop) =>
        if offset < stop && start < offset + max size 1 then .error (.encrypted address)
        else .ok offset
      | none => .ok offset

def translate (img : MachImage) (address size : Nat) : Except ImageError (List UInt8) := do
  let offset ← img.fileOffset address size
  match Source.slice img.bytes offset size with
  | .ok b => pure b
  | .error _ => throw (.unmapped address size)

def addressOfOffset (img : MachImage) (offset : Nat) : Option Nat :=
  (img.sections.find? fun s => !s.isZerofill && s.offset ≤ offset && offset - s.offset < s.size).map
    fun s => s.addr + (offset - s.offset)

def sectionBytes? (img : MachImage) (s : Section) : Option (List UInt8) :=
  if s.isZerofill then none else (Source.slice img.bytes s.offset s.size).toOption

def section? (img : MachImage) (segname sectname : String) : Option (List UInt8) :=
  (img.sections.find? fun s => s.segname == segname && s.sectname == sectname).bind img.sectionBytes?

def sectionNamed? (img : MachImage) (sectname : String) : Option (Section × List UInt8) :=
  (img.sections.find? fun s => s.sectname == sectname).bind fun s =>
    (img.sectionBytes? s).map (s, ·)

def readUInt (img : MachImage) (address width : Nat) : Except ImageError Nat := do
  let offset ← img.fileOffset address width
  Source.readWord img.bytes img.arch.endian offset width

def readU32 (img : MachImage) (address : Nat) : Except ImageError Nat := img.readUInt address 4

def readU64 (img : MachImage) (address : Nat) : Except ImageError Nat := img.readUInt address 8

def readWord (img : MachImage) (address : Nat) : Except ImageError Nat :=
  img.readUInt address img.arch.pointerWidth

def readPointer (img : MachImage) (address : Nat) : Except ImageError SlotValue := do
  let raw ← img.readWord address
  pure (img.fixups.resolve address raw)

/-- The nul-terminated string at `address`; the nul must lie in the same section, and the string
with its nul must not meet the encrypted range. -/
def readCString (img : MachImage) (address : Nat) : Except ImageError String :=
  match img.mappedSection? address with
  | none => .error (.unmapped address 1)
  | some s =>
    let delta := address - s.addr
    let remaining := s.size - delta
    match Source.slice img.bytes (s.offset + delta) remaining with
    | .error _ => .error (.unmapped address 1)
    | .ok tail =>
      match tail.idxOf? 0 with
      | none => .error (.unmapped address (remaining + 1))
      | some len => do
        let b ← img.translate address (len + 1)
        pure (ByteStream.takeCString b).1

end MachImage

end ObjcImage
