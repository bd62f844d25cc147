import ObjcImage.MachO.Image

set_option autoImplicit false

/-!
Thin and fat files. A fat file starts with a big-endian table of architectures, each naming the
file range of one thin image; a thin file is one image. Each slice is read on its own, so one
malformed slice does not hide the others.
-/

namespace ObjcImage

structure FatArch where
  cpu : CpuType
  subtype : CpuSubType
  offset : Nat
  size : Nat
  deriving DecidableEq, Repr

def FatArch.archName (a : FatArch) : String := (Architecture.mk a.cpu a.subtype false .big).name

inductive MachFile where
  | thin (bytes : ByteArray)
  | fat (bytes : ByteArray) (archs : List FatArch)

structure ImageSlice where
  archName : String
  image : Except ImageError MachImage

namespace MachFile

def fatWide? (bytes : List UInt8) : Option Bool :=
  if bytes.length < 4 then none
  else match Endian.big.value (bytes.take 4) with
    | 0xcafebabe => some false
    | 0xcafebabf => some true
    | _ => none

def fatEntry (wide : Bool) (entry : List UInt8) : FatArch :=
  let w (at_ n : Nat) : Nat := Endian.big.value ((entry.drop at_).take n)
  let cpu := CpuType.ofRaw (w 0 4)
  if wide then ⟨cpu, CpuSubType.ofRaw cpu (w 4 4), w 8 8, w 16 8⟩
  else ⟨cpu, CpuSubType.ofRaw cpu (w 4 4), w 8 4, w 12 4⟩

def parseFat (bytes : ByteArray) (wide : Bool) : Except ImageError MachFile :=
  if bytes.size < 8 then .error (.malformedHeader .truncatedFatHeader)
  else
    let count := Endian.big.value (bytes.extract 4 8).data.toList
    let entrySize := if wide then 32 else 20
    if 8 + entrySize * count > bytes.size then .error (.malformedHeader (.fatTableTooLarge count))
    else
      let entries := (List.range count).map fun i =>
        let start := 8 + entrySize * i
        fatEntry wide (bytes.extract start (start + entrySize)).data.toList
      .ok (.fat bytes entries)

def parse (bytes : ByteArray) : Except ImageError MachFile :=
  let front := (bytes.extract 0 4).data.toList
  match fatWide? front with
  | some wide => parseFat bytes wide
  | none =>
    match Magic.sniff front with
    | some _ => .ok (.thin bytes)
    | none => .error (.malformedHeader .notMachO)

/-- Every slice, in the order of the fat table; reading any of them can fault. -/
def slices (arith : AddressArithmetic) : MachFile → Except AddressFault (List ImageSlice)
  | .thin bytes => do
    let image ← MachImage.parse arith bytes
    pure [⟨match image with | .ok img => img.arch.name | .error _ => "unknown", image⟩]
  | .fat bytes archs => archs.mapM fun a => do
    let image ← match Source.slice bytes a.offset a.size with
      | .error _ => pure (.error (.malformedHeader (.fatSliceOutside a.offset a.size)))
      | .ok _ => MachImage.parse arith (bytes.extract a.offset (a.offset + a.size))
    pure ⟨a.archName, image⟩

end MachFile

def listArchitectures (arith : AddressArithmetic) (bytes : ByteArray) :
    Except AddressFault (Except ImageError (List String)) :=
  match MachFile.parse bytes with
  | .error e => .ok (.error e)
  | .ok f => (f.slices arith).map fun slices => .ok (slices.map (·.archName))

end ObjcImage
