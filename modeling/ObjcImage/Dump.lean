import ObjcImage.Interface.Emit
import ObjcImage.Runtime.Walk
import ObjcImage.MachO.File

set_option autoImplicit false

/-!
Dumping a file: the declarations of every slice, or of the one slice asked for. A slice that cannot
be read or walked reports its error without affecting the others; a fault stops the whole dump.
-/

namespace ObjcImage

inductive DumpError where
  | image (error : ImageError)
  | noMatchingArchitecture (arch : String)
  deriving DecidableEq, Repr

namespace DumpError

def kind : DumpError → String
  | .image e => e.kind
  | .noMatchingArchitecture _ => "NoMatchingArchitecture"

def message : DumpError → String
  | .image e => e.message
  | .noMatchingArchitecture arch => "no slice matches architecture '" ++ arch ++ "'"

end DumpError

inductive SliceError where
  | image (error : ImageError)
  | walk (error : WalkError)
  deriving DecidableEq, Repr

namespace SliceError

def kind : SliceError → String
  | .image e => e.kind
  | .walk _ => "WalkError"

def message : SliceError → String
  | .image e => e.message
  | .walk e => e.message

end SliceError

structure SliceDump where
  arch : String
  result : Except SliceError (String × Nat)

def dumpImage (img : MachImage) (o : DumpOptions) : Except AddressFault (Except SliceError (String × Nat)) :=
  (walk img o.listPolicy).map fun
    | .error e => .error (.walk e)
    | .ok model => .ok (emit model o, model.diagnosticCount)

/-- Dumps every slice of a file, or only those of the architecture asked for. Every slice is read
before the architecture is looked for, and a fault in reading or walking any of them stops the
dump; `arith` says whether an address past the last 64-bit one is such a fault. -/
def dump (arith : AddressArithmetic) (bytes : ByteArray) (o : DumpOptions) :
    Except AddressFault (Except DumpError (List SliceDump)) :=
  match MachFile.parse bytes with
  | .error e => .ok (.error (.image e))
  | .ok file => do
    let all : List ImageSlice ← file.slices arith
    let kept := match o.arch with
      | some arch => all.filter fun (s : ImageSlice) => s.archName == arch
      | none => all
    match o.arch with
    | some arch => if kept.isEmpty then return .error (.noMatchingArchitecture arch) else pure ()
    | none => pure ()
    let dumps ← kept.mapM fun (s : ImageSlice) => match s.image with
      | .error e => pure (⟨s.archName, .error (.image e)⟩ : SliceDump)
      | .ok img => (fun r => (⟨s.archName, r⟩ : SliceDump)) <$> dumpImage img o
    return .ok dumps

end ObjcImage
