import Std.Data.HashMap
import ObjcImage.MachO.LoadCommand
import ObjcImage.MachO.Source
import ObjcImage.Fixup.BindOpcode
import ObjcImage.Fixup.ChainedFixups

set_option autoImplicit false

/-!
Pointer fixups of an image: what each pointer slot holds once the loader has done its work. The
last word said about a slot wins; a slot the table does not know holds its raw contents.
-/

namespace ObjcImage

inductive SlotValue where
  | null
  | value (address : Nat)
  | bind (symbol : String)
  deriving DecidableEq, Repr

def SlotValue.address? : SlotValue → Option Nat
  | .value a => some a
  | _ => none

structure FixupTable where
  slots : Std.HashMap Nat SlotValue
  imageBase : Nat
  stripPac : Bool

namespace FixupTable

/-- The slots a chain writes, from the slot `delta` bytes into the segment on: each slot's word
gives its value and the distance to the next slot. The chain ends at a distance of zero, at a word
that cannot be read, or in a format that is not read. -/
def chainWrites (bytes : ByteArray) (e : Endian) (seg : Segment) (format : PointerFormat)
    (imports : List ChainedImport) (imageBase : Nat) (delta : Nat) : List (Nat × SlotValue) :=
  let width := if format.isNarrow then 4 else 8
  match _hr : Source.readWord bytes e (seg.fileoff + delta) width with
  | .error _ => []
  | .ok raw =>
    match ChainedPointer.decode raw format with
    | none => []
    | some (pointer, next) =>
      let value : SlotValue := match pointer with
        | .rebase target true => .value ((imageBase + target) % Nat.pow 2 64)
        | .rebase target false => .value target
        | .bind ordinal _ =>
          match imports[ordinal]? with
          | some i => .bind i.name
          | none => .null
      match next with
      | 0 => [(seg.vmaddr + delta, value)]
      | step + 1 =>
        (seg.vmaddr + delta, value) ::
          chainWrites bytes e seg format imports imageBase (delta + (step + 1))
termination_by bytes.size - delta
decreasing_by
  have : 4 ≤ width := by simp only [width]; split <;> omega
  have := Source.readWord_ok_bound _hr
  omega

def chainedWrites (bytes : ByteArray) (e : Endian) (segments : List Segment) (fx : ChainedFixups)
    (imageBase : Nat) : List (Nat × SlotValue) :=
  fx.starts.segments.flatMap fun starts =>
    match segments[starts.segment]? with
    | none => []
    | some seg =>
      starts.pageStarts.flatMap fun (page, offset) =>
        chainWrites bytes e seg starts.format fx.imports imageBase (page * starts.pageSize + offset)

def bindWrites (segments : List Segment) (records : List BindRecord) : List (Nat × SlotValue) :=
  records.filterMap fun r =>
    (segments[r.segmentIndex]?).map fun seg =>
      ((seg.vmaddr + r.segmentOffset) % Nat.pow 2 64, SlotValue.bind r.symbol)

def commandWrites (bytes : ByteArray) (arch : Architecture) (segments : List Segment)
    (imageBase : Nat) : LoadCommand → List (Nat × SlotValue)
  | .chainedFixups _ off size =>
    match Source.slice bytes off size with
    | .error _ => []
    | .ok blob =>
      match parseChainedFixups arch.endian blob with
      | .error _ => []
      | .ok fx => chainedWrites bytes arch.endian segments fx imageBase
  | .dyldInfo d =>
    d.bindStreams.flatMap fun (off, size) =>
      if size == 0 then []
      else match Source.slice bytes off size with
        | .error _ => []
        | .ok stream =>
          match parseBindStream stream arch.pointerWidth with
          | .error _ => []
          | .ok records => bindWrites segments records
  | _ => []

/-- The address the image is loaded at: that of the first segment mapping the file's start. -/
def imageBaseOf (segments : List Segment) : Nat :=
  ((segments.find? fun s => s.fileoff == 0 && s.filesize > 0).map (·.vmaddr)).getD 0

def isChained : LoadCommand → Bool
  | .chainedFixups _ _ _ => true
  | _ => false

/-- The fixup table of an image. A chain can reach a slot whose address does not fit in 64 bits;
`arith` says whether that is a fault or the address wraps around. -/
def build (arith : AddressArithmetic) (bytes : ByteArray) (arch : Architecture)
    (segments : List Segment) (commands : List LoadCommand) : Except AddressFault FixupTable := do
  let base := imageBaseOf segments
  let writes ← (commands.flatMap (commandWrites bytes arch segments base)).mapM
    fun (slot, v) => (arith.fit slot).map fun s => (s, v)
  pure { slots := writes.foldl (fun m (slot, v) => m.insert slot v) {}
         imageBase := base
         stripPac := !commands.any isChained && arch.isArm64e }

def resolve (t : FixupTable) (slot raw : Nat) : SlotValue :=
  match t.slots.get? slot with
  | some v => v
  | none =>
    if raw == 0 then .null
    else if t.stripPac && raw > Nat.pow 2 43 - 1 then
      if raw ≥ Nat.pow 2 63 then .value ((t.imageBase + raw % Nat.pow 2 32) % Nat.pow 2 64)
      else .value (raw % Nat.pow 2 43)
    else .value raw

end FixupTable

end ObjcImage
