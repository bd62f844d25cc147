import ObjcImage.Bytes.Stream
import ObjcImage.Fixup.ChainedPointer

set_option autoImplicit false

/-!
The chained fixups payload of an image: a header, the imports with their symbol names, and the
chain starts of each segment, flattened into (page, offset) pairs.
-/

namespace ObjcImage

inductive ImportFormat where
  | plain | withAddend | withAddend64
  deriving DecidableEq, Repr

def ImportFormat.ofCode? : Nat → Option ImportFormat
  | 1 => some .plain | 2 => some .withAddend | 3 => some .withAddend64 | _ => none

def ImportFormat.name : ImportFormat → String
  | .plain => "Import" | .withAddend => "ImportAddend" | .withAddend64 => "ImportAddend64"

inductive SymbolsFormat where
  | uncompressed | zlib
  deriving DecidableEq, Repr

def SymbolsFormat.ofCode? : Nat → Option SymbolsFormat
  | 0 => some .uncompressed | 1 => some .zlib | _ => none

def SymbolsFormat.name : SymbolsFormat → String
  | .uncompressed => "Uncompressed" | .zlib => "Zlib"

structure ChainedHeader where
  version : Nat
  startsOffset : Nat
  importsOffset : Nat
  symbolsOffset : Nat
  importsCount : Nat
  importsFormat : ImportFormat
  symbolsFormat : SymbolsFormat
  deriving Repr

/-- An imported symbol. Ordinals near the top of their field are the negative special ordinals. -/
structure ChainedImport where
  libOrdinal : Int
  weak : Bool
  name : String
  addend : Int
  deriving Repr

structure SegmentStarts where
  segment : Nat
  size : Nat
  pageSize : Nat
  format : PointerFormat
  segmentOffset : Nat
  maxValidPointer : Nat
  pageCount : Nat
  pageStarts : List (Nat × Nat)
  deriving Repr

structure ImageStarts where
  segCount : Nat
  segInfoOffsets : List Nat
  segments : List SegmentStarts
  deriving Repr

structure ChainedFixups where
  header : ChainedHeader
  imports : List ChainedImport
  starts : ImageStarts
  deriving Repr

namespace ChainedFixups

open ByteStream

def from? (bytes : List UInt8) (offset : Nat) : Option (List UInt8) :=
  if offset ≤ bytes.length then some (bytes.drop offset) else none

def parseHeader (e : Endian) (bytes : List UInt8) : Except StreamFault ChainedHeader := do
  let (fields, rest) ← takeMany e 4 7 bytes
  match fields with
  | [version, starts, imports, symbols, count, importsCode, symbolsCode] =>
    let some importsFormat := ImportFormat.ofCode? importsCode | .error ⟨.tag, rest⟩
    let some symbolsFormat := SymbolsFormat.ofCode? symbolsCode | .error ⟨.tag, rest⟩
    pure ⟨version, starts, imports, symbols, count, importsFormat, symbolsFormat⟩
  | _ => .error ⟨.eof, rest⟩

def symbolAt (symbols : List UInt8) (offset : Nat) : String :=
  match from? symbols offset with
  | some tail => (takeCString tail).1
  | none => ""

def parseImport (e : Endian) (format : ImportFormat) (symbols : List UInt8) (input : List UInt8) :
    Except StreamFault (ChainedImport × List UInt8) :=
  match format with
  | .plain | .withAddend => do
    let (value, r) ← takeUInt e 4 input
    let (addend, r) ← if format == .withAddend then do
        let (a, r') ← takeUInt e 4 r
        pure (toSigned 32 a, r')
      else pure (0, r)
    let ordinal := value % 256
    let lib : Int := if ordinal > 0xf0 then (ordinal : Int) - 256 else ordinal
    pure (⟨lib, value / 256 % 2 == 1, symbolAt symbols (value / 512), addend⟩, r)
  | .withAddend64 => do
    let (value, r) ← takeUInt e 8 input
    let (a, r) ← takeUInt e 8 r
    let ordinal := value % 65536
    let lib : Int := if ordinal > 0xfff0 then (ordinal : Int) - 65536 else ordinal
    pure (⟨lib, value / 65536 % 2 == 1, symbolAt symbols (value / Nat.pow 2 32), toSigned 64 a⟩, r)

def parseImports (e : Endian) (format : ImportFormat) (symbols : List UInt8) :
    Nat → List UInt8 → Except StreamFault (List ChainedImport)
  | 0, _ => .ok []
  | count + 1, input => do
    let (i, r) ← parseImport e format symbols input
    let is ← parseImports e format symbols count r
    pure (i :: is)

/-- The overflow offsets of a page with several chains, from the bytes at its first entry: up
to and including the one with the last-entry mark, or to the end of the bytes. -/
def overflowRun (e : Endian) : List UInt8 → List Nat
  | b0 :: b1 :: rest =>
    let v := e.value [b0, b1]
    if v ≥ 0x8000 then [v - 0x8000] else v :: overflowRun e rest
  | _ => []

/-- The page table flattened into (page, offset) pairs: pages without a chain give nothing, pages
with several give their overflow run. `bytes` are the segment's starts, where the overflow area is. -/
def flattenStarts (e : Endian) (bytes : List UInt8) (starts : List Nat) : List (Nat × Nat) :=
  (starts.zipIdx).flatMap fun (start, page) =>
    if start == 0xffff then []
    else if start < 0x8000 then [(page, start)]
    else (overflowRun e (bytes.drop (22 + 2 * (start - 0x8000)))).map (page, ·)

def parseSegmentStarts (e : Endian) (segment : Nat) (bytes : List UInt8) :
    Except StreamFault SegmentStarts := do
  let (size, r) ← takeUInt e 4 bytes
  let (pageSize, r) ← takeUInt e 2 r
  let (formatCode, r) ← takeUInt e 2 r
  let some format := PointerFormat.ofCode? (formatCode % 256) | .error ⟨.tag, r⟩
  let (segmentOffset, r) ← takeUInt e 8 r
  let (maxValid, r) ← takeUInt e 4 r
  let (pageCount, r) ← takeUInt e 2 r
  let (starts, _) ← takeMany e 2 pageCount r
  pure ⟨segment, size, pageSize, format, segmentOffset, maxValid, pageCount,
    flattenStarts e bytes starts⟩

def parseImageStarts (e : Endian) (bytes : List UInt8) : Except StreamFault ImageStarts := do
  let (segCount, r) ← takeUInt e 4 bytes
  let (offsets, afterOffsets) ← takeMany e 4 segCount r
  let segments ← (offsets.zipIdx).filterMapM fun (offset, index) =>
    if offset == 0 then pure none
    else match from? bytes offset with
      | some tail => some <$> parseSegmentStarts e index tail
      | none => .error ⟨.eof, afterOffsets⟩
  pure ⟨segCount, offsets, segments⟩

end ChainedFixups

open ChainedFixups in
/-- Reads a chained fixups payload. An offset past the end of the payload fails with `eof` and
the whole payload as what was left. -/
def parseChainedFixups (e : Endian) (blob : List UInt8) : Except StreamFault ChainedFixups := do
  let header ← parseHeader e blob
  let some symbols := from? blob header.symbolsOffset | .error ⟨.eof, blob⟩
  let imports ← if header.symbolsFormat == .uncompressed then
      match from? blob header.importsOffset with
      | some table => parseImports e header.importsFormat symbols header.importsCount table
      | none => .error ⟨.eof, blob⟩
    else pure []
  let some startsBytes := from? blob header.startsOffset | .error ⟨.eof, blob⟩
  let starts ← parseImageStarts e startsBytes
  pure ⟨header, imports, starts⟩

end ObjcImage
