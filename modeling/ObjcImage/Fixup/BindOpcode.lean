import ObjcImage.Bytes.Leb128

set_option autoImplicit false

/-!
Classic bind opcode streams: a program for a small machine whose state is the current segment,
offset, symbol, ordinal, kind and addend. The stream is read into operations first, so a bad opcode
anywhere gives no records at all.
-/

namespace ObjcImage

inductive BindKind where
  | pointer | textAbsolute32 | textPCRel32
  deriving DecidableEq, Repr

def BindKind.ofCode? : Nat → Option BindKind
  | 1 => some .pointer | 2 => some .textAbsolute32 | 3 => some .textPCRel32
  | _ => none

def BindKind.name : BindKind → String
  | .pointer => "Pointer" | .textAbsolute32 => "TextAbsolute32" | .textPCRel32 => "TextPCRel32"

/-- One bound slot: `segmentOffset` bytes into segment `segmentIndex`. A negative ordinal is one of
the special ordinals (this image, the main executable, flat lookup). -/
structure BindRecord where
  segmentIndex : Nat
  segmentOffset : Nat
  kind : BindKind
  dylibOrdinal : Int
  symbol : String
  addend : Int
  deriving DecidableEq, Repr

inductive BindOp where
  | done
  | setOrdinal (ordinal : Int)
  | setSymbol (name : String)
  | setKind (kind : BindKind)
  | setAddend (addend : Int)
  | setSegment (index offset : Nat)
  | advance (delta : Nat)
  | bind
  | bindAdvance (delta : Nat)
  | bindScaled (scale : Nat)
  | bindRepeat (times skip : Nat)
  | threadedTableSize
  | threadedApply
  deriving DecidableEq, Repr

namespace BindOp

abbrev Remainder (input : List UInt8) := { r : List UInt8 // r.length ≤ input.length }

def decodeOne (b : UInt8) (rest : List UInt8) : Except StreamFault (BindOp × Remainder rest) :=
  let imm := b.toNat % 16
  let keep : Remainder rest := ⟨rest, Nat.le_refl _⟩
  match b.toNat / 16 with
  | 0 => .ok (.done, keep)
  | 1 => .ok (.setOrdinal imm, keep)
  | 2 => do
    let (n, r) ← Leb128.readUnsignedIn rest
    pure (.setOrdinal (toSigned 64 n), r)
  | 3 => .ok (.setOrdinal (if imm = 0 then 0 else (imm : Int) - 16), keep)
  | 4 =>
    .ok (.setSymbol (ByteStream.takeCString rest).1, ⟨(rest.dropWhile (· != 0)).drop 1,
      Nat.le_trans (List.drop_suffix 1 _).length_le (List.dropWhile_suffix _).length_le⟩)
  | 5 =>
    match BindKind.ofCode? imm with
    | some k => .ok (.setKind k, keep)
    | none => .error ⟨.tag, rest⟩
  | 6 => do
    let (n, r) ← Leb128.readSignedIn rest
    pure (.setAddend n, r)
  | 7 => do
    let (n, r) ← Leb128.readUnsignedIn rest
    pure (.setSegment imm n, r)
  | 8 => do
    let (n, r) ← Leb128.readUnsignedIn rest
    pure (.advance n, r)
  | 9 => .ok (.bind, keep)
  | 10 => do
    let (n, r) ← Leb128.readUnsignedIn rest
    pure (.bindAdvance n, r)
  | 11 => .ok (.bindScaled imm, keep)
  | 12 => do
    let (times, r) ← Leb128.readUnsignedIn rest
    let (skip, r') ← Leb128.readUnsignedIn r.1
    pure (.bindRepeat times skip, ⟨r'.1, Nat.le_trans r'.2 r.2⟩)
  | 13 =>
    if imm = 0 then do
      let (_, r) ← Leb128.readUnsignedIn rest
      pure (.threadedTableSize, r)
    else if imm = 1 then .ok (.threadedApply, keep)
    else .error ⟨.tag, rest⟩
  | _ => .error ⟨.tag, rest⟩

end BindOp

def decodeBindOps : List UInt8 → Except StreamFault (List BindOp)
  | [] => .ok []
  | b :: rest => do
    let (op, r) ← BindOp.decodeOne b rest
    have : r.1.length < (b :: rest).length := Nat.lt_succ_of_le r.2
    let ops ← decodeBindOps r.1
    pure (op :: ops)
termination_by input => input.length
decreasing_by omega

structure BindState where
  segmentIndex : Nat := 0
  offset : Nat := 0
  kind : BindKind := .pointer
  ordinal : Int := 0
  symbol : String := ""
  addend : Int := 0

namespace BindState

def record (s : BindState) : BindRecord :=
  ⟨s.segmentIndex, s.offset, s.kind, s.ordinal, s.symbol, s.addend⟩

/-- Moves the offset on, wrapping at 2^64: a large step is how a stream moves backwards. -/
def advance (s : BindState) (delta : Nat) : BindState :=
  { s with offset := (s.offset + delta) % Nat.pow 2 64 }

def bindRepeat (width skip : Nat) : Nat → BindState → BindState × List BindRecord
  | 0, s => (s, [])
  | times + 1, s =>
    let (s', records) := bindRepeat width skip times (s.advance (skip + width))
    (s', s.record :: records)

def step (width : Nat) (s : BindState) : BindOp → BindState × List BindRecord
  | .done | .threadedTableSize => (s, [])
  | .setOrdinal o => ({ s with ordinal := o }, [])
  | .setSymbol name => ({ s with symbol := name }, [])
  | .setKind k => ({ s with kind := k }, [])
  | .setAddend a => ({ s with addend := a }, [])
  | .setSegment index offset => ({ s with segmentIndex := index, offset := offset }, [])
  | .advance delta => (s.advance delta, [])
  | .bind | .threadedApply => (s.advance width, [s.record])
  | .bindAdvance delta => (s.advance (delta + width), [s.record])
  | .bindScaled scale => (s.advance (scale * width + width), [s.record])
  | .bindRepeat times skip => bindRepeat width skip times s

def run (width : Nat) : BindState → List BindOp → List BindRecord
  | _, [] => []
  | s, op :: ops =>
    let (s', records) := s.step width op
    records ++ run width s' ops

end BindState

def parseBindStream (bytes : List UInt8) (width : Nat) : Except StreamFault (List BindRecord) :=
  (decodeBindOps bytes).map (BindState.run width {})

end ObjcImage
