import ObjcImage.Text.Utf8

set_option autoImplicit false

/-!
Reading values off the front of a byte stream. A read that finds too few bytes fails with `eof`
and keeps the bytes that were left.
-/

namespace ObjcImage

inductive Endian where
  | little | big
  deriving DecidableEq, Repr

def Endian.value (e : Endian) (bytes : List UInt8) : Nat :=
  match e with
  | .little => bytes.foldr (fun b acc => acc * 256 + b.toNat) 0
  | .big => bytes.foldl (fun acc b => acc * 256 + b.toNat) 0

inductive StreamFaultKind where
  | eof | tag | tooLarge
  deriving DecidableEq, Repr

def StreamFaultKind.name : StreamFaultKind → String
  | .eof => "Eof" | .tag => "Tag" | .tooLarge => "TooLarge"

structure StreamFault where
  kind : StreamFaultKind
  rest : List UInt8
  deriving DecidableEq, Repr

def StreamFault.message (f : StreamFault) : String :=
  f.kind.name ++ " (remaining " ++ toString f.rest.length ++ " bytes)"

def toSigned (bits n : Nat) : Int :=
  if Nat.pow 2 (bits - 1) ≤ n then (n : Int) - (Nat.pow 2 bits : Nat) else n

namespace ByteStream

def takeUInt (e : Endian) (width : Nat) (input : List UInt8) :
    Except StreamFault (Nat × List UInt8) :=
  if input.length < width then .error ⟨.eof, input⟩
  else .ok (e.value (input.take width), input.drop width)

def takeMany (e : Endian) (width : Nat) : Nat → List UInt8 → Except StreamFault (List Nat × List UInt8)
  | 0, input => .ok ([], input)
  | count + 1, input => do
    let (v, r) ← takeUInt e width input
    let (vs, r') ← takeMany e width count r
    pure (v :: vs, r')

/-- Reads a string up to its nul, as UTF-8 with replacements. Without a nul the string runs to
the end of the stream. -/
def takeCString (input : List UInt8) : String × List UInt8 :=
  let text := input.takeWhile (· != 0)
  (Text.lossyString text, (input.dropWhile (· != 0)).drop 1)

end ByteStream

end ObjcImage
