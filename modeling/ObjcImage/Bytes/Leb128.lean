import ObjcImage.Bytes.Stream

set_option autoImplicit false

/-!
LEB128 numbers: seven bits a byte, least significant first. Bits past the sixty-fourth are dropped;
a number still going after ten bytes fails with `tooLarge`.
-/

namespace ObjcImage.Leb128

def unsignedFrom (shift acc : Nat) : List UInt8 → Except StreamFault (Nat × List UInt8)
  | [] => .error ⟨.eof, []⟩
  | b :: rest =>
    if 64 ≤ shift then .error ⟨.tooLarge, rest⟩
    else
      let acc := (acc + b.toNat % 128 * Nat.pow 2 shift) % Nat.pow 2 64
      if b.toNat < 128 then .ok (acc, rest) else unsignedFrom (shift + 7) acc rest

def signedFrom (shift acc : Nat) : List UInt8 → Except StreamFault (Int × List UInt8)
  | [] => .error ⟨.eof, []⟩
  | b :: rest =>
    if 64 ≤ shift then .error ⟨.tooLarge, rest⟩
    else
      let acc := (acc + b.toNat % 128 * Nat.pow 2 shift) % Nat.pow 2 64
      if b.toNat < 128 then
        let extended :=
          if shift + 7 < 64 ∧ 64 ≤ b.toNat % 128 then acc + (Nat.pow 2 64 - Nat.pow 2 (shift + 7)) else acc
        .ok (toSigned 64 extended, rest)
      else signedFrom (shift + 7) acc rest

def readUnsigned (input : List UInt8) : Except StreamFault (Nat × List UInt8) :=
  unsignedFrom 0 0 input

def readSigned (input : List UInt8) : Except StreamFault (Int × List UInt8) :=
  signedFrom 0 0 input

theorem unsignedFrom_rest {shift acc : Nat} {input rest : List UInt8} {n : Nat}
    (h : unsignedFrom shift acc input = .ok (n, rest)) : rest.length < input.length := by
  induction input generalizing shift acc with
  | nil => simp [unsignedFrom] at h
  | cons b r ih =>
    simp only [unsignedFrom] at h
    split at h
    · simp at h
    · split at h
      · simp only [Except.ok.injEq, Prod.mk.injEq] at h
        simp [← h.2]
      · have := ih h; simp only [List.length_cons]; omega

theorem signedFrom_rest {shift acc : Nat} {input rest : List UInt8} {n : Int}
    (h : signedFrom shift acc input = .ok (n, rest)) : rest.length < input.length := by
  induction input generalizing shift acc with
  | nil => simp [signedFrom] at h
  | cons b r ih =>
    simp only [signedFrom] at h
    split at h
    · simp at h
    · split at h
      · simp only [Except.ok.injEq, Prod.mk.injEq] at h
        simp [← h.2]
      · have := ih h; simp only [List.length_cons]; omega

/-- Reads an unsigned number and says that what is left is no longer than the input. -/
def readUnsignedIn (input : List UInt8) :
    Except StreamFault (Nat × { r : List UInt8 // r.length ≤ input.length }) :=
  match h : readUnsigned input with
  | .ok (n, r) => .ok (n, ⟨r, Nat.le_of_lt (unsignedFrom_rest h)⟩)
  | .error e => .error e

def readSignedIn (input : List UInt8) :
    Except StreamFault (Int × { r : List UInt8 // r.length ≤ input.length }) :=
  match h : readSigned input with
  | .ok (n, r) => .ok (n, ⟨r, Nat.le_of_lt (signedFrom_rest h)⟩)
  | .error e => .error e

end ObjcImage.Leb128
