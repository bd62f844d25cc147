set_option autoImplicit false

/-!
Reading bytes as UTF-8 text without failing: each maximal stretch that cannot begin a well-formed
sequence becomes one `U+FFFD`.
-/

namespace ObjcImage.Text

def replacement : Char := '�'

def isContinuation (b : UInt8) : Bool := 0x80 ≤ b && b ≤ 0xBF

/-- The range the second byte of a sequence must fall in, by its lead byte; the later bytes only
have to be continuation bytes. -/
def secondByteFits (lead b : UInt8) : Bool :=
  if lead == 0xE0 then 0xA0 ≤ b && b ≤ 0xBF
  else if lead == 0xED then 0x80 ≤ b && b ≤ 0x9F
  else if lead == 0xF0 then 0x90 ≤ b && b ≤ 0xBF
  else if lead == 0xF4 then 0x80 ≤ b && b ≤ 0x8F
  else isContinuation b

def combine (lead : Nat) (rest : List UInt8) : Char :=
  Char.ofNat (rest.foldl (fun acc b => acc * 64 + (b.toNat % 64)) lead)

/-- The character that a lead byte opens, given the bytes after it, and how many of those bytes
the character takes: none for ASCII and for a stretch cut short at its second byte. -/
def leadChar (b : UInt8) (rest : List UInt8) : Char × Nat :=
  if b < 0x80 then (Char.ofNat b.toNat, 0)
  else if 0xC2 ≤ b && b ≤ 0xDF then
    match rest with
    | c :: _ => if isContinuation c then (combine (b.toNat % 32) [c], 1) else (replacement, 0)
    | [] => (replacement, 0)
  else if 0xE0 ≤ b && b ≤ 0xEF then
    match rest with
    | c :: d :: _ =>
      if !secondByteFits b c then (replacement, 0)
      else if isContinuation d then (combine (b.toNat % 16) [c, d], 2)
      else (replacement, 1)
    | [c] => if secondByteFits b c then (replacement, 1) else (replacement, 0)
    | [] => (replacement, 0)
  else if 0xF0 ≤ b && b ≤ 0xF4 then
    match rest with
    | c :: d :: e :: _ =>
      if !secondByteFits b c then (replacement, 0)
      else if !isContinuation d then (replacement, 1)
      else if isContinuation e then (combine (b.toNat % 8) [c, d, e], 3)
      else (replacement, 2)
    | [c, d] =>
      if !secondByteFits b c then (replacement, 0)
      else if isContinuation d then (replacement, 2)
      else (replacement, 1)
    | [c] => if secondByteFits b c then (replacement, 1) else (replacement, 0)
    | [] => (replacement, 0)
  else (replacement, 0)

def decodeLossy : List UInt8 → List Char
  | [] => []
  | b :: rest => (leadChar b rest).1 :: decodeLossy (rest.drop (leadChar b rest).2)
termination_by bytes => bytes.length
decreasing_by
  simp only [List.length_drop, List.length_cons]
  omega

def lossyString (bytes : List UInt8) : String := String.ofList (decodeLossy bytes)

end ObjcImage.Text
