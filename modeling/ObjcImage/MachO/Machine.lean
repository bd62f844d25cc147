import ObjcImage.Bytes.Stream

set_option autoImplicit false

/-!
Machines: the cpu type and subtype of an image, and the architecture names built from them
(`x86_64`, `arm64e`, `armv7s`, ...). The subtype's top byte holds capability bits and is dropped
before the subtype is named.
-/

namespace ObjcImage

inductive CpuType where
  | any | vax | mc680x0 | i386 | x86_64 | mc98000 | hppa | arm | arm64 | arm64_32 | mc88000
  | sparc | i860 | powerPC | powerPC64 | unknown
  deriving DecidableEq, Repr

namespace CpuType

def ofRaw : Nat → CpuType
  | 0 => .any | 1 => .vax | 6 => .mc680x0 | 7 => .i386 | 0x01000007 => .x86_64
  | 10 => .mc98000 | 11 => .hppa | 12 => .arm | 0x0100000c => .arm64 | 0x0200000c => .arm64_32
  | 13 => .mc88000 | 14 => .sparc | 15 => .i860 | 18 => .powerPC | 0x01000012 => .powerPC64
  | _ => .unknown

def name : CpuType → String
  | .any => "Any" | .vax => "Vax" | .mc680x0 => "Mc680x0" | .i386 => "I386"
  | .x86_64 => "X86_64" | .mc98000 => "Mc98000" | .hppa => "Hppa" | .arm => "Arm"
  | .arm64 => "Arm64" | .arm64_32 => "Arm64_32" | .mc88000 => "Mc88000" | .sparc => "Sparc"
  | .i860 => "I860" | .powerPC => "PowerPC" | .powerPC64 => "PowerPC64" | .unknown => "Unknown"

end CpuType

/-- A cpu subtype with its capability bits removed: named for the x86, arm and arm64 families,
kept as a number otherwise. -/
inductive CpuSubType where
  | x86 (name : String)
  | arm (name : String)
  | arm64 (name : String)
  | other (raw : Nat)
  deriving DecidableEq, Repr

namespace CpuSubType

def x86Names : List (Nat × String) := [(3, "All"), (4, "X86Arch1"), (8, "X86_64H")]

def armNames : List (Nat × String) :=
  [(0, "All"), (5, "V4T"), (6, "V6"), (7, "V5TEJ"), (8, "XScale"), (9, "V7"), (10, "V7F"),
    (11, "V7S"), (12, "V7K"), (13, "V8"), (14, "V6M"), (15, "V7M"), (16, "V7EM"), (17, "V8M")]

def arm64Names : List (Nat × String) := [(0, "All"), (1, "V8"), (2, "ARM64E")]

def ofRaw (cpu : CpuType) (raw : Nat) : CpuSubType :=
  let masked := raw % 0x1000000
  let named (table : List (Nat × String)) (make : String → CpuSubType) : CpuSubType :=
    match table.lookup masked with
    | some n => make n
    | none => .other masked
  match cpu with
  | .x86_64 | .i386 => named x86Names .x86
  | .arm => named armNames .arm
  | .arm64 => named arm64Names .arm64
  | _ => .other masked

def describe : CpuSubType → String
  | .x86 n => "X86(" ++ n ++ ")"
  | .arm n => "Arm(" ++ n ++ ")"
  | .arm64 n => "Arm64(" ++ n ++ ")"
  | .other raw => "Other(" ++ toString raw ++ ")"

end CpuSubType

structure Architecture where
  cpu : CpuType
  subtype : CpuSubType
  is64 : Bool
  endian : Endian
  deriving DecidableEq, Repr

namespace Architecture

def pointerWidth (a : Architecture) : Nat := if a.is64 then 8 else 4

def isArm64e (a : Architecture) : Bool := a.subtype == .arm64 "ARM64E"

def name (a : Architecture) : String :=
  match a.cpu, a.subtype with
  | .i386, _ => "i386"
  | .x86_64, .x86 "X86_64H" => "x86_64h"
  | .x86_64, _ => "x86_64"
  | .arm, .arm "V6" => "armv6"
  | .arm, .arm "V7" => "armv7"
  | .arm, .arm "V7F" => "armv7f"
  | .arm, .arm "V7S" => "armv7s"
  | .arm, .arm "V7K" => "armv7k"
  | .arm, .arm "V8" => "armv8"
  | .arm, _ => "arm"
  | .arm64, .arm64 "ARM64E" => "arm64e"
  | .arm64, _ => "arm64"
  | .arm64_32, _ => "arm64_32"
  | .powerPC, _ => "ppc"
  | .powerPC64, _ => "ppc64"
  | other, _ => String.ofList (other.name.toList.map Char.toLower)

end Architecture

end ObjcImage
