import ObjcImage.MachO.Header

set_option autoImplicit false

/-!
Load commands: segments and sections, the image's identity, the encryption range and where the
fixup data lies. Each command's size must cover its own prefix and stay inside the command area.
-/

namespace ObjcImage

open ByteStream

inductive CommandKind where
  | segment | symtab | dysymtab | loadDylib | idDylib | loadWeakDylib | segment64 | uuid
  | reexportDylib | encryptionInfo | dyldInfo | dyldInfoOnly | encryptionInfo64
  | dyldChainedFixups | unknown
  deriving DecidableEq, Repr

namespace CommandKind

def ofRaw : Nat → CommandKind
  | 0x1 => .segment | 0x2 => .symtab | 0xb => .dysymtab | 0xc => .loadDylib | 0xd => .idDylib
  | 0x80000018 => .loadWeakDylib | 0x19 => .segment64 | 0x1b => .uuid
  | 0x8000001f => .reexportDylib | 0x21 => .encryptionInfo | 0x22 => .dyldInfo
  | 0x80000022 => .dyldInfoOnly | 0x2c => .encryptionInfo64 | 0x80000034 => .dyldChainedFixups
  | _ => .unknown

def name : CommandKind → String
  | .segment => "LcSegment" | .symtab => "LcSymtab" | .dysymtab => "LcDysymtab"
  | .loadDylib => "LcLoadDylib" | .idDylib => "LcIdDylib" | .loadWeakDylib => "LcLoadWeakDylib"
  | .segment64 => "LcSegment64" | .uuid => "LcUuid" | .reexportDylib => "LcReexportDylib"
  | .encryptionInfo => "LcEncryptionInfo" | .dyldInfo => "LcDyldInfo"
  | .dyldInfoOnly => "LcDyldInfoOnly" | .encryptionInfo64 => "LcEncryptionInfo64"
  | .dyldChainedFixups => "LcDyldChainedFixups" | .unknown => "Unknown"

end CommandKind

/-- The kinds of section, by the low byte of the section flags; an unknown kind reads as regular. -/
def sectionTypeNames : List String :=
  ["SRegular", "SZeroFill", "SCstringLiterals", "S4ByteLiterals", "S8ByteLiterals",
    "SLiteralPointers", "SNonLazySymbolPointers", "SLazySymbolPointers", "SSymbolStubs",
    "SModInitFuncPointers", "SModTermFuncPointers", "SCoalesced", "SGbZeroFill", "SInterposing",
    "S16ByteLiterals", "SDtraceDof", "SLazyDylibSymbolPointers", "SThreadLocalRegular",
    "SThreadLocalZeroFill", "SThreadLocalVariables", "SThreadLocalVariablePointers",
    "SThreadLocalInitFunctionPointers", "SInitFuncOffsets"]

def knownSectionAttributes : Nat := 0xfe000700

structure Section where
  sectname : String
  segname : String
  addr : Nat
  size : Nat
  offset : Nat
  align : Nat
  reloff : Nat
  nreloc : Nat
  type : Nat
  attributes : Nat
  reserved1 : Nat
  reserved2 : Nat
  deriving DecidableEq, Repr

namespace Section

def typeName (s : Section) : String := sectionTypeNames.getD s.type "SRegular"

def isZerofill (s : Section) : Bool := s.type == 0x1 || s.type == 0xc || s.type == 0x12

def contains (s : Section) (address : Nat) : Bool := s.addr ≤ address && address - s.addr < s.size

end Section

structure Segment where
  kind : CommandKind
  cmdsize : Nat
  name : String
  vmaddr : Nat
  vmsize : Nat
  fileoff : Nat
  filesize : Nat
  maxprot : Nat
  initprot : Nat
  nsects : Nat
  flags : Nat
  sections : List Section
  deriving DecidableEq, Repr

namespace Segment

/-- The end of the segment's addresses, held at the largest address. -/
def vmEnd (s : Segment) : Nat := min (s.vmaddr + s.vmsize) (Nat.pow 2 64 - 1)

/-- Two segments overlap when both take up addresses and their ranges meet. -/
def overlaps (s t : Segment) : Bool :=
  s.vmsize > 0 && t.vmsize > 0 && s.vmaddr < t.vmEnd && t.vmaddr < s.vmEnd

end Segment

structure Dylib where
  kind : CommandKind
  cmdsize : Nat
  name : String
  timestamp : Nat
  currentVersion : String
  compatibilityVersion : String
  deriving DecidableEq, Repr

structure EncryptionInfo where
  kind : CommandKind
  cmdsize : Nat
  cryptoff : Nat
  cryptsize : Nat
  cryptid : Nat
  deriving DecidableEq, Repr

def EncryptionInfo.range? (e : EncryptionInfo) : Option (Nat × Nat) :=
  if e.cryptid == 0 || e.cryptsize == 0 then none else some (e.cryptoff, e.cryptoff + e.cryptsize)

structure DyldInfo where
  kind : CommandKind
  cmdsize : Nat
  fields : List Nat
  deriving DecidableEq, Repr

def DyldInfo.bindStreams (d : DyldInfo) : List (Nat × Nat) :=
  [(d.fields.getD 2 0, d.fields.getD 3 0), (d.fields.getD 4 0, d.fields.getD 5 0),
    (d.fields.getD 6 0, d.fields.getD 7 0)]

inductive LoadCommand where
  | segment (s : Segment)
  | uuid (cmdsize : Nat) (bytes : List UInt8)
  | encryptionInfo (e : EncryptionInfo)
  | dyldInfo (d : DyldInfo)
  | chainedFixups (cmdsize dataoff datasize : Nat)
  | dylibId (d : Dylib)
  | loadDylib (d : Dylib)
  | other (kind : CommandKind) (raw cmdsize : Nat)
  deriving DecidableEq, Repr

def versionString (v : Nat) : String :=
  toString (v / 65536) ++ "." ++ toString (v / 256 % 256) ++ "." ++ toString (v % 256)

def uuidString (bytes : List UInt8) : String :=
  let hex2 (b : UInt8) : String :=
    let ds := Nat.toDigits 16 b.toNat
    String.ofList (if ds.length < 2 then '0' :: ds else ds)
  let part (i n : Nat) : String := String.join (((bytes.drop i).take n).map hex2)
  part 0 4 ++ "-" ++ part 4 2 ++ "-" ++ part 6 2 ++ "-" ++ part 8 2 ++ "-" ++ part 10 6

namespace LoadCommand

def word (e : Endian) (width : Nat) (input : List UInt8) : Option (Nat × List UInt8) :=
  (takeUInt e width input).toOption

def fixedName (width : Nat) (input : List UInt8) : Option (String × List UInt8) :=
  if input.length < width then none else some ((takeCString (input.take width)).1, input.drop width)

def words (e : Endian) (width : Nat) (count : Nat) (input : List UInt8) :
    Option (List Nat × List UInt8) :=
  (takeMany e width count input).toOption

def parseSection (e : Endian) (is64 : Bool) (input : List UInt8) : Option (Section × List UInt8) := do
  let w := if is64 then 8 else 4
  let (sectname, r) ← fixedName 16 input
  let (segname, r) ← fixedName 16 r
  let (addr, r) ← word e w r
  let (size, r) ← word e w r
  let (fields, r) ← words e 4 7 r
  let r ← if is64 then (if r.length < 4 then none else some (r.drop 4)) else some r
  match fields with
  | [offset, align, reloff, nreloc, flags, reserved1, reserved2] =>
    some (⟨sectname, segname, addr, size, offset, align, reloff, nreloc,
      if flags % 256 < 0x17 then flags % 256 else 0, flags &&& knownSectionAttributes,
      reserved1, reserved2⟩, r)
  | _ => none

def parseSections (e : Endian) (is64 : Bool) : Nat → List UInt8 → Option (List Section)
  | 0, _ => some []
  | n + 1, input => do
    let (s, r) ← parseSection e is64 input
    let rest ← parseSections e is64 n r
    pure (s :: rest)

def parseSegment (e : Endian) (kind : CommandKind) (cmdsize : Nat) (body : List UInt8) :
    Option Segment := do
  let is64 := kind == .segment64
  let w := if is64 then 8 else 4
  let (name, r) ← fixedName 16 body
  let (vm, r) ← words e w 4 r
  let (fields, r) ← words e 4 4 r
  match vm, fields with
  | [vmaddr, vmsize, fileoff, filesize], [maxprot, initprot, nsects, flags] =>
    let sections ← parseSections e is64 nsects r
    pure ⟨kind, cmdsize, name, vmaddr, vmsize, fileoff, filesize, maxprot &&& 7, initprot &&& 7,
      nsects, flags &&& 0x1f, sections⟩
  | _, _ => none

def parseDylib (e : Endian) (kind : CommandKind) (cmdsize : Nat) (window body : List UInt8) :
    Option Dylib := do
  let (fields, _) ← words e 4 4 body
  match fields with
  | [nameOffset, timestamp, current, compatibility] =>
    let name := if nameOffset ≤ window.length then (takeCString (window.drop nameOffset)).1 else ""
    pure ⟨kind, cmdsize, name, timestamp, versionString current, versionString compatibility⟩
  | _ => none

def parse (e : Endian) (window : List UInt8) : Option LoadCommand := do
  let (raw, r) ← word e 4 window
  let (cmdsize, body) ← word e 4 r
  let kind := CommandKind.ofRaw raw
  match kind with
  | .segment | .segment64 => segment <$> parseSegment e kind cmdsize body
  | .uuid => if body.length < 16 then none else some (.uuid cmdsize (body.take 16))
  | .encryptionInfo | .encryptionInfo64 => do
    let (fields, _) ← words e 4 3 body
    match fields with
    | [off, size, id] => pure (.encryptionInfo ⟨kind, cmdsize, off, size, id⟩)
    | _ => none
  | .dyldInfo | .dyldInfoOnly => do
    let (fields, _) ← words e 4 10 body
    pure (.dyldInfo ⟨kind, cmdsize, fields⟩)
  | .dyldChainedFixups => do
    let (fields, _) ← words e 4 2 body
    match fields with
    | [off, size] => pure (.chainedFixups cmdsize off size)
    | _ => none
  | .idDylib => dylibId <$> parseDylib e kind cmdsize window body
  | .loadDylib | .loadWeakDylib | .reexportDylib => loadDylib <$> parseDylib e kind cmdsize window body
  | _ => pure (.other kind raw cmdsize)

def parseFrom (e : Endian) (index : Nat) : Nat → List UInt8 → Except ImageError (List LoadCommand)
  | 0, _ => .ok []
  | count + 1, area =>
    match word e 4 area, word e 4 (area.drop 4) with
    | some (raw, _), some (cmdsize, _) =>
      if cmdsize < 8 || cmdsize > area.length then
        .error (.malformedHeader (.badCommandSize index cmdsize))
      else
        match parse e (area.take cmdsize) with
        | none => .error (.malformedHeader (.unparsableCommand index raw))
        | some c => do
          let rest ← parseFrom e (index + 1) count (area.drop cmdsize)
          pure (c :: rest)
    | _, _ => .error (.malformedHeader (.truncatedCommand index))

def parseAll (bytes : List UInt8) (h : Header) : Except ImageError (List LoadCommand) :=
  if h.size + h.sizeofcmds > bytes.length then
    .error (.malformedHeader (.commandsExceedImage h.sizeofcmds))
  else if h.ncmds * 8 > h.sizeofcmds then
    .error (.malformedHeader (.tooManyCommands h.ncmds h.sizeofcmds))
  else parseFrom h.magic.endian 0 h.ncmds ((bytes.drop h.size).take h.sizeofcmds)

end LoadCommand

end ObjcImage
