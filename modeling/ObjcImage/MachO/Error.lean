import ObjcImage.Text.Hex

set_option autoImplicit false

/-!
What can go wrong when reading an image. An address computed past the last 64-bit address is
either a fault, which stops reading outright, or wraps around, as `AddressArithmetic` chooses.
-/

namespace ObjcImage

open Text

inductive HeaderProblem where
  | unrecognizedMagic
  | truncatedHeader
  | notMachO
  | truncatedFatHeader
  | fatTableTooLarge (entries : Nat)
  | truncatedFatTable
  | fatSliceOutside (offset size : Nat)
  | commandsExceedImage (sizeofcmds : Nat)
  | tooManyCommands (ncmds sizeofcmds : Nat)
  | truncatedCommand (index : Nat)
  | badCommandSize (index size : Nat)
  | unparsableCommand (index raw : Nat)
  | segmentExceedsFile (segment : String)
  | segmentsOverlap (first second : String)
  | sectionOutsideSegment (segment sect owner : String)
  | sectionExceedsFile (segment sect : String)
  | sectionsOverlap (segment sect segment2 sect2 : String)
  deriving DecidableEq, Repr

def HeaderProblem.describe : HeaderProblem → String
  | .unrecognizedMagic => "unrecognized magic"
  | .truncatedHeader => "truncated mach header"
  | .notMachO => "not a mach-o or fat file"
  | .truncatedFatHeader => "truncated fat header"
  | .fatTableTooLarge n => "fat arch table of " ++ toString n ++ " entries exceeds the file"
  | .truncatedFatTable => "truncated fat arch table"
  | .fatSliceOutside o s => "fat slice at " ++ hex o ++ " with size " ++ hex s ++ " exceeds the file"
  | .commandsExceedImage s => "load commands (" ++ hex s ++ " bytes) exceed the image"
  | .tooManyCommands n s => toString n ++ " load commands cannot fit in " ++ hex s ++ " bytes"
  | .truncatedCommand i => "truncated load command " ++ toString i
  | .badCommandSize i s => "load command " ++ toString i ++ " has invalid size " ++ hex s
  | .unparsableCommand i raw =>
    "unable to parse load command " ++ toString i ++ " (" ++ hex raw ++ ")"
  | .segmentExceedsFile s => "segment " ++ s ++ " exceeds the file"
  | .segmentsOverlap a b => "segments " ++ a ++ " and " ++ b ++ " overlap"
  | .sectionOutsideSegment seg sect owner =>
    "section " ++ seg ++ "," ++ sect ++ " lies outside segment " ++ owner
  | .sectionExceedsFile seg sect => "section " ++ seg ++ "," ++ sect ++ " exceeds the file"
  | .sectionsOverlap seg sect seg2 sect2 =>
    "sections " ++ seg ++ "," ++ sect ++ " and " ++ seg2 ++ "," ++ sect2 ++ " overlap"

inductive ImageError where
  | malformedHeader (problem : HeaderProblem)
  | unmapped (address size : Nat)
  | encrypted (address : Nat)
  | outOfBounds (offset size available : Nat)
  | parse (what : String)
  deriving DecidableEq, Repr

namespace ImageError

def kind : ImageError → String
  | .malformedHeader _ => "MalformedHeader"
  | .unmapped _ _ => "UnmappedAddress"
  | .encrypted _ => "Encrypted"
  | .outOfBounds _ _ _ => "OutOfBounds"
  | .parse _ => "Parse"

def message : ImageError → String
  | .malformedHeader p => "malformed header: " ++ p.describe
  | .unmapped a s => "address " ++ hex a ++ " (+" ++ hex s ++ ") is not mapped by any section"
  | .encrypted a => "address " ++ hex a ++ " lies in the encrypted range"
  | .outOfBounds o s n =>
    "read of " ++ hex s ++ " bytes at offset " ++ hex o ++ " exceeds " ++ hex n ++ " bytes"
  | .parse what => "parse error: " ++ what

end ImageError

def addressLimit : Nat := Nat.pow 2 64

inductive AddressFault where
  | addressOverflow
  deriving DecidableEq, Repr

def AddressFault.message : AddressFault → String
  | .addressOverflow => "attempt to add with overflow"

/-- How an address computed past the last 64-bit address is taken: as a fault, or wrapped around
modulo `addressLimit`. -/
inductive AddressArithmetic where
  | checked
  | wrapping
  deriving DecidableEq, Repr

namespace AddressArithmetic

def fit (m : AddressArithmetic) (a : Nat) : Except AddressFault Nat :=
  match m with
  | .checked => if a < addressLimit then .ok a else .error .addressOverflow
  | .wrapping => .ok (a % addressLimit)

def add (m : AddressArithmetic) (a b : Nat) : Except AddressFault Nat := m.fit (a + b)

end AddressArithmetic

end ObjcImage
