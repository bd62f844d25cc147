import ObjcImage.MachO.Error
import ObjcImage.TypeEncoding.Parser

set_option autoImplicit false

/-!
Soft failures met while reading an image's runtime metadata: what could not be read is written down,
on the entity it belongs to or on the image, and the entity keeps what could be read.
-/

namespace ObjcImage

/-- What happens to a nested list whose entries run past mapped memory: salvaging keeps the
entries before the first unmapped one, strict reading drops the whole list. -/
inductive ListPolicy where
  | salvage
  | strict
  deriving DecidableEq, Repr

def ListPolicy.outcome : ListPolicy → String
  | .salvage => "salvaged"
  | .strict => "dropped"

inductive ListKind where
  | method
  | ivar
  | property
  | protocol
  deriving DecidableEq, Repr

def ListKind.name : ListKind → String
  | .method => "method"
  | .ivar => "ivar"
  | .property => "property"
  | .protocol => "protocol"

inductive DiagnosticKind where
  | image (error : ImageError)
  | truncatedList (list : ListKind) (declared readable : Nat) (policy : ListPolicy)
  | badEntrySize (list : ListKind) (entsize : Nat)
  /-- A method repeats a selector of the same scope; the later one is dropped. -/
  | duplicateSelector (selector : String) (isClass : Bool)
  | encoding (error : MalformedEncoding)
  | ivarOrder (name : String) (offset previous : Nat)
  | invalidRecord (address : Nat) (reason : String)
  | unsupported (what : String)
  deriving DecidableEq, Repr

namespace DiagnosticKind

def name : DiagnosticKind → String
  | .image e => e.kind
  | .truncatedList .. => "TruncatedList"
  | .badEntrySize .. => "BadEntrySize"
  | .duplicateSelector .. => "DuplicateSelector"
  | .encoding _ => "MalformedEncoding"
  | .ivarOrder .. => "IvarOrder"
  | .invalidRecord .. => "InvalidRecord"
  | .unsupported _ => "Unsupported"

def message : DiagnosticKind → String
  | .image e => e.message
  | .truncatedList list declared readable policy =>
    list.name ++ " list declares " ++ toString declared ++ " entries but only " ++
      toString readable ++ " are mapped (" ++ policy.outcome ++ ")"
  | .badEntrySize list entsize =>
    list.name ++ " list entry size " ++ toString entsize ++ " is too small"
  | .duplicateSelector selector isClass =>
    "duplicate " ++ (if isClass then "class" else "instance") ++ " method " ++ selector ++
      "; later definition dropped"
  | .encoding e => e.message
  | .ivarOrder name offset previous =>
    "ivar " ++ name ++ " at offset " ++ toString offset ++
      " is below the previous ivar offset " ++ toString previous
  | .invalidRecord address reason => "invalid record at " ++ Text.hex address ++ ": " ++ reason
  | .unsupported what => "unsupported: " ++ what

end DiagnosticKind

structure Diagnostic where
  address : Option Nat
  kind : DiagnosticKind
  deriving DecidableEq, Repr

def Diagnostic.message (d : Diagnostic) : String := d.kind.message

end ObjcImage
