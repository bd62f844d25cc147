import ObjcImage.Runtime.Diagnostic
import ObjcImage.Runtime.Property
import ObjcImage.Runtime.ClassRef
import ObjcImage.MachO.Machine
import ObjcImage.Text.Hex

set_option autoImplicit false

/-!
The object model of one image: its protocols, classes and categories. A top-level record that
cannot be read is a placeholder named for its address, so there is one entity for each slot.
-/

namespace ObjcImage

structure ImageInfo where
  version : Nat
  flags : Nat
  deriving DecidableEq, Repr

namespace ImageInfo

def hasCategoryClassProperties (i : ImageInfo) : Bool := i.flags / 64 % 2 == 1

def swiftStableVersion (i : ImageInfo) : Nat := i.flags / 65536

def swiftUnstableVersion (i : ImageInfo) : Nat := i.flags / 256 % 256

end ImageInfo

structure ImageIdentity where
  uuid : Option (List UInt8) := none
  installName : Option String := none
  currentVersion : Option String := none
  deriving DecidableEq, Repr

/-- A method: its selector, its decoded return and argument types (the receiver and the selector
argument left out), its raw type string, and its implementation's address when it has one. -/
structure Method where
  selector : String
  returnType : TypeNode
  argTypes : List TypeNode
  isClass : Bool
  encoding : String
  imp : Option Nat
  deriving Repr

structure Ivar where
  name : String
  type : TypeNode
  encoding : String
  offset : Nat
  size : Nat
  alignment : Nat
  deriving Repr

structure ObjcClass where
  name : String
  address : Nat
  superclass : ClassRef
  instanceStart : Nat
  instanceSize : Nat
  flags : Nat
  ivars : List Ivar
  instanceMethods : List Method
  classMethods : List Method
  properties : List Property
  protocols : List String
  isSwift : Bool
  placeholder : Bool
  diagnostics : List Diagnostic
  deriving Repr

structure Category where
  name : String
  address : Nat
  extendedClass : ClassRef
  protocols : List String
  instanceMethods : List Method
  classMethods : List Method
  properties : List Property
  diagnostics : List Diagnostic
  placeholder : Bool
  deriving Repr

/-- A protocol. It is complete when it was read without any diagnostic. -/
structure Protocol where
  name : String
  address : Nat
  protocols : List String := []
  classMethods : List Method := []
  instanceMethods : List Method := []
  optionalClassMethods : List Method := []
  optionalInstanceMethods : List Method := []
  properties : List Property := []
  diagnostics : List Diagnostic := []
  complete : Bool := false
  placeholder : Bool := false
  deriving Repr

def placeholderName (address : Nat) : String := "<invalid record at " ++ Text.hex address ++ ">"

def ObjcClass.placeholderAt (address : Nat) (d : Diagnostic) : ObjcClass :=
  { name := placeholderName address, address, superclass := .unresolved none, instanceStart := 0,
    instanceSize := 0, flags := 0, ivars := [], instanceMethods := [], classMethods := [],
    properties := [], protocols := [], isSwift := false, placeholder := true, diagnostics := [d] }

def Category.placeholderAt (address : Nat) (d : Diagnostic) : Category :=
  { name := placeholderName address, address, extendedClass := .unresolved none, protocols := [],
    instanceMethods := [], classMethods := [], properties := [], diagnostics := [d],
    placeholder := true }

def Protocol.placeholderAt (address : Nat) (d : Diagnostic) : Protocol :=
  { name := placeholderName address, address, diagnostics := [d], placeholder := true }

structure ObjectModel where
  arch : Architecture
  identity : ImageIdentity := {}
  imageInfo : Option ImageInfo := none
  classes : List ObjcClass := []
  /-- The position in `classes` of each name's first class; the first binding of a name counts. -/
  classIndex : List (String × Nat) := []
  categories : List Category := []
  protocols : List Protocol := []
  protocolIndex : List (String × Nat) := []
  diagnostics : List Diagnostic := []

namespace ObjectModel

def pushClass (m : ObjectModel) (c : ObjcClass) : ObjectModel :=
  { m with
    classes := m.classes ++ [c]
    classIndex := match m.classIndex.lookup c.name with
      | some _ => m.classIndex
      | none => (c.name, m.classes.length) :: m.classIndex }

def pushCategory (m : ObjectModel) (c : Category) : ObjectModel :=
  { m with categories := m.categories ++ [c] }

/-- Adds a protocol unless one of its name is known; a complete definition takes the place of an
incomplete one of the same name. -/
def addProtocol (m : ObjectModel) (p : Protocol) : ObjectModel :=
  { m with
    protocols := match m.protocolIndex.lookup p.name with
      | some i => if (m.protocols[i]?.any (!·.complete)) && p.complete then m.protocols.set i p else m.protocols
      | none => m.protocols ++ [p]
    protocolIndex := match m.protocolIndex.lookup p.name with
      | some _ => m.protocolIndex
      | none => (p.name, m.protocols.length) :: m.protocolIndex }

def pushDiagnostic (m : ObjectModel) (d : Diagnostic) : ObjectModel :=
  { m with diagnostics := m.diagnostics ++ [d] }

def findClass? (m : ObjectModel) (name : String) : Option ObjcClass :=
  (m.classIndex.lookup name).bind (m.classes[·]?)

def findProtocol? (m : ObjectModel) (name : String) : Option Protocol :=
  (m.protocolIndex.lookup name).bind (m.protocols[·]?)

def diagnosticCount (m : ObjectModel) : Nat :=
  m.diagnostics.length + (m.classes.map (·.diagnostics.length)).foldl (· + ·) 0 +
    (m.categories.map (·.diagnostics.length)).foldl (· + ·) 0 +
    (m.protocols.map (·.diagnostics.length)).foldl (· + ·) 0

end ObjectModel

end ObjcImage
