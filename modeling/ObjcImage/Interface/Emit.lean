import ObjcImage.Interface.Render
import ObjcImage.MachO.LoadCommand

set_option autoImplicit false

/-!
The declarations of a whole object model, as one text: header, image diagnostics, forward
declarations, typedefs, one definition of each named struct or union used (its fullest body), then
the protocols, classes and categories that pass the filter.
-/

namespace ObjcImage

namespace TypeNode

mutual

def nodes : TypeNode → List TypeNode
  | .block (some types) => .block (some types) :: nodesAll types
  | .pointer target => .pointer target :: target.nodes
  | .array count element => .array count element :: element.nodes
  | .aggregate kind name (some fields) => .aggregate kind name (some fields) :: nodesOfFields fields
  | .modified m inner => .modified m inner :: inner.nodes
  | t => [t]

def nodesAll : List TypeNode → List TypeNode
  | [] => []
  | t :: ts => t.nodes ++ nodesAll ts

def nodesOfFields : List (Option String × TypeNode) → List TypeNode
  | [] => []
  | (_, t) :: fs => t.nodes ++ nodesOfFields fs

end

end TypeNode

namespace Interface

structure Selection where
  protocols : List Protocol
  classes : List ObjcClass
  categories : List Category

def categoryBefore (a b : Category) : Bool :=
  match a.extendedClass.name?, b.extendedClass.name? with
  | none, some _ => true
  | some _, none => false
  | some x, some y => x < y || (x == y && a.name ≤ b.name)
  | none, none => a.name ≤ b.name

def lastIndexOf (classes : List ObjcClass) (name : String) : Option Nat :=
  (classes.zipIdx.reverse.find? (·.1.name == name)).map (·.2)

/-- The chain from a class up through its superclasses, stopping before a class already placed
or already on the chain; `fuel` is more than the number of classes. -/
def ancestry (parent : Nat → Option Nat) (placed : Nat → Bool) : Nat → List Nat → Nat → List Nat
  | 0, chain, _ => chain
  | fuel + 1, chain, i =>
    if placed i || chain.contains i then chain
    else
      match parent i with
      | some p => ancestry parent placed fuel (chain ++ [i]) p
      | none => chain ++ [i]

def superclassIndex (classes : List ObjcClass) (i : Nat) : Option Nat :=
  classes[i]?.bind fun c => c.superclass.name?.bind (lastIndexOf classes)

def placeChain (parent : Nat → Option Nat) (count : Nat) (placed : List Nat) (start : Nat) :
    List Nat :=
  placed ++ (ancestry parent placed.contains (count + 1) [] start).reverse

def inheritanceOrder (classes : List ObjcClass) : List Nat :=
  (List.range classes.length).foldl (placeChain (superclassIndex classes) classes.length) []

/-- Moves each class after its selected superclasses and otherwise keeps the order. A class's
superclass is the last class of its superclass's name; a cycle is broken where it is met. -/
def superclassesFirst (classes : List ObjcClass) : List ObjcClass :=
  (inheritanceOrder classes).filterMap (classes[·]?)

def Selection.of (m : ObjectModel) (o : DumpOptions) : Selection :=
  let protocols := m.protocols.filter fun p => o.admits p.name
  let classes := m.classes.filter fun c => o.admits c.name
  let categories := m.categories.filter fun c =>
    o.admits c.name || c.extendedClass.name?.any o.admits
  let sorted : Selection := if o.sortClasses then
      ⟨protocols.mergeSort fun a b => a.name ≤ b.name,
        classes.mergeSort fun a b => a.name ≤ b.name, categories.mergeSort categoryBefore⟩
    else ⟨protocols, classes, categories⟩
  if o.sortByInheritance then { sorted with classes := superclassesFirst sorted.classes }
  else sorted

def Selection.types (s : Selection) : List TypeNode :=
  let methods :=
    s.protocols.flatMap (fun p => p.classMethods ++ p.instanceMethods ++ p.optionalClassMethods ++
      p.optionalInstanceMethods) ++
    s.classes.flatMap (fun c => c.classMethods ++ c.instanceMethods) ++
    s.categories.flatMap (fun c => c.classMethods ++ c.instanceMethods)
  let properties := s.protocols.flatMap (·.properties) ++ s.classes.flatMap (·.properties) ++
    s.categories.flatMap (·.properties)
  methods.flatMap (fun m => m.returnType :: m.argTypes) ++ properties.map (·.type) ++
    s.classes.flatMap (fun c => c.ivars.map (·.type))

structure AggregateBody where
  kind : AggregateKind
  name : String
  fields : List (Option String × TypeNode)

def AggregateBody.fullness (b : AggregateBody) : Nat × Nat :=
  (b.fields.length, (b.fields.filter (·.1.isSome)).length)

def fuller (a b : Nat × Nat) : Bool := a.1 > b.1 || (a.1 == b.1 && a.2 > b.2)

structure Usage where
  aggregates : List AggregateBody := []
  classes : List String := []
  protocols : List String := []
  functionPointer : Bool := false
  block : Bool := false

/-- Keeps the fuller of two bodies of one aggregate, the earlier one on a tie. -/
def keepFullest (b : AggregateBody) : List AggregateBody → List AggregateBody
  | [] => [b]
  | a :: rest =>
    if a.kind.keyword == b.kind.keyword && a.name == b.name then
      (if fuller b.fullness a.fullness then b else a) :: rest
    else a :: keepFullest b rest

def Usage.note (u : Usage) : TypeNode → Usage
  | .object className protocols =>
    { u with classes := u.classes ++ className.toList, protocols := u.protocols ++ protocols }
  | .functionPointer => { u with functionPointer := true }
  | .block none => { u with block := true }
  | .block (some []) => { u with block := true }
  | .aggregate kind (some name) (some fields) =>
    { u with aggregates := keepFullest ⟨kind, name, fields⟩ u.aggregates }
  | _ => u

def sortedNames (names : List String) : List String :=
  (names.mergeSort fun a b => a ≤ b).eraseDups

def Usage.of (s : Selection) : Usage :=
  let u := (s.types.flatMap TypeNode.nodes).foldl Usage.note {}
  let classes := u.classes ++ s.classes.filterMap (·.superclass.name?) ++
    s.categories.filterMap (·.extendedClass.name?)
  let protocols := u.protocols ++ s.protocols.flatMap (·.protocols) ++
    s.classes.flatMap (·.protocols) ++ s.categories.flatMap (·.protocols)
  { u with classes := sortedNames classes, protocols := sortedNames protocols,
           aggregates := u.aggregates.mergeSort fun a b =>
             a.kind.keyword < b.kind.keyword || (a.kind.keyword == b.kind.keyword && a.name ≤ b.name) }

def Usage.forwardDeclarations (u : Usage) (s : Selection) : String :=
  let classes := u.classes.filter fun n => !(s.classes.any (·.name == n))
  let protocols := u.protocols.filter fun n => !(s.protocols.any (·.name == n))
  "\n".intercalate <|
    (if classes.isEmpty then [] else ["@class " ++ ", ".intercalate classes ++ ";"]) ++
    (if protocols.isEmpty then [] else ["@protocol " ++ ", ".intercalate protocols ++ ";"])

def Usage.typedefs (u : Usage) : String :=
  "\n".intercalate <|
    (if u.functionPointer then
      ["typedef void (*" ++ Declaration.unknownFunctionPointer ++ ")(void);"] else []) ++
    (if u.block then ["typedef void (^" ++ Declaration.unknownBlock ++ ")(void);"] else [])

def toolVersion : String := "0.1.0"

def header (m : ObjectModel) : String :=
  let identity := m.identity
  let uuid := (identity.uuid.map fun u => ["// UUID: " ++ (uuidString u).map Char.toUpper]).getD []
  let install := match identity.installName, identity.currentVersion with
    | some name, some version => ["// Install name: " ++ name ++ " (current version " ++ version ++ ")"]
    | some name, none => ["// Install name: " ++ name]
    | none, _ => []
  let info := match m.imageInfo with
    | some i =>
      ("// Objective-C image info: version " ++ toString i.version ++ ", flags " ++
        Text.hex i.flags) ::
      (if i.swiftStableVersion != 0 then
        ["// Swift ABI version: " ++ toString i.swiftStableVersion]
      else if i.swiftUnstableVersion != 0 then
        ["// Swift version (pre-stable ABI): " ++ toString i.swiftUnstableVersion]
      else [])
    | none => []
  "\n".intercalate (["//", "// Generated by objcdump " ++ toolVersion, "//",
    "// Architecture: " ++ m.arch.name] ++ uuid ++ install ++ info ++ ["//"])

end Interface

open Interface in
def emit (m : ObjectModel) (o : DumpOptions) : String :=
  let s := Selection.of m o
  let u := Usage.of s
  let blocks :=
    (if o.showHeader then [header m] else []) ++
    ["\n".intercalate (m.diagnostics.map warning), u.forwardDeclarations s, u.typedefs] ++
    u.aggregates.map (fun b => Declaration.definition o.expandDepth b.kind (some b.name) (some b.fields)) ++
    s.protocols.map (protocolBlock o) ++ s.classes.map (classBlock o) ++
    s.categories.map (categoryBlock o)
  "\n\n".intercalate (blocks.filter (!·.isEmpty)) ++ "\n"

end ObjcImage
