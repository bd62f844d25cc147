import Std.Data.HashMap
import ObjcImage.Runtime.Model
import ObjcImage.Runtime.Record

set_option autoImplicit false

/-!
Reading an image's runtime metadata into an object model. Only a malformed top-level list section
stops the walk, and a fault stops everything; every other failure becomes a diagnostic. Class names
and protocols are read once per address, a protocol recorded before the ones it adopts.
-/

namespace ObjcImage

structure WalkError where
  reason : String
  address : Nat
  deriving DecidableEq, Repr

def WalkError.message (e : WalkError) : String :=
  e.reason ++ " (at " ++ Text.hex e.address ++ ")"

structure Notes where
  diagnostics : List Diagnostic := []
  selectors : List (String × Bool) := []

abbrev Reading := StateM Notes

def note {m : Type → Type} [MonadStateOf Notes m] (d : Diagnostic) : m Unit :=
  modifyThe Notes fun n => { n with diagnostics := n.diagnostics ++ [d] }

namespace Metadata

section Lists

variable (img : MachImage) (policy : ListPolicy)

def mappedRun (first entsize : Nat) : Nat → Nat → Nat
  | i, 0 => i
  | i, n + 1 =>
    match img.translate (first + i * entsize) entsize with
    | .ok _ => mappedRun first entsize (i + 1) n
    | .error _ => i

/-- The addresses of a list's entries: those before the first that is not mapped, or none at all
under the strict policy when some entry is not mapped. -/
def listEntries (list : ListKind) (first count entsize : Nat) : Reading (List Nat) := do
  let readable := mappedRun img first entsize 0 count
  if readable < count then
    note ⟨some first, .truncatedList list count readable policy⟩
    if policy = .strict then return []
  return (List.range readable).map fun i => first + i * entsize

def listAddress : SlotValue → Reading (Option Nat)
  | .value address => pure (some address)
  | .null => pure none
  | .bind symbol => do
    note ⟨none, .unsupported ("list pointer bound to " ++ symbol)⟩
    pure none

def methodOf (selector : String) (encoding : Except ImageError String) (isClass : Bool)
    (imp : Option Nat) (entry : Nat) : Reading Method :=
  match encoding with
  | .error e => do
    note ⟨some entry, .image e⟩
    let raw := "types unreadable at " ++ Text.hex entry ++ ": " ++ e.message
    pure ⟨selector, .unknown raw, [], isClass, "", imp⟩
  | .ok types =>
    match decodeMethod types with
    | .ok decoded => pure ⟨selector, decoded.headD (.primitive .void), decoded.drop 3, isClass, types, imp⟩
    | .error e => do
      note ⟨some entry, .encoding e⟩
      pure ⟨selector, .unknown types, [], isClass, types, imp⟩

/-- Reads the method entry at `entry`, the `index`-th of its list. Its type string is the
extended one when the list has them and it can be read. A selector already taken in the same
scope drops the method. -/
def readMethod (small isClass : Bool) (extended : Option Nat) (index entry : Nat) :
    Reading (Option Method) := do
  match MethodEntry.read img entry small with
  | .error e =>
    note ⟨some entry, .image e⟩
    return none
  | .ok raw =>
    match raw.name >>= img.readCString with
    | .error e =>
      note ⟨some entry, .image e⟩
      return none
    | .ok selector =>
      let extendedTypes := extended.bind fun base =>
        let slot := base + index * img.arch.pointerWidth
        if slot < Nat.pow 2 64 then (img.readPointer slot >>= img.readString).toOption else none
      let encoding := match extendedTypes with
        | some types => .ok types
        | none => raw.types >>= img.readCString
      if (← get).selectors.contains (selector, isClass) then
        note ⟨some entry, .duplicateSelector selector isClass⟩
        return none
      modify fun n => { n with selectors := n.selectors ++ [(selector, isClass)] }
      some <$> methodOf selector encoding isClass raw.imp entry

def methodList (value : SlotValue) (isClass : Bool) (extended : Option Nat) :
    Reading (List Method × Nat) := do
  let some list ← listAddress value | return ([], 0)
  match ListHeader.read img list with
  | .error e =>
    note ⟨some list, .image e⟩
    return ([], 0)
  | .ok header =>
    let small := header.isSmall
    if header.entsize < methodEntrySize img.arch.pointerWidth small then
      note ⟨some list, .badEntrySize .method header.entsize⟩
      return ([], header.count)
    let entries ← listEntries img policy .method (list + ListHeader.size) header.count header.entsize
    let methods ← entries.zipIdx.filterMapM fun (entry, index) =>
      readMethod img small isClass extended index entry
    return (methods, header.count)

def readIvar (previous : Option Nat) (entry : Nat) : Reading (Option Ivar) := do
  match IvarEntry.read img entry with
  | .error e =>
    note ⟨some entry, .image e⟩
    return none
  | .ok raw =>
    match img.readString raw.name with
    | .error e =>
      note ⟨some entry, .image e⟩
      return none
    | .ok name =>
      let encoding ← match raw.types with
        | .null => pure ""
        | types =>
          match img.readString types with
          | .ok s => pure s
          | .error e => do
            note ⟨some entry, .image e⟩
            pure ""
      let offset ← match raw.offset.address? with
        | some slot =>
          match img.readU32 slot with
          | .ok o => pure o
          | .error e => do
            note ⟨some slot, .image e⟩
            pure 0
        | none => pure 0
      if img.arch.is64 then
        if let some prev := previous then
          if offset < prev then note ⟨some entry, .ivarOrder name offset prev⟩
      let type ← match decode encoding with
        | .ok t => pure t
        | .error e => do
          note ⟨some entry, .encoding e⟩
          pure (.unknown encoding)
      return some ⟨name, type, encoding, offset, raw.size, raw.alignment img.arch.pointerWidth⟩

def ivarList (value : SlotValue) : Reading (List Ivar) := do
  let some list ← listAddress value | return []
  match ListHeader.read img list with
  | .error e =>
    note ⟨some list, .image e⟩
    return []
  | .ok header =>
    if header.entsize < ivarEntrySize img.arch.pointerWidth then
      note ⟨some list, .badEntrySize .ivar header.entsize⟩
      return []
    let entries ← listEntries img policy .ivar (list + ListHeader.size) header.count header.entsize
    entries.foldlM (fun ivars entry => do
      match ← readIvar img (ivars.getLast?.map (·.offset)) entry with
      | some ivar => pure (ivars ++ [ivar])
      | none => pure ivars) []

def propertyList (value : SlotValue) (isClass : Bool) : Reading (List Property) := do
  let some list ← listAddress value | return []
  match ListHeader.read img list with
  | .error e =>
    note ⟨some list, .image e⟩
    return []
  | .ok header =>
    if header.entsize < propertyEntrySize img.arch.pointerWidth then
      note ⟨some list, .badEntrySize .property header.entsize⟩
      return []
    let entries ← listEntries img policy .property (list + ListHeader.size) header.count header.entsize
    entries.filterMapM fun entry => do
      let strings : Except ImageError (String × String) := do
        let raw ← PropertyEntry.read img entry
        pure (← img.readString raw.name, ← img.readString raw.attributes)
      match strings with
      | .ok (name, attributes) =>
        let (property, error) := parseProperty name attributes isClass
        if let some e := error then note ⟨some entry, .encoding e⟩
        return some property
      | .error e =>
        note ⟨some entry, .image e⟩
        return none

def methodListAlong (protocol : Nat) (extended : Option Nat) (value : SlotValue) (isClass : Bool) :
    Reading (List Method × Option Nat) := do
  let (methods, declared) ← methodList img policy value isClass extended
  match extended with
  | none => return (methods, none)
  | some base =>
    let next := base + declared * img.arch.pointerWidth
    if next < Nat.pow 2 64 then return (methods, some next)
    note ⟨some protocol, .invalidRecord base
      "extended method types run past the end of the address space"⟩
    return (methods, none)

def protocolMethods (address : Nat) (record : ProtocolRecord) :
    Reading (List Method × List Method × List Method × List Method) := do
  let extended := record.extendedMethodTypes.bind SlotValue.address?
  let (instanceMethods, extended) ←
    methodListAlong img policy address extended record.instanceMethods false
  let (classMethods, extended) ← methodListAlong img policy address extended record.classMethods true
  let (optionalInstance, extended) ←
    methodListAlong img policy address extended record.optionalInstanceMethods false
  let (optionalClass, _) ←
    methodListAlong img policy address extended record.optionalClassMethods true
  return (instanceMethods, classMethods, optionalInstance, optionalClass)

end Lists

structure Walker where
  classNames : Std.HashMap Nat String := {}
  protocolNames : Std.HashMap Nat String := {}
  model : ObjectModel

abbrev Walking := StateT Walker (Except AddressFault)

abbrev EntityReading := StateT Notes Walking

def reading {α : Type} (r : Reading α) : EntityReading α :=
  fun n => pure (r.run n)

section Records

variable (img : MachImage) (policy : ListPolicy)

def dataAddress (address : Nat) (record : ClassRecord) : Except ImageError Nat :=
  match record.data with
  | some data => .ok data
  | none => .error (.unmapped (address + 4 * img.arch.pointerWidth) img.arch.pointerWidth)

def classHead (address : Nat) : Except ImageError (ClassRecord × ClassData × String) := do
  let record ← ClassRecord.read img address
  let data ← ClassData.read img (← dataAddress img address record)
  pure (record, data, ← img.readString data.name)

/-- The read-only data of a class's metaclass; none when the metaclass is bound to another image,
which leaves the class no class methods of its own. -/
def metaclassData (address : Nat) : SlotValue → Except ImageError (Option ClassData)
  | .value metaclass => do
    let record ← ClassRecord.read img metaclass
    some <$> ClassData.read img (← dataAddress img metaclass record)
  | .null => .error (.unmapped address img.arch.pointerWidth)
  | .bind _ => .ok none

def classNameAt (address : Nat) : Walking (Except ImageError String) := do
  if let some name := (← get).classNames[address]? then return .ok name
  match classHead img address with
  | .ok (_, _, name) =>
    modify fun s => { s with classNames := s.classNames.insert address name }
    return .ok name
  | .error e => return .error e

def classRef (value : SlotValue) (isRoot : Bool) : Walking ClassRef :=
  match value with
  | .value address => do
    match ← classNameAt img address with
    | .ok name => return .named name
    | .error _ => return .unresolved (some address)
  | .bind symbol => return .named (symbolName symbol)
  | .null => return if isRoot then .root else .unresolved none

def protocolRefs (resolve : Nat → Walking (Except ImageError String)) (value : SlotValue) :
    EntityReading (List String) := do
  let some list ← reading (listAddress value) | return []
  match img.readWord list with
  | .error e =>
    note ⟨some list, .image e⟩
    return []
  | .ok count =>
    let w := img.arch.pointerWidth
    let entries ← reading (listEntries img policy .protocol (list + w) (min count 0xffffffff) w)
    entries.filterMapM fun entry => do
      match img.readPointer entry with
      | .ok (.value address) =>
        match ← resolve address with
        | .ok name => return some name
        | .error e =>
          note ⟨some address, .image e⟩
          return none
      | .ok (.bind symbol) => return some (symbolName symbol)
      | .ok .null => return none
      | .error e =>
        note ⟨some entry, .image e⟩
        return none

/-- A protocol from its record. It is complete when nothing was noticed while reading it. -/
def protocolBody (resolve : Nat → Walking (Except ImageError String)) (address : Nat)
    (record : ProtocolRecord) (name : String) : EntityReading Protocol := do
  let protocols ← protocolRefs img policy resolve record.protocols
  let (instanceMethods, classMethods, optionalInstance, optionalClass) ←
    reading (protocolMethods img policy address record)
  let instanceProperties ← reading (propertyList img policy record.instanceProperties false)
  let classProperties ← match record.classProperties with
    | some value => reading (propertyList img policy value true)
    | none => pure []
  let diagnostics := (← get).diagnostics
  return {
    name, address, protocols, classMethods, instanceMethods,
    optionalClassMethods := optionalClass, optionalInstanceMethods := optionalInstance,
    properties := instanceProperties ++ classProperties, diagnostics,
    complete := diagnostics.isEmpty }

/-- The name of the protocol at `address`. The first time an address is met, its record is read
and the protocol put into the model; the name is kept for the address before the protocols it
adopts are read. `fuel` bounds how deep adoption goes; `protocolFuel` is never used up. -/
def protocolAt : Nat → Nat → Walking (Except ImageError String)
  | 0, address => do
    return match (← get).protocolNames[address]? with
      | some name => .ok name
      | none => .error (.unmapped address 0)
  | fuel + 1, address => do
    if let some name := (← get).protocolNames[address]? then return .ok name
    let record? ← (ProtocolRecord.read img address : Except AddressFault _)
    let head : Except ImageError (ProtocolRecord × String) := do
      let record ← record?
      pure (record, ← img.readString record.name)
    match head with
    | .error e => return .error e
    | .ok (record, name) =>
      modify fun s => { s with protocolNames := s.protocolNames.insert address name }
      let (protocol, _) ← (protocolBody img policy (protocolAt fuel) address record name).run {}
      modify fun s => { s with model := s.model.addProtocol protocol }
      return .ok name

/-- A bound on how deep protocols adopt one another. Every protocol on a chain of adoption that is
still being read has a distinct, mapped address, and no more addresses are mapped than the
sections backed by the file hold bytes. -/
def protocolFuel : Nat :=
  ((img.sections.filter fun s => !s.isZerofill).map (·.size)).foldl (· + ·) 0 + 1

def classBody (resolve : Nat → Walking (Except ImageError String)) (address : Nat)
    (record : ClassRecord) (data : ClassData) (name : String) : EntityReading ObjcClass := do
  let superclass ← classRef img record.superclass data.isRoot
  let (instanceMethods, _) ← reading (methodList img policy data.baseMethods false none)
  let protocols ← protocolRefs img policy resolve data.baseProtocols
  let ivars ← reading (ivarList img policy data.ivars)
  let properties ← reading (propertyList img policy data.baseProperties false)
  let (classMethods, classProperties) ← match metaclassData img address record.isa with
    | .ok (some metaData) => do
      let (methods, _) ← reading (methodList img policy metaData.baseMethods true none)
      let metaProperties ← reading (propertyList img policy metaData.baseProperties true)
      pure (methods, metaProperties)
    | .ok none => pure ([], [])
    | .error e => do
      note ⟨some address, .image e⟩
      pure ([], [])
  let diagnostics := (← get).diagnostics
  return {
    name, address, superclass, instanceStart := data.instanceStart,
    instanceSize := data.instanceSize, flags := data.flags, ivars, instanceMethods, classMethods,
    properties := properties ++ classProperties, protocols, isSwift := record.isSwift,
    placeholder := false, diagnostics }

def readClass (resolve : Nat → Walking (Except ImageError String)) (address : Nat) :
    Walking (Except ImageError ObjcClass) := do
  match classHead img address with
  | .error e => return .error e
  | .ok (record, data, name) =>
    modify fun s => { s with classNames := s.classNames.insert address name }
    let (c, _) ← (classBody img policy resolve address record data name).run {}
    return .ok c

def categoryBody (resolve : Nat → Walking (Except ImageError String)) (address : Nat)
    (record : CategoryRecord) (name : String) : EntityReading Category := do
  let extendedClass ← classRef img record.cls false
  let (instanceMethods, _) ← reading (methodList img policy record.instanceMethods false none)
  let (classMethods, _) ← reading (methodList img policy record.classMethods true none)
  let protocols ← protocolRefs img policy resolve record.protocols
  let instanceProperties ← reading (propertyList img policy record.instanceProperties false)
  let classProperties ← match record.classProperties with
    | some value => reading (propertyList img policy value true)
    | none => pure []
  let diagnostics := (← get).diagnostics
  return {
    name, address, extendedClass, protocols, instanceMethods, classMethods,
    properties := instanceProperties ++ classProperties, diagnostics, placeholder := false }

def readCategory (resolve : Nat → Walking (Except ImageError String)) (hasClassProperties : Bool)
    (address : Nat) : Walking (Except ImageError Category) := do
  let head : Except ImageError (CategoryRecord × String) := do
    let record ← CategoryRecord.read img address hasClassProperties
    pure (record, ← img.readString record.name)
  match head with
  | .error e => return .error e
  | .ok (record, name) =>
    let (c, _) ← (categoryBody img policy resolve address record name).run {}
    return .ok c

end Records

def pointerList (img : MachImage) (sectname : String) :
    Except WalkError (List (Nat × Except ImageError SlotValue)) :=
  match img.sectionNamed? sectname with
  | none => .ok []
  | some (sect, _) =>
    let w := img.arch.pointerWidth
    if sect.size % w != 0 then
      .error ⟨sectname ++ " size " ++ Text.hex sect.size ++ " is not a multiple of the pointer size",
        sect.addr⟩
    else
      match img.translate sect.addr sect.size with
      | .error e => .error ⟨sectname ++ " is unreadable: " ++ e.message, sect.addr⟩
      | .ok _ =>
        .ok ((List.range (sect.size / w)).map fun i =>
          let slot := sect.addr + i * w
          (slot, img.readPointer slot))

def recordTarget (slot : Nat) : Except ImageError SlotValue → Except String Nat
  | .ok (.value address) => .ok address
  | .ok .null => .error ("null entry at " ++ Text.hex slot)
  | .ok (.bind symbol) => .error ("entry at " ++ Text.hex slot ++ " bound to " ++ symbol)
  | .error e => .error e.message

def invalid (address : Nat) (reason : String) : Walking Diagnostic := do
  let d : Diagnostic := ⟨some address, .invalidRecord address reason⟩
  modify fun s => { s with model := s.model.pushDiagnostic d }
  return d

section Top

variable (img : MachImage) (policy : ListPolicy)

def walkProtocol (fuel : Nat) (entry : Nat × Except ImageError SlotValue) : Walking Unit := do
  let (slot, value) := entry
  let result ← match recordTarget slot value with
    | .error reason => pure (Except.error reason)
    | .ok address => do
      match ← protocolAt img policy fuel address with
      | .ok name => pure (.ok name)
      | .error e => pure (.error (e.message ++ " (record at " ++ Text.hex address ++ ")"))
  if let .error reason := result then
    let d ← invalid slot reason
    modify fun s => { s with model := s.model.addProtocol (Protocol.placeholderAt slot d) }

def walkClass (fuel : Nat) (entry : Nat × Except ImageError SlotValue) : Walking Unit := do
  let (slot, value) := entry
  let c ← match recordTarget slot value with
    | .ok address => do
      match ← readClass img policy (protocolAt img policy fuel) address with
      | .ok c => pure c
      | .error e => do
        let d ← invalid address e.message
        pure (ObjcClass.placeholderAt address d)
    | .error reason => do
      let d ← invalid slot reason
      pure (ObjcClass.placeholderAt slot d)
  modify fun s => { s with model := s.model.pushClass c }

def walkCategory (fuel : Nat) (hasClassProperties : Bool) (entry : Nat × Except ImageError SlotValue) :
    Walking Unit := do
  let (slot, value) := entry
  let c ← match recordTarget slot value with
    | .ok address => do
      match ← readCategory img policy (protocolAt img policy fuel) hasClassProperties address with
      | .ok c => pure c
      | .error e => do
        let d ← invalid address e.message
        pure (Category.placeholderAt address d)
    | .error reason => do
      let d ← invalid slot reason
      pure (Category.placeholderAt slot d)
  modify fun s => { s with model := s.model.pushCategory c }

/-- The model before any record is read: identity, a note on metadata of the first runtime,
which is not read, and the image info. -/
def initialModel : ObjectModel :=
  let dylib := img.dylibId?
  let identity : ImageIdentity :=
    { uuid := img.uuid?, installName := dylib.map (·.name),
      currentVersion := dylib.map (·.currentVersion) }
  let model : ObjectModel := { arch := img.arch, identity }
  let legacy := img.sections.find? fun s => s.segname == "__OBJC" && s.sectname == "__module_info"
  let model := match legacy with
    | some s => model.pushDiagnostic ⟨some s.addr, .unsupported "Objective-C 1 runtime metadata"⟩
    | none => model
  match img.sectionNamed? "__objc_imageinfo" with
  | none => model
  | some (sect, _) =>
    let info : Except ImageError ImageInfo := do
      pure ⟨← img.readU32 sect.addr, ← img.readU32 (sect.addr + 4)⟩
    match info with
    | .ok info => { model with imageInfo := some info }
    | .error e => model.pushDiagnostic ⟨some sect.addr, .image e⟩

end Top

end Metadata

open Metadata in
def topLists (img : MachImage) : Except WalkError
    (List (Nat × Except ImageError SlotValue) × List (Nat × Except ImageError SlotValue) ×
      List (Nat × Except ImageError SlotValue)) := do
  pure (← pointerList img "__objc_protolist", ← pointerList img "__objc_classlist",
    ← pointerList img "__objc_catlist")

open Metadata in
def walk (img : MachImage) (policy : ListPolicy) : Except AddressFault (Except WalkError ObjectModel) :=
  match topLists img with
  | .error e => .ok (.error e)
  | .ok (protocols, classes, categories) =>
    let model := initialModel img
    let fuel := protocolFuel img
    let hasClassProperties := model.imageInfo.any (·.hasCategoryClassProperties)
    let steps : Walking Unit := do
      protocols.forM (walkProtocol img policy fuel)
      classes.forM (walkClass img policy fuel)
      categories.forM (walkCategory img policy fuel hasClassProperties)
    (steps.run { model }).map fun (_, s) => .ok s.model

end ObjcImage
