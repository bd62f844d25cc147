import Mathlib
import ObjcImage.Proofs.Walk.Records
import ObjcImage.Proofs.Walk.Outcome
import ObjcImage.Proofs.MachO.Layout
import ObjcImage.Proofs.MachO.Translate

set_option autoImplicit false

/-!
How the two list policies compare: nothing but the lists depends on the policy.
-/

namespace ObjcImage

namespace Metadata

open Reading

section Lists

variable (img : MachImage)

theorem ListAgrees.refl {α : Type} (kind : ListKind) (diagnostics : List Diagnostic) (l : List α) :
    ListAgrees kind diagnostics l l :=
  .inl rfl

theorem Local.run_eq {α : Type} {r : Reading α} (local_ : Local none r) (n : Notes) :
    r.run n = ((r.run {}).1, n.append (r.run {}).2) := by
  simpa using local_.1 n {} (by simp)

theorem protocolRefsReading_policies (value : SlotValue) (n : Notes) :
    ListAgrees .protocol ((protocolRefsReading img .strict value).run n).2.diagnostics
      ((protocolRefsReading img .strict value).run n).1
      ((protocolRefsReading img .salvage value).run n).1 := by
  unfold protocolRefsReading
  rw [run_bind, run_bind]
  generalize (listAddress value).run n = located
  obtain ⟨list?, n₁⟩ := located
  cases list? with
  | none => exact .inl rfl
  | some list =>
    dsimp only
    cases img.readWord list with
    | error e => exact .inl rfl
    | ok count =>
      dsimp only
      exact listEntries_bind_agrees img .protocol _ _ _ _ id (by intro; rfl) (by rfl) n₁

theorem metaclassPart_policies (address : Nat) (record : ClassRecord) :
    ListAgrees .method ((metaclassPart img .strict address record).run {}).2.diagnostics
        ((metaclassPart img .strict address record).run {}).1.1
        ((metaclassPart img .salvage address record).run {}).1.1 ∧
      ListAgrees .property ((metaclassPart img .strict address record).run {}).2.diagnostics
        ((metaclassPart img .strict address record).run {}).1.2
        ((metaclassPart img .salvage address record).run {}).1.2 := by
  unfold metaclassPart
  rcases metaclassData img address record.isa with _ | (_ | metaData)
  · exact ⟨.inl rfl, .inl rfl⟩
  · exact ⟨.inl rfl, .inl rfl⟩
  · -- the class properties are read after the class methods, from what those noted
    simp only [run_bind]
    rw [Local.run_eq (propertyList_local img .strict _ true), Local.run_eq (propertyList_local img .salvage _ true)]
    exact ⟨(methodList_policies img metaData.baseMethods true none {}).mono
        fun _ noted => List.mem_append_left _ noted,
      (propertyList_policies img metaData.baseProperties true {}).mono
        fun _ noted => List.mem_append_right _ noted⟩

theorem categoryClassProperties_policies (record : CategoryRecord) :
    ListAgrees .property ((categoryClassProperties img .strict record).run {}).2.diagnostics
      ((categoryClassProperties img .strict record).run {}).1
      ((categoryClassProperties img .salvage record).run {}).1 := by
  unfold categoryClassProperties
  cases record.classProperties with
  | some value => exact propertyList_policies img value true {}
  | none => exact .inl rfl

end Lists

/-- A class read under the strict policy against the same class read under salvage: the same but
for its lists, each of which is the same or, when the strict class notes a list of its kind as cut
short, empty. The properties are the instance properties, then the class properties, and each part
agrees on its own. -/
structure ClassesAgree (strict salvage : ObjcClass) : Prop where
  name : strict.name = salvage.name
  address : strict.address = salvage.address
  superclass : strict.superclass = salvage.superclass
  placeholder : strict.placeholder = salvage.placeholder
  layout : strict.instanceStart = salvage.instanceStart ∧ strict.instanceSize = salvage.instanceSize ∧
    strict.flags = salvage.flags ∧ strict.isSwift = salvage.isSwift
  instanceMethods : ListAgrees .method strict.diagnostics strict.instanceMethods salvage.instanceMethods
  classMethods : ListAgrees .method strict.diagnostics strict.classMethods salvage.classMethods
  ivars : ListAgrees .ivar strict.diagnostics strict.ivars salvage.ivars
  protocols : ListAgrees .protocol strict.diagnostics strict.protocols salvage.protocols
  properties : ∃ own own' inherited inherited', strict.properties = own ++ inherited ∧
    salvage.properties = own' ++ inherited' ∧ ListAgrees .property strict.diagnostics own own' ∧
    ListAgrees .property strict.diagnostics inherited inherited'

structure CategoriesAgree (strict salvage : Category) : Prop where
  name : strict.name = salvage.name
  address : strict.address = salvage.address
  extendedClass : strict.extendedClass = salvage.extendedClass
  placeholder : strict.placeholder = salvage.placeholder
  instanceMethods : ListAgrees .method strict.diagnostics strict.instanceMethods salvage.instanceMethods
  classMethods : ListAgrees .method strict.diagnostics strict.classMethods salvage.classMethods
  protocols : ListAgrees .protocol strict.diagnostics strict.protocols salvage.protocols
  properties : ∃ own own' inherited inherited', strict.properties = own ++ inherited ∧
    salvage.properties = own' ++ inherited' ∧ ListAgrees .property strict.diagnostics own own' ∧
    ListAgrees .property strict.diagnostics inherited inherited'

theorem ClassesAgree.refl (c : ObjcClass) : ClassesAgree c c :=
  ⟨rfl, rfl, rfl, rfl, ⟨rfl, rfl, rfl, rfl⟩, .inl rfl, .inl rfl, .inl rfl, .inl rfl,
    ⟨c.properties, c.properties, [], [], by simp, by simp, .inl rfl, .inl rfl⟩⟩

theorem CategoriesAgree.refl (k : Category) : CategoriesAgree k k :=
  ⟨rfl, rfl, rfl, rfl, .inl rfl, .inl rfl, .inl rfl,
    ⟨k.properties, k.properties, [], [], by simp, by simp, .inl rfl, .inl rfl⟩⟩

section Entities

variable (img : MachImage)

theorem classOfRecord_agree (address : Nat) (record : ClassRecord) (data : ClassData) (name : String) :
    ClassesAgree (classOfRecord img .strict address record data name)
      (classOfRecord img .salvage address record data name) := by
  have metaclass := metaclassPart_policies img address record
  refine ⟨rfl, rfl, rfl, rfl, ⟨rfl, rfl, rfl, rfl⟩, (methodList_policies img _ false none {}).mono ?_,
    metaclass.1.mono ?_, (ivarList_policies img _ {}).mono ?_,
    (protocolRefsReading_policies img _ {}).mono ?_,
    ⟨_, _, _, _, rfl, rfl, (propertyList_policies img _ false {}).mono ?_, metaclass.2.mono ?_⟩⟩
  -- each list's notes are among the class's diagnostics
  all_goals
    intro d noted
    simp [classOfRecord, noted]

theorem categoryOfRecord_agree (address : Nat) (record : CategoryRecord) (name : String) :
    CategoriesAgree (categoryOfRecord img .strict address record name)
      (categoryOfRecord img .salvage address record name) := by
  refine ⟨rfl, rfl, rfl, rfl, (methodList_policies img _ false none {}).mono ?_,
    (methodList_policies img _ true none {}).mono ?_, (protocolRefsReading_policies img _ {}).mono ?_,
    ⟨_, _, _, _, rfl, rfl, (propertyList_policies img _ false {}).mono ?_,
      (categoryClassProperties_policies img record).mono ?_⟩⟩
  all_goals
    intro d noted
    simp [categoryOfRecord, noted]

theorem classAt_agree (slot : Nat) : ClassesAgree (classAt img .strict slot) (classAt img .salvage slot) := by
  unfold classAt EntityView.entityFor classRead
  cases recordTarget slot (img.readPointer slot) with
  | error reason => exact ClassesAgree.refl _
  | ok address =>
    -- the record's head is read alike under both policies
    dsimp only
    cases classHead img address with
    | error e => exact ClassesAgree.refl _
    | ok parts => exact classOfRecord_agree img address parts.1 parts.2.1 parts.2.2

theorem categoryAt_agree (hasClassProperties : Bool) (slot : Nat) :
    CategoriesAgree (categoryAt img .strict hasClassProperties slot)
      (categoryAt img .salvage hasClassProperties slot) := by
  unfold categoryAt EntityView.entityFor categoryRead
  cases recordTarget slot (img.readPointer slot) with
  | error reason => exact CategoriesAgree.refl _
  | ok address =>
    dsimp only
    cases (do
      let record ← CategoryRecord.read img address hasClassProperties
      pure (record, ← img.readString record.name) : Except ImageError (CategoryRecord × String)) with
    | error e => exact CategoriesAgree.refl _
    | ok parts => exact categoryOfRecord_agree img address parts.1 parts.2

end Entities

end Metadata

theorem walk_eq_ok_error_iff {img : MachImage} {policy : ListPolicy} {e : WalkError} :
    walk img policy = .ok (.error e) ↔ topLists img = .error e := by
  unfold walk
  split
  next e' listed => simp [listed]
  next protocols classes categories listed =>
    simp only [listed, reduceCtorEq, iff_false]
    cases (StateT.run _ _ : Except AddressFault (PUnit × Metadata.Walker)) <;> simp [Except.map]

open Metadata in
/-- Where neither walk faults, the walks under the strict and the salvage policies fail alike, or
both give models whose classes and whose categories stand one for one: the same names, addresses,
superclasses or extended classes and placeholder flags, and lists that are the same or, noted in the
strict entity as cut short, empty; the properties agree as instance properties and class
properties apart. -/
theorem walk_policies_agree {img : MachImage} {strict salvage : Except WalkError ObjectModel}
    (strictRan : walk img .strict = .ok strict) (salvageRan : walk img .salvage = .ok salvage) :
    (∀ e, strict = .error e ↔ salvage = .error e) ∧
      ∀ m₁ m₂, strict = .ok m₁ → salvage = .ok m₂ →
        List.Forall₂ ClassesAgree m₁.classes m₂.classes ∧
          List.Forall₂ CategoriesAgree m₁.categories m₂.categories := by
  constructor
  · intro e
    rw [← Except.ok.injEq strict, ← strictRan, ← Except.ok.injEq salvage, ← salvageRan,
      walk_eq_ok_error_iff, walk_eq_ok_error_iff]
  · rintro m₁ m₂ rfl rfl
    obtain ⟨classes₁, categories₁⟩ := walk_entities_eq strictRan
    obtain ⟨classes₂, categories₂⟩ := walk_entities_eq salvageRan
    rw [classes₁, classes₂, categories₁, categories₂]
    simp only [List.forall₂_map_left_iff, List.forall₂_map_right_iff, List.forall₂_same]
    exact ⟨fun slot _ => classAt_agree img slot, fun slot _ => categoryAt_agree img _ slot⟩

/-! A sample: a category whose instance property list is cut short after one entry, and whose
class property list is whole. Under the strict policy its properties are the class property alone:
neither the salvaged properties nor none. -/

namespace Metadata

open MachImage

def dataSection (name : String) (offset size : Nat) : Section :=
  ⟨name, "__DATA", 0x1000 + offset, size, offset, 0, 0, 0, 0, 0, 0, 0⟩

def truncatedPropertiesSections : List Section :=
  [dataSection "__objc_imageinfo" 0x160 8, dataSection "__objc_catlist" 0x168 8,
    dataSection "__objc_const" 0x170 0x78]

def truncatedPropertiesSegment : Segment :=
  ⟨.segment64, 72 + 80 * 3, "__DATA", 0x1000, 0x1000, 0, 0x1e8, 7, 3, 3, 0,
    truncatedPropertiesSections⟩

def truncatedPropertiesHeader : Header :=
  ⟨.little64, .x86_64, CpuSubType.ofRaw .x86_64 3, .dylib, 1, 72 + 80 * 3, 0⟩

def cStringBytes (s : String) : List UInt8 := s.toList.map (·.toNat.toUInt8) ++ [0]

/-- A library with one category, `K`, whose class property list holds the property `cp` and whose
instance property list declares two entries, of which only the first, `p`, is mapped. -/
def truncatedPropertiesFile : ByteArray :=
  let word (n : Nat) := littleEndianBytes 4 n
  let quad (n : Nat) := littleEndianBytes 8 n
  let header := word 0xfeedfacf ++ word 0x01000007 ++ word 3 ++ word 6 ++ word 1 ++ word (72 + 80 * 3) ++
    word 0 ++ word 0
  let segment := word 0x19 ++ word (72 + 80 * 3) ++ nameField "__DATA" ++ quad 0x1000 ++ quad 0x1000 ++
    quad 0 ++ quad 0x1e8 ++ word 7 ++ word 3 ++ word 3 ++ word 0
  let headers := truncatedPropertiesSections.flatMap fun s =>
    nameField s.sectname ++ nameField "__DATA" ++ quad s.addr ++ quad s.size ++ word s.offset ++
      List.replicate 28 0
  let commands := header ++ segment ++ headers
  -- the image info, the category list, the category, its class properties, the strings, and its
  -- instance properties, which run to the end of the file
  let data := word 0 ++ word 0x40 ++ quad 0x1170 ++
    quad 0x11c0 ++ quad 0 ++ quad 0 ++ quad 0 ++ quad 0 ++ quad 0x11d0 ++ quad 0x11a8 ++
    word 16 ++ word 1 ++ quad 0x11c2 ++ quad 0x11c7 ++
    cStringBytes "K" ++ cStringBytes "cp" ++ cStringBytes "p" ++ cStringBytes "Ti" ++ List.replicate 6 0 ++
    word 16 ++ word 2 ++ quad 0x11c5 ++ quad 0x11c7
  ⟨(commands ++ List.replicate (0x160 - commands.length) 0 ++ data).toArray⟩

def truncatedPropertiesImage : MachImage :=
  ⟨truncatedPropertiesFile, truncatedPropertiesHeader, truncatedPropertiesHeader.architecture,
    [.segment truncatedPropertiesSegment], [truncatedPropertiesSegment], ⟨∅, 0x1000, false⟩, none,
    .checked⟩

theorem parse_truncatedPropertiesFile :
    parse .checked truncatedPropertiesFile = .ok (.ok truncatedPropertiesImage) := by
  have laid : layout truncatedPropertiesFile = .ok (truncatedPropertiesHeader,
      [.segment truncatedPropertiesSegment], [truncatedPropertiesSegment]) :=
    layout_eq_ok_iff.2 ⟨by decide +kernel, by decide +kernel, rfl, by decide +kernel,
      checkSectionOverlap_eq_ok_iff.2 (by decide)⟩
  simp only [parse, laid]
  rfl

theorem readPointer_of_noFixups {img : MachImage} (noSlots : img.fixups.slots = ∅)
    (noPac : img.fixups.stripPac = false) (address : Nat) :
    img.readPointer address =
      (img.readWord address).map fun raw => if raw = 0 then .null else .value raw := by
  unfold MachImage.readPointer
  cases img.readWord address <;> simp [FixupTable.resolve, noSlots, noPac, Except.map, bind, Except.bind, pure, Except.pure]

theorem truncatedPropertiesImage_readPointer (address : Nat) :
    truncatedPropertiesImage.readPointer address =
      (truncatedPropertiesImage.readWord address).map fun raw => if raw = 0 then .null else .value raw :=
  readPointer_of_noFixups rfl rfl address

set_option maxRecDepth 4000 in
theorem topLists_truncatedPropertiesImage :
    topLists truncatedPropertiesImage =
      .ok ([], [], [(0x1168, truncatedPropertiesImage.readPointer 0x1168)]) := by
  rfl

end Metadata

theorem ProtocolRecord.readHead_translate {img : MachImage} {address : Nat} {record : ProtocolRecord}
    (head : ProtocolRecord.readHead img address = .ok record) :
    ∃ bytes, img.translate address (8 * img.arch.pointerWidth + 8) = .ok bytes := by
  unfold ProtocolRecord.readHead at head
  cases translated : img.translate address (8 * img.arch.pointerWidth + 8) with
  | error e => simp [translated, bind, Except.bind] at head
  | ok bytes => exact ⟨bytes, rfl⟩

theorem MachImage.translate_mapped {img : MachImage} {address size : Nat} {bytes : List UInt8}
    (translated : img.translate address size = .ok bytes) :
    ∃ s ∈ img.sections, s.contains address = true := by
  unfold MachImage.translate at translated
  cases found : img.fileOffset address size with
  | error e => simp [found, bind, Except.bind] at translated
  | ok offset =>
    obtain ⟨s, mapped, _⟩ := MachImage.fileOffset_eq_ok found
    obtain ⟨mem, _, contains⟩ := MachImage.mappedSection?_eq_some mapped
    exact ⟨s, mem, contains⟩

/-- The walk of an image whose sections all end well below the last 64-bit address does not
fault: no protocol record there has class properties past that address. -/
theorem walk_ne_error_of_low {img : MachImage} {policy : ListPolicy}
    (low : ∀ s ∈ img.sections, s.addr + s.size + 10 * img.arch.pointerWidth + 8 ≤ addressLimit)
    (f : AddressFault) : walk img policy ≠ .error f := by
  intro faulted
  obtain ⟨address, read⟩ := walk_eq_error faulted
  obtain ⟨_, record, head, _, past⟩ := ProtocolRecord.read_eq_error_iff.1 read
  obtain ⟨_, translated⟩ := ProtocolRecord.readHead_translate head
  obtain ⟨s, mem, contains⟩ := MachImage.translate_mapped translated
  have bound := low s mem
  simp only [Section.contains, Bool.and_eq_true, decide_eq_true_eq] at contains
  omega

namespace Metadata

theorem walk_truncatedPropertiesImage (policy : ListPolicy) :
    ∃ m, walk truncatedPropertiesImage policy = .ok (.ok m) := by
  cases ran : walk truncatedPropertiesImage policy with
  | error f => exact absurd ran (walk_ne_error_of_low (by decide) f)
  | ok r =>
    cases r with
    | error e =>
      have listed := walk_eq_ok_error_iff.1 ran
      rw [topLists_truncatedPropertiesImage] at listed
      cases listed
    | ok m => exact ⟨m, rfl⟩

set_option maxRecDepth 20000 in
theorem walk_truncatedProperties_category_properties :
    ∃ m₁ m₂, walk truncatedPropertiesImage .strict = .ok (.ok m₁) ∧
      walk truncatedPropertiesImage .salvage = .ok (.ok m₂) ∧
      m₁.categories.map (fun k => k.properties.map (·.name)) = [["cp"]] ∧
      m₂.categories.map (fun k => k.properties.map (·.name)) = [["p", "cp"]] := by
  have slots : listSlots truncatedPropertiesImage "__objc_catlist" = [0x1168] := by decide
  have info : (initialModel truncatedPropertiesImage).imageInfo.any (·.hasCategoryClassProperties) =
      true := by decide
  obtain ⟨m₁, strictRan⟩ := walk_truncatedPropertiesImage .strict
  obtain ⟨m₂, salvageRan⟩ := walk_truncatedPropertiesImage .salvage
  refine ⟨m₁, m₂, strictRan, salvageRan, ?_, ?_⟩
  all_goals
    rw [(walk_entities_eq (by assumption)).2, slots, info]
    simp only [List.map_cons, List.map_nil, categoryAt, EntityView.entityFor, categoryRead,
      CategoryRecord.read, categoryOfRecord, categoryClassProperties, propertyList, PropertyEntry.read,
      truncatedPropertiesImage_readPointer, MachImage.readWord, MachImage.readU32, MachImage.readUInt,
      Source.readWord, MachImage.readCString, MachImage.translate, Source.slice_eq_take_drop]
    decide +kernel

end Metadata

open Metadata in
/-- On `truncatedPropertiesImage` the two policies give the category different properties, and
the walks still agree entity for entity. -/
theorem walk_policies_agree_truncatedProperties :
    ∃ m₁ m₂, walk truncatedPropertiesImage .strict = .ok (.ok m₁) ∧
      walk truncatedPropertiesImage .salvage = .ok (.ok m₂) ∧
      m₁.categories.map (fun k => k.properties.map (·.name)) ≠
        m₂.categories.map (fun k => k.properties.map (·.name)) ∧
      List.Forall₂ ClassesAgree m₁.classes m₂.classes ∧
      List.Forall₂ CategoriesAgree m₁.categories m₂.categories := by
  obtain ⟨m₁, m₂, strictRan, salvageRan, strictProperties, salvageProperties⟩ :=
    walk_truncatedProperties_category_properties
  refine ⟨m₁, m₂, strictRan, salvageRan, by rw [strictProperties, salvageProperties]; decide, ?_⟩
  exact (walk_policies_agree strictRan salvageRan).2 m₁ m₂ rfl rfl

end ObjcImage
