import Mathlib
import ObjcImage.Proofs.Walk.Adoption
import ObjcImage.Proofs.Walk.Policy

/-!
# Walks of one protocol

The walk of an image whose top-level lists hold one protocol is the reading of that protocol alone.
-/

namespace ObjcImage

open Metadata

theorem protocolFuel_succ (img : MachImage) : ∃ n, protocolFuel img = n + 1 := ⟨_, rfl⟩

theorem walk_of_single_protocol {img : MachImage} {policy : ListPolicy} {slot address : Nat}
    (lists : topLists img = .ok ([(slot, .ok (.value address))], [], [])) :
    walk img policy =
      match protocolHead img address with
      | .error f => .error f
      | .ok (.error e) =>
        let d : Diagnostic :=
          ⟨some slot, .invalidRecord slot (e.message ++ " (record at " ++ Text.hex address ++ ")")⟩
        .ok (.ok (((initialModel img).pushDiagnostic d).addProtocol (Protocol.placeholderAt slot d)))
      | .ok (.ok (record, name)) =>
        (((protocolBody img policy (protocolAt img policy (protocolFuel img - 1)) address record name).run
            {}).run { protocolNames := (∅ : Std.HashMap Nat String).insert address name,
                      model := initialModel img }).map
          fun r => .ok (r.2.model.addProtocol r.1.1) := by
  obtain ⟨n, fuel⟩ := protocolFuel_succ img
  have first := run_protocolAt_succ img policy n address { model := initialModel img }
  rw [← fuel] at first
  have single : [(slot, Except.ok (SlotValue.value address))].forM
      (walkProtocol img policy (protocolFuel img)) =
      walkProtocol img policy (protocolFuel img) (slot, .ok (.value address)) >>= fun _ => pure () :=
    rfl
  unfold walk
  rw [lists]
  dsimp only
  rw [StateT.run_bind, single, StateT.run_bind]
  unfold walkProtocol
  dsimp only [recordTarget]
  rw [StateT.run_bind, first]
  simp only [Std.HashMap.getElem?_empty]
  rw [fuel, Nat.add_sub_cancel]
  -- the name is cached before the body is read, so the body starts from a cache of that one name
  rcases protocolHead img address with f | e | ⟨record, name⟩
  · rfl
  · rfl
  · dsimp only
    generalize ((protocolBody img policy (protocolAt img policy n) address record name).run {}).run
      { protocolNames := (∅ : Std.HashMap Nat String).insert address name,
        model := initialModel img } = read
    cases read <;> rfl

namespace Metadata

open MachImage

def segmentLibrary (seg : Segment) (data : List UInt8) : ByteArray :=
  let word (n : Nat) := littleEndianBytes 4 n
  let quad (n : Nat) := littleEndianBytes 8 n
  let header := word 0xfeedfacf ++ word 0x01000007 ++ word 3 ++ word 6 ++ word 1 ++
    word seg.cmdsize ++ word 0 ++ word 0
  let segment := word 0x19 ++ word seg.cmdsize ++ nameField seg.name ++ quad seg.vmaddr ++
    quad seg.vmsize ++ quad seg.fileoff ++ quad seg.filesize ++ word seg.maxprot ++ word seg.initprot ++
    word seg.nsects ++ word seg.flags
  let headers := seg.sections.flatMap fun s =>
    nameField s.sectname ++ nameField s.segname ++ quad s.addr ++ quad s.size ++ word s.offset ++
      word s.align ++ List.replicate 24 0
  ⟨(header ++ segment ++ headers ++ data).toArray⟩

def segmentLibraryHeader (seg : Segment) : Header :=
  ⟨.little64, .x86_64, CpuSubType.ofRaw .x86_64 3, .dylib, 1, seg.cmdsize, 0⟩

def overflowSegment : Segment :=
  ⟨.segment64, 72 + 80 * 2, "__DATA", 0xffffffffffffffa0, 0x5f, 0x108, 0x5f, 7, 3, 2, 0,
    [⟨"__objc_protolist", "__DATA", 0xffffffffffffffa0, 8, 0x108, 3, 0, 0, 0, 0, 0, 0⟩,
      ⟨"__objc_const", "__DATA", 0xffffffffffffffa8, 0x57, 0x110, 3, 0, 0, 0, 0, 0, 0⟩]⟩

/-- A library whose one protocol list slot points to a protocol record of null fields, 88 bytes
below the end of the 64-bit address space; its size, 96, says it has class properties. -/
def overflowFile : ByteArray :=
  segmentLibrary overflowSegment <|
    littleEndianBytes 8 0xffffffffffffffa8 ++ List.replicate 64 0 ++ littleEndianBytes 4 96 ++
      List.replicate 19 0

def overflowImage : MachImage :=
  ⟨overflowFile, segmentLibraryHeader overflowSegment,
    (segmentLibraryHeader overflowSegment).architecture, [.segment overflowSegment], [overflowSegment],
    ⟨∅, 0, false⟩, none, .checked⟩

theorem parse_overflowFile : parse .checked overflowFile = .ok (.ok overflowImage) := by
  have laid : layout overflowFile =
      .ok (segmentLibraryHeader overflowSegment, [.segment overflowSegment], [overflowSegment]) :=
    layout_eq_ok_iff.2 ⟨by decide +kernel, by decide +kernel, rfl, by decide +kernel,
      checkSectionOverlap_eq_ok_iff.2 (by decide)⟩
  simp only [parse, laid]
  rfl

theorem overflowImage_readPointer (address : Nat) :
    overflowImage.readPointer address =
      (overflowImage.readWord address).map fun raw => if raw = 0 then .null else .value raw :=
  readPointer_of_noFixups rfl rfl address

set_option maxRecDepth 4000 in
theorem topLists_overflowImage :
    topLists overflowImage =
      .ok ([(0xffffffffffffffa0, overflowImage.readPointer 0xffffffffffffffa0)], [], []) := by
  rfl

set_option maxRecDepth 20000 in
theorem overflowImage_slot :
    overflowImage.readPointer 0xffffffffffffffa0 = .ok (.value 0xffffffffffffffa8) := by
  rw [overflowImage_readPointer]
  decide

set_option maxRecDepth 20000 in
theorem overflowImage_record_faults :
    ProtocolRecord.read overflowImage 0xffffffffffffffa8 = .error .addressOverflow := by
  have faults : (ProtocolRecord.read overflowImage 0xffffffffffffffa8).toBool = false := by
    simp only [ProtocolRecord.read, ProtocolRecord.readHead, overflowImage_readPointer]
    decide
  cases read : ProtocolRecord.read overflowImage 0xffffffffffffffa8 with
  | error f => cases f; rfl
  | ok r => simp [read, Except.toBool] at faults

def shadowSegment : Segment :=
  ⟨.segment64, 72 + 80 * 2, "__DATA", 0x1000, 0x1000, 0, 0x1b0, 7, 3, 2, 0,
    [dataSection "__objc_protolist" 0x108 8, dataSection "__objc_const" 0x110 0xa0]⟩

/-- A library with one protocol, `P`, whose required instance method list declares two entries, of
which only the first, `foo`, is mapped, and whose optional instance method list holds `foo` again,
with another type. -/
def shadowFile : ByteArray :=
  let word (n : Nat) := littleEndianBytes 4 n
  let quad (n : Nat) := littleEndianBytes 8 n
  -- the protocol list, the protocol, the strings, the optional list, and the required list, which
  -- runs to the end of the file
  segmentLibrary shadowSegment <|
    quad 0x1110 ++
    quad 0 ++ quad 0x1158 ++ quad 0 ++ quad 0x1190 ++ quad 0 ++ quad 0x1170 ++ quad 0 ++ quad 0 ++
      word 72 ++ word 0 ++
    cStringBytes "P" ++ cStringBytes "foo" ++ cStringBytes "v16@0:8" ++ cStringBytes "i16@0:8" ++
      List.replicate 2 0 ++
    word 24 ++ word 1 ++ quad 0x115a ++ quad 0x1166 ++ quad 0 ++
    word 24 ++ word 2 ++ quad 0x115a ++ quad 0x115e ++ quad 0

def shadowImage : MachImage :=
  ⟨shadowFile, segmentLibraryHeader shadowSegment, (segmentLibraryHeader shadowSegment).architecture,
    [.segment shadowSegment], [shadowSegment], ⟨∅, 0x1000, false⟩, none, .checked⟩

theorem parse_shadowFile : parse .checked shadowFile = .ok (.ok shadowImage) := by
  have laid : layout shadowFile =
      .ok (segmentLibraryHeader shadowSegment, [.segment shadowSegment], [shadowSegment]) :=
    layout_eq_ok_iff.2 ⟨by decide +kernel, by decide +kernel, rfl, by decide +kernel,
      checkSectionOverlap_eq_ok_iff.2 (by decide)⟩
  simp only [parse, laid]
  rfl

theorem shadowImage_readPointer (address : Nat) :
    shadowImage.readPointer address =
      (shadowImage.readWord address).map fun raw => if raw = 0 then .null else .value raw :=
  readPointer_of_noFixups rfl rfl address

set_option maxRecDepth 4000 in
theorem topLists_shadowImage :
    topLists shadowImage = .ok ([(0x1108, shadowImage.readPointer 0x1108)], [], []) := by
  rfl

set_option maxRecDepth 20000 in
theorem shadowImage_slot : shadowImage.readPointer 0x1108 = .ok (.value 0x1110) := by
  rw [shadowImage_readPointer]
  decide

theorem walk_shadowImage (policy : ListPolicy) :
    (walk shadowImage policy).map (·.map fun m => m.protocols.map fun p =>
        (p.instanceMethods.map (·.selector), p.optionalInstanceMethods.map (·.selector))) =
      .ok (.ok (match policy with
        | .strict => [([], ["foo"])]
        | .salvage => [(["foo"], [])])) := by
  have lists := topLists_shadowImage
  rw [shadowImage_slot] at lists
  rw [walk_of_single_protocol lists]
  simp only [protocolHead, ProtocolRecord.read, ProtocolRecord.readHead, MachImage.readString,
    protocolBody, protocolRefs, protocolMethods, methodListAlong, methodList, MethodEntry.read,
    readMethod, MachImage.readAddress, propertyList, shadowImage_readPointer, MachImage.readWord,
    MachImage.readU32, MachImage.readUInt, Source.readWord, MachImage.readCString, MachImage.translate,
    Source.slice_eq_take_drop]
  cases policy <;> decide +kernel

end Metadata

theorem walk_overflowImage (policy : ListPolicy) : walk overflowImage policy = .error .addressOverflow := by
  have lists := topLists_overflowImage
  rw [overflowImage_slot] at lists
  rw [walk_of_single_protocol lists, protocolHead, overflowImage_record_faults]
  rfl

/-- The walk of `overflowImage` faults under either policy, though no top-level list section is
malformed: the class properties of its protocol would be read at the first address past the 64-bit
range. -/
theorem walk_faults_past_last_address :
    MachImage.parse .checked overflowFile = .ok (.ok overflowImage) ∧
      (∀ e, ¬ FirstListFailure overflowImage e) ∧
      walk overflowImage .salvage = .error .addressOverflow ∧
      walk overflowImage .strict = .error .addressOverflow := by
  refine ⟨parse_overflowFile, fun e failed => ?_, walk_overflowImage .salvage, walk_overflowImage .strict⟩
  have listed := topLists_eq_error_iff.2 failed
  rw [topLists_overflowImage] at listed
  cases listed

/-- Two images on which the policies' lists differ by more than a list cut short and dropped. On
`truncatedPropertiesImage` a category's properties join an instance property list cut short and a
whole class property list, and the strict category keeps the class properties only. On
`shadowImage` a protocol's method lists share one set of selectors, and the strict walk keeps the
optional method that the dropped required one shadowed. -/
theorem walk_policies_differ_beyond_truncated_lists :
    MachImage.parse .checked truncatedPropertiesFile = .ok (.ok truncatedPropertiesImage) ∧
      (∃ m₁ m₂, walk truncatedPropertiesImage .strict = .ok (.ok m₁) ∧
        walk truncatedPropertiesImage .salvage = .ok (.ok m₂) ∧
        m₁.categories.map (fun k => k.properties.map (·.name)) = [["cp"]] ∧
        m₂.categories.map (fun k => k.properties.map (·.name)) = [["p", "cp"]]) ∧
      MachImage.parse .checked shadowFile = .ok (.ok shadowImage) ∧
      (∀ policy, (walk shadowImage policy).map (·.map fun m => m.protocols.map fun p =>
          (p.instanceMethods.map (·.selector), p.optionalInstanceMethods.map (·.selector))) =
        .ok (.ok (match policy with
          | .strict => [([], ["foo"])]
          | .salvage => [(["foo"], [])]))) :=
  ⟨parse_truncatedPropertiesFile, walk_truncatedProperties_category_properties, parse_shadowFile,
    walk_shadowImage⟩

end ObjcImage
