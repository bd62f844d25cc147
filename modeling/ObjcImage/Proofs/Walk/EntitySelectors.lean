import Mathlib
import ObjcImage.Proofs.Walk.ExtendedTypes
import ObjcImage.Proofs.ObjectModel.Index

set_option autoImplicit false

/-!
Selectors of every entity the walk keeps: each keeps the first method of each selector and scope
among its method lists, and notes every other one.
-/

namespace ObjcImage

def Protocol.methods (p : Protocol) : List Method :=
  p.instanceMethods ++ p.classMethods ++ p.optionalInstanceMethods ++ p.optionalClassMethods

theorem DiagnosticKind.isDuplicate_of_isInvalidRecord {kind : DiagnosticKind}
    (invalid : kind.isInvalidRecord = true) : kind.isDuplicate = false := by
  cases kind <;> simp_all [DiagnosticKind.isInvalidRecord, DiagnosticKind.isDuplicate]

theorem Notes.Quiet.append {k k' : Notes} (quiet : k.Quiet) (quiet' : k'.Quiet) :
    (k.append k').Quiet := by
  refine ⟨by simp [Notes.append, quiet.1, quiet'.1], ?_⟩
  simp only [Notes.append, List.filter_append, quiet.2, quiet'.2, List.append_nil]

namespace Metadata

open Reading

section Quiet

variable {α β : Type}

def EQuiet (x : EntityReading α) : Prop :=
  ∀ n, Yields (fun r => ∃ k : Notes, k.Quiet ∧ r.2 = n.append k) (x.run n)

theorem EQuiet.pure (a : α) : EQuiet (Pure.pure a : EntityReading α) := by
  intro n s r s' ran
  cases ran
  exact ⟨{}, ⟨rfl, rfl⟩, by simp⟩

theorem EQuiet.bind {x : EntityReading α} {f : α → EntityReading β} (first : EQuiet x)
    (rest : ∀ a, EQuiet (f a)) : EQuiet (x >>= f) := by
  intro n
  rw [StateT.run_bind]
  refine Yields.bind_of (first n) fun ⟨a, n₁⟩ ⟨k, quiet, noted⟩ s r s' ran => ?_
  obtain ⟨k', quiet', noted'⟩ := rest a n₁ s r s' ran
  refine ⟨k.append k', quiet.append quiet', ?_⟩
  rw [noted', show n₁ = n.append k from noted, Notes.append_assoc]

theorem EQuiet.reading {r : Reading α} (local_ : Local none r) (plain : NotesOnly Diagnostic.Plain r) :
    EQuiet (Metadata.reading r) := by
  intro n s v s' ran
  obtain ⟨read, -⟩ := Prod.mk.inj (Except.ok.inj ran : (r.run n, s) = (v, s'))
  exact ⟨(r.run {}).2, quiet_run local_ plain, by rw [← read, Local.run_eq local_]⟩

theorem EQuiet.note {d : Diagnostic} (plain : d.Plain) : EQuiet (note d : EntityReading Unit) := by
  intro n s r s' ran
  cases ran
  exact ⟨⟨[d], []⟩, Notes.quiet_of_plain rfl (by simpa using plain), by simp [Notes.append]⟩

theorem EQuiet.lift (w : Walking α) : EQuiet (StateT.lift w : EntityReading α) := by
  intro n s r s' ran
  rw [StateT.run_lift] at ran
  obtain ⟨a, s₁, -, ran₂⟩ := run_bind_eq_ok ran
  cases ran₂
  exact ⟨{}, ⟨rfl, rfl⟩, by simp⟩

theorem EQuiet.filterMapM {l : List α} {f : α → EntityReading (Option β)} (each : ∀ a, EQuiet (f a)) :
    EQuiet (l.filterMapM f) := by
  induction l with
  | nil => exact EQuiet.pure []
  | cons a l ih =>
    rw [List.filterMapM_cons]
    refine EQuiet.bind (each a) fun b? => ?_
    cases b? with
    | none => exact ih
    | some b => exact EQuiet.bind ih fun bs => EQuiet.pure (b :: bs)

theorem run_reading_bind (r : Reading α) (f : α → EntityReading β) (n : Notes) :
    (Metadata.reading r >>= f).run n = (f (r.run n).1).run (r.run n).2 := rfl

end Quiet

section Protocols

variable (img : MachImage) (policy : ListPolicy)

def protocolTrace (record : ProtocolRecord) : List (Nat × Method) :=
  methodTrace img policy record.instanceMethods false (extendedStart img record 0) ++
    methodTrace img policy record.classMethods true (extendedStart img record 1) ++
    methodTrace img policy record.optionalInstanceMethods false (extendedStart img record 2) ++
    methodTrace img policy record.optionalClassMethods true (extendedStart img record 3)

theorem ListStep.dedupRun {n n' : Notes} {value : SlotValue} {isClass : Bool}
    {extended : Option Nat} {methods : List Method} {extra : List Diagnostic}
    (step : ListStep img policy n value isClass extended methods extra n')
    (other : ∀ d ∈ extra, d.kind.isDuplicate = false) :
    DedupRun n (methodTrace img policy value isClass extended) methods n' := by
  have quiet : Notes.Quiet ⟨extra, []⟩ :=
    ⟨rfl, List.filter_eq_nil_iff.2 fun d mem => by simp [other d mem]⟩
  have run := (methodList_dedupRun img policy value isClass extended n).quiet_after quiet
  rw [step.1, step.2]
  simpa [Notes.append] using run

theorem overflowAlong_invalid {protocol w : Nat} {extended : Option Nat} {declared : List Nat}
    {d : Diagnostic} (mem : d ∈ overflowAlong protocol w extended declared) :
    d.kind.isInvalidRecord = true := by
  rw [← filter_overflowAlong] at mem
  exact (List.mem_filter.1 mem).2

theorem protocolMethods_dedupRun (address : Nat) (record : ProtocolRecord) (n : Notes) :
    let read := (protocolMethods img policy address record).run n
    DedupRun n (protocolTrace img policy record)
      (read.1.1 ++ read.1.2.1 ++ read.1.2.2.1 ++ read.1.2.2.2) read.2 := by
  dsimp only
  obtain ⟨o₀, o₁, o₂, o₃, n₁, n₂, n₃, overflow, step₀, step₁, step₂, step₃⟩ :=
    protocolMethods_steps img policy address record n
  -- the notes between the lists are about the cursor only
  have other : ∀ d ∈ o₀ ++ o₁ ++ o₂ ++ o₃, d.kind.isDuplicate = false := fun d mem =>
    DiagnosticKind.isDuplicate_of_isInvalidRecord (overflowAlong_invalid (overflow ▸ mem))
  have run₀ := step₀.dedupRun img policy fun d mem => other d (by simp [mem])
  have run₁ := step₁.dedupRun img policy fun d mem => other d (by simp [mem])
  have run₂ := step₂.dedupRun img policy fun d mem => other d (by simp [mem])
  have run₃ := step₃.dedupRun img policy fun d mem => other d (by simp [mem])
  exact ((run₀.append run₁).append run₂).append run₃

theorem protocolRefs_quiet (resolve : Nat → Walking (Except ImageError String)) (value : SlotValue) :
    EQuiet (protocolRefs img policy resolve value) := by
  unfold protocolRefs
  refine EQuiet.bind (EQuiet.reading (listAddress_local value) (listAddress_plain value)) fun list? => ?_
  split
  next list =>
    split
    next => exact EQuiet.bind (EQuiet.note ⟨rfl, rfl⟩) fun _ => EQuiet.pure _
    next =>
      refine EQuiet.bind (EQuiet.reading (listEntries_local img policy _ _ _ _)
        (listEntries_plain img policy _ _ _ _)) fun entries => EQuiet.filterMapM fun entry => ?_
      split
      next address _ =>
        refine EQuiet.bind (EQuiet.lift _) fun resolved => ?_
        split
        next => exact EQuiet.pure _
        next => exact EQuiet.bind (EQuiet.note ⟨rfl, rfl⟩) fun _ => EQuiet.pure _
      next => exact EQuiet.pure _
      next => exact EQuiet.pure _
      next => exact EQuiet.bind (EQuiet.note ⟨rfl, rfl⟩) fun _ => EQuiet.pure _
  next => exact EQuiet.pure _

theorem protocolBody_firstWins (resolve : Nat → Walking (Except ImageError String)) (address : Nat)
    (record : ProtocolRecord) (name : String) :
    Yields (fun r : Protocol × Notes => FirstWins (protocolTrace img policy record) r.1.methods
        r.1.diagnostics ∧ r.1.address = address ∧ r.1.placeholder = false)
      ((protocolBody img policy resolve address record name).run {}) := by
  unfold protocolBody
  rw [StateT.run_bind]
  refine Yields.bind_of (protocolRefs_quiet img policy resolve record.protocols {})
    fun ⟨protocols, n₁⟩ ⟨k, quiet, noted⟩ => ?_
  simp only [Notes.empty_append] at noted
  subst noted
  -- the rest reads the image alone: the four method lists after quiet notes, then the properties
  have methods := protocolMethods_dedupRun img policy address record n₁
  dsimp only
  rw [run_reading_bind]
  generalize (protocolMethods img policy address record).run n₁ = read at methods ⊢
  obtain ⟨⟨instanceMethods, classMethods, optionalInstance, optionalClass⟩, n₂⟩ := read
  dsimp only at methods ⊢
  have properties := propertyList_local img policy record.instanceProperties false
  rw [run_reading_bind, Local.run_eq properties]
  have read := methods.quiet_after (quiet_run properties (propertyList_plain img policy _ _))
  -- with or without class properties, the protocol is made from the notes so far
  cases record.classProperties with
  | some value =>
    have classProperties := propertyList_local img policy value true
    rw [run_reading_bind, Local.run_eq classProperties]
    intro s r s' ran
    cases ran
    exact ⟨(read.quiet_after (quiet_run classProperties (propertyList_plain img policy _ _))).firstWins
      quiet, rfl, rfl⟩
  | none =>
    intro s r s' ran
    cases ran
    exact ⟨read.firstWins quiet, rfl, rfl⟩

/-- Every protocol of `m` that is no placeholder was read from the protocol record at its address,
and keeps the first method of each selector and scope among that record's method lists. -/
def ProtocolsFirstWin (m : ObjectModel) : Prop :=
  ∀ p ∈ m.protocols, p.placeholder = false →
    ∃ record, ProtocolRecord.read img p.address = .ok (.ok record) ∧
      FirstWins (protocolTrace img policy record) p.methods p.diagnostics

variable {img policy}

theorem ProtocolsFirstWin.addProtocol {m : ObjectModel} {p : Protocol} (kept : ProtocolsFirstWin img policy m)
    (read : p.placeholder = false → ∃ record, ProtocolRecord.read img p.address = .ok (.ok record) ∧
      FirstWins (protocolTrace img policy record) p.methods p.diagnostics) :
    ProtocolsFirstWin img policy (m.addProtocol p) := by
  intro q mem real
  rcases ObjectModel.mem_addProtocol mem with old | rfl
  · exact kept q old real
  · exact read real

theorem protocolAt_firstWin (fuel address : Nat) :
    Preserves img (fun s => ProtocolsFirstWin img policy s.model) (protocolAt img policy fuel address) :=
  -- naming a protocol leaves the model as it is
  protocolAt_preserves_of (V := fun address record p => FirstWins (protocolTrace img policy record)
      p.methods p.diagnostics ∧ p.address = address ∧ p.placeholder = false)
    policy (fun _ _ _ _ _ _ kept => kept)
    (fun _ _ record _ read yielded kept => kept.addProtocol fun _ =>
      ⟨record, yielded.2.1 ▸ read, yielded.1⟩)
    (protocolBody_firstWins img policy) fuel address

theorem initialModel_protocols (img : MachImage) : (initialModel img).protocols = [] := by
  unfold initialModel
  dsimp only
  split
  next => split <;> simp [ObjectModel.pushDiagnostic]
  next => split <;> split <;> simp [ObjectModel.pushDiagnostic]

theorem walk_protocolsFirstWin {m : ObjectModel} (walked : walk img policy = .ok (.ok m)) :
    ProtocolsFirstWin img policy m := by
  unfold walk at walked
  split at walked
  next => cases walked
  next protocols classes categories _ =>
    dsimp only at walked
    generalize ranEq : StateT.run _ _ = ran at walked
    cases ran with
    | error f => cases walked
    | ok result =>
      obtain ⟨_, s⟩ := result
      simp only [Except.map, Except.ok.injEq] at walked
      subst walked
      -- every step changes the model's protocols only by adding one read from its record
      have steps := walkSteps_preserves policy (I := fun s => ProtocolsFirstWin img policy s.model)
        (fun _ _ _ _ _ _ kept => kept) (protocolAt_firstWin (protocolFuel img)) (fun _ _ kept => kept)
        (fun _ _ _ kept => kept.addProtocol fun real => by simp [Protocol.placeholderAt] at real)
        (fun _ _ kept => kept) (fun _ _ kept => kept) protocols classes categories
        ((initialModel img).imageInfo.any (·.hasCategoryClassProperties))
      have initial : ProtocolsFirstWin img policy (initialModel img) := by
        intro p mem
        simp [initialModel_protocols] at mem
      exact (steps _ initial).1 _ s ranEq

end Protocols

theorem EntityView.read_of_entityFor {E : Type} (v : EntityView E) {read : Nat → Except ImageError E}
    {slot : Nat} {value : Except ImageError SlotValue}
    (real : v.placeholder (v.entityFor read slot value) = false) :
    ∃ address, read address = .ok (v.entityFor read slot value) := by
  cases target : recordTarget slot value with
  | error reason => simp [EntityView.entityFor, target, v.placeholder_placeholderAt] at real
  | ok address =>
    cases readAt : read address with
    | error err => simp [EntityView.entityFor, target, readAt, v.placeholder_placeholderAt] at real
    | ok e => exact ⟨address, by simp [EntityView.entityFor, target, readAt]⟩

section Entities

variable (img : MachImage) (policy : ListPolicy)

/-- Every entity of `m` that is no placeholder keeps, of the entries of its method lists, the first
method of each selector and scope, and notes every later entry of a taken selector once: a class
or a category as read from the record at its address, a protocol likewise. -/
def SelectorsFirstWin (m : ObjectModel) : Prop :=
  (∀ c ∈ m.classes, c.placeholder = false → ∃ record data,
    classHead img c.address = .ok (record, data, c.name) ∧
      FirstWins (classTrace img policy c.address record data) (c.instanceMethods ++ c.classMethods)
        c.diagnostics) ∧
  (∀ k ∈ m.categories, k.placeholder = false → ∃ record,
    CategoryRecord.read img k.address ((initialModel img).imageInfo.any (·.hasCategoryClassProperties)) =
        .ok record ∧
      FirstWins (categoryTrace img policy record) (k.instanceMethods ++ k.classMethods) k.diagnostics) ∧
  ProtocolsFirstWin img policy m

variable {img policy}

theorem classAt_firstWins {slot : Nat} (real : (classAt img policy slot).placeholder = false) :
    ∃ record data, classHead img (classAt img policy slot).address =
        .ok (record, data, (classAt img policy slot).name) ∧
      FirstWins (classTrace img policy (classAt img policy slot).address record data)
        ((classAt img policy slot).instanceMethods ++ (classAt img policy slot).classMethods)
        (classAt img policy slot).diagnostics := by
  obtain ⟨address, read⟩ := classView.read_of_entityFor real
  have read : classRead img policy address = .ok (classAt img policy slot) := read
  generalize classAt img policy slot = c at read ⊢
  unfold classRead at read
  cases head : classHead img address with
  | error e => simp [head, Except.map] at read
  | ok parts =>
    obtain ⟨record, data, name⟩ := parts
    simp only [head, Except.map, Except.ok.injEq] at read
    subst read
    exact ⟨record, data, head, classOfRecord_firstWins img policy address record data name⟩

theorem categoryAt_firstWins {hasClassProperties : Bool} {slot : Nat}
    (real : (categoryAt img policy hasClassProperties slot).placeholder = false) :
    ∃ record, CategoryRecord.read img (categoryAt img policy hasClassProperties slot).address
        hasClassProperties = .ok record ∧
      FirstWins (categoryTrace img policy record)
        ((categoryAt img policy hasClassProperties slot).instanceMethods ++
          (categoryAt img policy hasClassProperties slot).classMethods)
        (categoryAt img policy hasClassProperties slot).diagnostics := by
  obtain ⟨address, read⟩ := categoryView.read_of_entityFor real
  have read : categoryRead img policy hasClassProperties address =
      .ok (categoryAt img policy hasClassProperties slot) := read
  generalize categoryAt img policy hasClassProperties slot = k at read ⊢
  unfold categoryRead at read
  cases record? : CategoryRecord.read img address hasClassProperties with
  | error e => simp [record?, bind, Except.bind, Except.map] at read
  | ok record =>
    cases named : img.readString record.name with
    | error e => simp [record?, named, bind, Except.bind, Except.map] at read
    | ok name =>
      simp only [record?, named, bind, Except.bind, pure, Except.pure, Except.map, Except.ok.injEq] at read
      subst read
      exact ⟨record, record?, categoryOfRecord_firstWins img policy address record name⟩

end Entities

end Metadata

open Metadata in
/-- When the walk of an image yields a model, every class, category and protocol of it that is no
placeholder keeps, over all its method lists in the order they are read, the first method of each
selector and scope: the kept methods are pairwise distinct in selector and scope, and each entry
dropped as a repeat is noted on the entity by exactly one duplicate-selector diagnostic. -/
theorem walk_keeps_first_method_per_selector {img : MachImage} {policy : ListPolicy} {m : ObjectModel}
    (walked : walk img policy = .ok (.ok m)) : SelectorsFirstWin img policy m := by
  obtain ⟨classes, categories⟩ := walk_entities_eq walked
  refine ⟨fun c mem real => ?_, fun k mem real => ?_, walk_protocolsFirstWin walked⟩
  next =>
    rw [classes] at mem
    obtain ⟨slot, -, rfl⟩ := List.mem_map.1 mem
    exact classAt_firstWins real
  next =>
    rw [categories] at mem
    obtain ⟨slot, -, rfl⟩ := List.mem_map.1 mem
    exact categoryAt_firstWins real

/-! A sample: a library with one root class `A`, laid out as a 64-bit or as a 32-bit image. Its
instance method list and its metaclass's method list each hold `foo` twice, first typed `v16@0:8`
and then `i16@0:8`, and its two ivars descend: `x` at 8, then `y` at 4. -/

namespace Metadata

open MachImage

def classSampleSections (w : Nat) : List Section :=
  [dataSection "__objc_classlist" 0x200 w, dataSection "__objc_data" 0x210 (10 * w),
    dataSection "__objc_const" 0x260 0x1a0]

def classSampleHeader (wide : Bool) : Header :=
  if wide then ⟨.little64, .x86_64, CpuSubType.ofRaw .x86_64 3, .dylib, 1, 72 + 80 * 3, 0⟩
  else ⟨.little32, .i386, CpuSubType.ofRaw .i386 3, .dylib, 1, 56 + 68 * 3, 0⟩

def classSampleSegment (wide : Bool) : Segment :=
  if wide then ⟨.segment64, 72 + 80 * 3, "__DATA", 0x1000, 0x1000, 0, 0x400, 7, 3, 3, 0, classSampleSections 8⟩
  else ⟨.segment, 56 + 68 * 3, "__DATA", 0x1000, 0x1000, 0, 0x400, 7, 3, 3, 0, classSampleSections 4⟩

def classSampleFile (wide : Bool) : ByteArray :=
  let w := if wide then 8 else 4
  let word (n : Nat) := littleEndianBytes 4 n
  let ptr (n : Nat) := littleEndianBytes w n
  let pad (upTo : Nat) (bytes : List UInt8) := bytes ++ List.replicate (upTo - bytes.length) 0
  let header := if wide then
      word 0xfeedfacf ++ word 0x01000007 ++ word 3 ++ word 6 ++ word 1 ++ word (72 + 80 * 3) ++ word 0 ++
        word 0
    else word 0xfeedface ++ word 7 ++ word 3 ++ word 6 ++ word 1 ++ word (56 + 68 * 3) ++ word 0
  let segment := word (if wide then 0x19 else 1) ++ word (if wide then 72 + 80 * 3 else 56 + 68 * 3) ++
    nameField "__DATA" ++ ptr 0x1000 ++ ptr 0x1000 ++ ptr 0 ++ ptr 0x400 ++ word 7 ++ word 3 ++ word 3 ++
    word 0
  let headers := (classSampleSections w).flatMap fun s =>
    nameField s.sectname ++ nameField "__DATA" ++ ptr s.addr ++ ptr s.size ++ word s.offset ++
      List.replicate (if wide then 28 else 24) 0
  -- the class list, then the records of the class and its metaclass
  let records := pad 0x10 (ptr 0x1210) ++
    pad 0x50 (ptr (0x1210 + 5 * w) ++ ptr 0 ++ ptr 0 ++ ptr 0 ++ ptr 0x1260 ++
      ptr 0 ++ ptr 0 ++ ptr 0 ++ ptr 0 ++ ptr 0x12b0)
  let ro (flags methods ivars : Nat) := pad 0x50 (word flags ++ word 8 ++ word 12 ++
    (if wide then word 0 else []) ++ ptr 0 ++ ptr 0x13e0 ++ ptr methods ++ ptr 0 ++ ptr ivars ++ ptr 0 ++
    ptr 0)
  let method (types : Nat) := ptr 0x13e2 ++ ptr types ++ ptr 0
  let methods := pad 0x40 (word (3 * w) ++ word 2 ++ method 0x13e6 ++ method 0x13ee)
  let ivar (offset name : Nat) := ptr offset ++ ptr name ++ ptr 0x13fa ++ word 2 ++ word 4
  -- the read-only data of both, the two method lists, the ivars and their offsets, the strings
  let const := ro 2 0x1300 0x1380 ++ ro 3 0x1340 0 ++ methods ++ methods ++
    pad 0x50 (word (3 * w + 8) ++ word 2 ++ ivar 0x13d0 0x13f6 ++ ivar 0x13d4 0x13f8) ++
    pad 0x10 (word 8 ++ word 4) ++
    pad 0x20 (cStringBytes "A" ++ cStringBytes "foo" ++ cStringBytes "v16@0:8" ++
      cStringBytes "i16@0:8" ++ cStringBytes "x" ++ cStringBytes "y" ++ cStringBytes "i")
  ⟨⟨pad 0x200 (header ++ segment ++ headers) ++ records ++ const⟩⟩

def classSampleImage (wide : Bool) : MachImage :=
  ⟨classSampleFile wide, classSampleHeader wide, (classSampleHeader wide).architecture,
    [.segment (classSampleSegment wide)], [classSampleSegment wide], ⟨∅, 0x1000, false⟩, none, .checked⟩

theorem parse_classSampleFile (wide : Bool) :
    parse .checked (classSampleFile wide) = .ok (.ok (classSampleImage wide)) := by
  have laid : layout (classSampleFile wide) =
      .ok (classSampleHeader wide, [.segment (classSampleSegment wide)], [classSampleSegment wide]) :=
    layout_eq_ok_iff.2 ⟨by cases wide <;> decide +kernel, by cases wide <;> decide +kernel, rfl,
      by cases wide <;> decide +kernel, checkSectionOverlap_eq_ok_iff.2 (by cases wide <;> decide)⟩
  simp only [parse, laid]
  cases wide <;> rfl

theorem classSampleImage_readPointer (wide : Bool) (address : Nat) :
    (classSampleImage wide).readPointer address =
      ((classSampleImage wide).readWord address).map fun raw => if raw = 0 then .null else .value raw :=
  readPointer_of_noFixups rfl rfl address

set_option maxRecDepth 20000 in
theorem walk_classSampleImage (wide : Bool) (policy : ListPolicy) :
    ∃ m, walk (classSampleImage wide) policy = .ok (.ok m) := by
  cases ran : walk (classSampleImage wide) policy with
  | error f => exact absurd ran (walk_ne_error_of_low (by cases wide <;> decide) f)
  | ok r =>
    cases r with
    | error e =>
      have listed : (topLists (classSampleImage wide)).toBool = true := by cases wide <;> decide
      rw [walk_eq_ok_error_iff.1 ran] at listed
      cases listed
    | ok m => exact ⟨m, rfl⟩

set_option maxRecDepth 20000 in
theorem walk_classSampleImage_classes {wide : Bool} {policy : ListPolicy} {m : ObjectModel}
    (walked : walk (classSampleImage wide) policy = .ok (.ok m)) :
    m.classes = [classAt (classSampleImage wide) policy 0x1200] := by
  have slots : listSlots (classSampleImage wide) "__objc_classlist" = [0x1200] := by
    cases wide <;> decide
  rw [(walk_entities_eq walked).1, slots]
  rfl

end Metadata

open Metadata in
/-- The class of the sample keeps `foo` once in each scope, typed as its first entry there. -/
theorem walk_keeps_first_method_per_selector_classSample :
    ∃ m, walk (classSampleImage true) .strict = .ok (.ok m) ∧
      SelectorsFirstWin (classSampleImage true) .strict m ∧
      m.classes.map (fun c => (c.instanceMethods ++ c.classMethods).map fun x =>
          (x.selector, x.isClass, x.encoding)) =
        [[("foo", false, "v16@0:8"), ("foo", true, "v16@0:8")]] := by
  obtain ⟨m, walked⟩ := walk_classSampleImage true .strict
  refine ⟨m, walked, walk_keeps_first_method_per_selector walked, ?_⟩
  rw [walk_classSampleImage_classes walked]
  simp only [List.map_cons, List.map_nil, classAt, EntityView.entityFor, classRead, classHead,
    ClassRecord.read, ClassData.read, dataAddress, MachImage.readString, classOfRecord, methodList,
    metaclassPart, metaclassData, MethodEntry.read, readMethod, MachImage.readAddress,
    classSampleImage_readPointer, MachImage.readWord, MachImage.readU32, MachImage.readUInt,
    Source.readWord, MachImage.readCString, MachImage.translate, Source.slice_eq_take_drop]
  decide +kernel

end ObjcImage
