import Mathlib
import ObjcImage.Proofs.Walk.Invariant
import ObjcImage.Proofs.MachO.Layout

set_option autoImplicit false

/-!
One entity for each slot of the top-level lists: the record read at the slot's address, or a
placeholder with the diagnostic that says why.
-/

namespace ObjcImage

namespace Metadata

def listSlots (img : MachImage) (sectname : String) : List Nat :=
  match img.sectionNamed? sectname with
  | none => []
  | some (sect, _) =>
    (List.range (sect.size / img.arch.pointerWidth)).map fun i => sect.addr + i * img.arch.pointerWidth

theorem pointerList_eq_ok {img : MachImage} {sectname : String}
    {entries : List (Nat × Except ImageError SlotValue)} (listed : pointerList img sectname = .ok entries) :
    entries = (listSlots img sectname).map fun slot => (slot, img.readPointer slot) := by
  unfold pointerList at listed
  unfold listSlots
  cases named : img.sectionNamed? sectname with
  | none => simp only [named, Except.ok.injEq] at listed; simp [listed]
  | some found =>
    obtain ⟨sect, bytes⟩ := found
    simp only [named] at listed
    split at listed
    next => cases listed
    next =>
      split at listed
      next => cases listed
      next => cases listed; simp [List.map_map, Function.comp_def]

theorem topLists_eq_ok {img : MachImage} {protocols classes categories : List (Nat × Except ImageError SlotValue)}
    (listed : topLists img = .ok (protocols, classes, categories)) :
    pointerList img "__objc_protolist" = .ok protocols ∧
      pointerList img "__objc_classlist" = .ok classes ∧
      pointerList img "__objc_catlist" = .ok categories := by
  unfold topLists at listed
  cases p : pointerList img "__objc_protolist" with
  | error e => simp [p, bind, Except.bind] at listed
  | ok ps =>
    cases c : pointerList img "__objc_classlist" with
    | error e => simp [p, c, bind, Except.bind] at listed
    | ok cs =>
      cases k : pointerList img "__objc_catlist" with
      | error e => simp [p, c, k, bind, Except.bind] at listed
      | ok ks =>
        simp only [p, c, k, bind, Except.bind, pure, Except.pure, Except.ok.injEq, Prod.mk.injEq] at listed
        obtain ⟨rfl, rfl, rfl⟩ := listed
        exact ⟨rfl, rfl, rfl⟩

def Shows (cs : List ObjcClass) (ks : List Category) (ds : List Diagnostic) (s : Walker) : Prop :=
  s.model.classes = cs ∧ s.model.categories = ks ∧ s.model.diagnostics = ds

theorem stable_shows {img : MachImage} (cs : List ObjcClass) (ks : List Category)
    (ds : List Diagnostic) : Stable img (Shows cs ks ds) :=
  ⟨fun _ _ _ _ _ _ shown => shown, fun _ _ _ _ _ _ shown => shown, fun _ _ shown => shown⟩

theorem invalid_triple (cs : List ObjcClass) (ks : List Category) (ds : List Diagnostic)
    (address : Nat) (reason : String) :
    Triple (Shows cs ks ds) (invalid address reason) fun d s =>
      d = ⟨some address, .invalidRecord address reason⟩ ∧ Shows cs ks (ds ++ [d]) s := by
  unfold invalid
  refine Triple.bind (Triple.modify
    (Q := fun _ => Shows cs ks (ds ++ [⟨some address, .invalidRecord address reason⟩])) ?_) fun _ =>
      Triple.pure fun _ shown => ⟨rfl, shown⟩
  rintro s ⟨classes, categories, diagnostics⟩
  exact ⟨classes, categories, by simp [ObjectModel.pushDiagnostic, diagnostics]⟩

/-- What the walk needs to know of the entities of a top-level list: the placeholder it makes for an
address with the diagnostic that says why, and how an entity shows whether it is one, its address
and its diagnostics. -/
structure EntityView (E : Type) where
  placeholderAt : Nat → Diagnostic → E
  placeholder : E → Bool
  address : E → Nat
  diagnostics : E → List Diagnostic
  placeholder_placeholderAt : ∀ a d, placeholder (placeholderAt a d) = true
  diagnostics_placeholderAt : ∀ a d, diagnostics (placeholderAt a d) = [d]

def classView : EntityView ObjcClass :=
  ⟨ObjcClass.placeholderAt, (·.placeholder), (·.address), (·.diagnostics), fun _ _ => rfl,
    fun _ _ => rfl⟩

def categoryView : EntityView Category :=
  ⟨Category.placeholderAt, (·.placeholder), (·.address), (·.diagnostics), fun _ _ => rfl,
    fun _ _ => rfl⟩

namespace EntityView

variable {E : Type} (v : EntityView E)

/-- The entity the walk keeps for the slot at `slot`: the entity read at the address the slot holds,
which is no placeholder, or, when that record cannot be read, a placeholder for the address, or,
when the slot holds no address, a placeholder for the slot. A placeholder carries the
invalid-record diagnostic that says why. -/
def FromSlot (img : MachImage) (slot : Nat) (e : E) : Prop :=
  match recordTarget slot (img.readPointer slot) with
  | .ok target =>
    (v.placeholder e = false ∧ v.address e = target) ∨
      ∃ reason, e = v.placeholderAt target ⟨some target, .invalidRecord target reason⟩
  | .error reason => e = v.placeholderAt slot ⟨some slot, .invalidRecord slot reason⟩

def invalidDiagnostics (e : E) : List Diagnostic := if v.placeholder e then v.diagnostics e else []

@[simp] theorem invalidDiagnostics_placeholderAt (a : Nat) (d : Diagnostic) :
    v.invalidDiagnostics (v.placeholderAt a d) = [d] := by
  simp [invalidDiagnostics, v.placeholder_placeholderAt, v.diagnostics_placeholderAt]

theorem invalidDiagnostics_of_placeholder_eq_false {e : E} (real : v.placeholder e = false) :
    v.invalidDiagnostics e = [] := by
  simp [invalidDiagnostics, real]

def slotEntity (read : Nat → Walking (Except ImageError E)) (slot : Nat)
    (value : Except ImageError SlotValue) : Walking E :=
  match recordTarget slot value with
  | .ok address => do
    match ← read address with
    | .ok e => pure e
    | .error err => do
      let d ← invalid address err.message
      pure (v.placeholderAt address d)
  | .error reason => do
    let d ← invalid slot reason
    pure (v.placeholderAt slot d)

theorem slotEntity_triple {img : MachImage} {read : Nat → Walking (Except ImageError E)}
    (keeps : ∀ cs ks ds address, Preserves img (Shows cs ks ds) (read address))
    (reads : ∀ address, Yields (fun r => ∀ e, r = .ok e →
      v.placeholder e = false ∧ v.address e = address) (read address))
    (cs : List ObjcClass) (ks : List Category) (ds : List Diagnostic) (slot : Nat) :
    Triple (Shows cs ks ds) (v.slotEntity read slot (img.readPointer slot)) fun e s =>
      v.FromSlot img slot e ∧ Shows cs ks (ds ++ v.invalidDiagnostics e) s := by
  unfold slotEntity FromSlot
  cases recordTarget slot (img.readPointer slot) with
  | ok address =>
    dsimp only
    refine Triple.bind (Triple.of_preserves (keeps cs ks ds address) (reads address)) fun r => ?_
    cases r with
    | ok e =>
      refine Triple.pure fun s ⟨shown, read⟩ => ?_
      obtain ⟨real, located⟩ := read e rfl
      exact ⟨.inl ⟨real, located⟩, by simpa [v.invalidDiagnostics_of_placeholder_eq_false real] using shown⟩
    | error err =>
      -- the record cannot be read: a placeholder for its address
      refine Triple.weaken (fun s h => h.1) (fun _ _ h => h) ?_
      refine Triple.bind (invalid_triple cs ks ds address err.message) fun d => Triple.pure ?_
      rintro s ⟨rfl, shown⟩
      exact ⟨.inr ⟨err.message, rfl⟩, by simpa using shown⟩
  | error reason =>
    -- the slot holds no address: a placeholder for the slot
    dsimp only
    refine Triple.bind (invalid_triple cs ks ds slot reason) fun d => Triple.pure ?_
    rintro s ⟨rfl, shown⟩
    exact ⟨rfl, by simpa using shown⟩

end EntityView

theorem walkClass_eq (img : MachImage) (policy : ListPolicy) (fuel slot : Nat)
    (value : Except ImageError SlotValue) :
    walkClass img policy fuel (slot, value) = (do
      let c ← classView.slotEntity (readClass img policy (protocolAt img policy fuel)) slot value
      modify fun s => { s with model := s.model.pushClass c }) := by
  -- the walk pushes the entity in each branch; the monad laws gather the pushes into one
  unfold walkClass EntityView.slotEntity
  dsimp only
  cases recordTarget slot value with
  | ok address =>
    simp only [bind_assoc]
    congr 1
    funext r
    cases r <;> simp [classView]
  | error reason => simp [classView]

theorem walkCategory_eq (img : MachImage) (policy : ListPolicy) (fuel : Nat) (hasClassProperties : Bool)
    (slot : Nat) (value : Except ImageError SlotValue) :
    walkCategory img policy fuel hasClassProperties (slot, value) = (do
      let c ← categoryView.slotEntity
        (readCategory img policy (protocolAt img policy fuel) hasClassProperties) slot value
      modify fun s => { s with model := s.model.pushCategory c }) := by
  unfold walkCategory EntityView.slotEntity
  dsimp only
  cases recordTarget slot value with
  | ok address =>
    simp only [bind_assoc]
    congr 1
    funext r
    cases r <;> simp [categoryView]
  | error reason => simp [categoryView]

section Bodies

variable (img : MachImage) (policy : ListPolicy) (resolve : Nat → Walking (Except ImageError String))

theorem classBody_yields (address : Nat) (record : ClassRecord) (data : ClassData) (name : String) :
    EYields (fun c => c.placeholder = false ∧ c.address = address)
      (classBody img policy resolve address record data name) := by
  unfold classBody
  refine EYields.bind fun _ => EYields.bind fun _ => EYields.bind fun _ => ?_
  refine EYields.bind fun _ => EYields.bind fun _ => ?_
  -- the metaclass is read, or is bound elsewhere, or cannot be read; the class is built after
  dsimp only
  split
  next =>
    exact EYields.bind fun _ => EYields.bind fun _ => EYields.bind fun _ =>
      EYields.bind fun _ => EYields.pure ⟨rfl, rfl⟩
  next => exact EYields.bind fun _ => EYields.bind fun _ => EYields.pure ⟨rfl, rfl⟩
  next =>
    exact EYields.bind fun _ => EYields.bind fun _ => EYields.bind fun _ => EYields.pure ⟨rfl, rfl⟩

theorem readClass_yields (address : Nat) :
    Yields (fun r => ∀ c, r = .ok c → c.placeholder = false ∧ c.address = address)
      (readClass img policy resolve address) := by
  unfold readClass
  split
  next => exact Yields.pure fun _ failed => by cases failed
  next record data name _ =>
    refine Yields.bind fun _ => ?_
    refine Yields.bind_of (classBody_yields img policy resolve address record data name {}) fun r real => ?_
    exact Yields.pure fun c read => by cases read; exact real

theorem categoryBody_yields (address : Nat) (record : CategoryRecord) (name : String) :
    EYields (fun c => c.placeholder = false ∧ c.address = address)
      (categoryBody img policy resolve address record name) := by
  unfold categoryBody
  refine EYields.bind fun _ => EYields.bind fun _ => EYields.bind fun _ => ?_
  refine EYields.bind fun _ => EYields.bind fun _ => ?_
  dsimp only
  split
  next => exact EYields.bind fun _ => EYields.bind fun _ => EYields.pure ⟨rfl, rfl⟩
  next => exact EYields.bind fun _ => EYields.bind fun _ => EYields.pure ⟨rfl, rfl⟩

theorem readCategory_yields (hasClassProperties : Bool) (address : Nat) :
    Yields (fun r => ∀ c, r = .ok c → c.placeholder = false ∧ c.address = address)
      (readCategory img policy resolve hasClassProperties address) := by
  unfold readCategory
  dsimp only
  split
  next => exact Yields.pure fun _ failed => by cases failed
  next record name _ =>
    refine Yields.bind_of (categoryBody_yields img policy resolve address record name {}) fun r real => ?_
    exact Yields.pure fun c read => by cases read; exact real

end Bodies

section Steps

variable {img : MachImage} (policy : ListPolicy) (fuel : Nat)

theorem walkClass_triple (slot : Nat) (cs : List ObjcClass) (ks : List Category) (ds : List Diagnostic) :
    Triple (Shows cs ks ds) (walkClass img policy fuel (slot, img.readPointer slot)) fun _ s =>
      ∃ c, classView.FromSlot img slot c ∧
        Shows (cs ++ [c]) ks (ds ++ classView.invalidDiagnostics c) s := by
  rw [walkClass_eq]
  have keeps := fun cs ks ds =>
    readClass_preserves (stable_shows cs ks ds : Stable img _).nameClass policy
      (protocolAt_preserves (stable_shows cs ks ds) policy fuel)
  refine Triple.bind (classView.slotEntity_triple keeps (readClass_yields img policy _) cs ks ds slot)
    fun c => Triple.modify ?_
  rintro s ⟨fromSlot, classes, categories, diagnostics⟩
  exact ⟨c, fromSlot, by simp [ObjectModel.pushClass, classes], categories, diagnostics⟩

theorem walkCategory_triple (hasClassProperties : Bool) (slot : Nat) (cs : List ObjcClass)
    (ks : List Category) (ds : List Diagnostic) :
    Triple (Shows cs ks ds) (walkCategory img policy fuel hasClassProperties (slot, img.readPointer slot))
      fun _ s => ∃ k, categoryView.FromSlot img slot k ∧
        Shows cs (ks ++ [k]) (ds ++ categoryView.invalidDiagnostics k) s := by
  rw [walkCategory_eq]
  have keeps := fun cs ks ds =>
    readCategory_preserves (stable_shows cs ks ds : Stable img _).nameClass policy
      (protocolAt_preserves (stable_shows cs ks ds) policy fuel) hasClassProperties
  refine Triple.bind (categoryView.slotEntity_triple keeps (readCategory_yields img policy _ _) cs ks ds slot)
    fun k => Triple.modify ?_
  rintro s ⟨fromSlot, classes, categories, diagnostics⟩
  exact ⟨k, fromSlot, classes, by simp [ObjectModel.pushCategory, categories], diagnostics⟩

def ProtocolSlotDiagnostics (slot : Nat) (added : List Diagnostic) : Prop :=
  added = [] ∨ ∃ reason, added = [⟨some slot, .invalidRecord slot reason⟩]

theorem walkProtocol_triple (slot : Nat) (value : Except ImageError SlotValue) (cs : List ObjcClass)
    (ks : List Category) (ds : List Diagnostic) :
    Triple (Shows cs ks ds) (walkProtocol img policy fuel (slot, value)) fun _ s =>
      ∃ added, ProtocolSlotDiagnostics slot added ∧ Shows cs ks (ds ++ added) s := by
  unfold walkProtocol
  dsimp only
  -- a slot that gives no protocol leaves a placeholder protocol and one diagnostic
  have recorded : ∀ reason, Triple (Shows cs ks ds) (do
      let d ← invalid slot reason
      modify fun s => { s with model := s.model.addProtocol (Protocol.placeholderAt slot d) })
      fun _ s => ∃ added, ProtocolSlotDiagnostics slot added ∧ Shows cs ks (ds ++ added) s := by
    intro reason
    refine Triple.bind (invalid_triple cs ks ds slot reason) fun d => Triple.modify ?_
    rintro s ⟨rfl, shown⟩
    exact ⟨_, .inr ⟨reason, rfl⟩, shown⟩
  split
  next => exact Triple.pure_bind (recorded _)
  next =>
    refine Triple.bind (protocolAt_preserves (stable_shows cs ks ds) policy fuel _).triple fun _ => ?_
    split
    next => exact Triple.pure_bind (Triple.pure fun s shown => ⟨[], .inl rfl, by simpa using shown⟩)
    next => exact Triple.pure_bind (recorded _)

theorem walkProtocols_triple (slots : List Nat) (cs : List ObjcClass) (ks : List Category)
    (ds : List Diagnostic) :
    Triple (Shows cs ks ds)
      ((slots.map fun slot => (slot, img.readPointer slot)).forM (walkProtocol img policy fuel))
      fun _ s => ∃ added, List.Forall₂ ProtocolSlotDiagnostics slots added ∧
        Shows cs ks (ds ++ added.flatten) s := by
  rw [List.forM_eq_forM, List.forM_map, ← List.forM_eq_forM]
  refine Triple.weaken (fun s shown => by simpa using shown) (fun _ _ h => h)
    (Triple.forM_push ProtocolSlotDiagnostics (fun added => Shows cs ks (ds ++ added.flatten))
      fun slot _ added => ?_)
  refine Triple.weaken (fun s shown => shown) ?_ (walkProtocol_triple policy fuel slot _ cs ks _)
  rintro _ s ⟨more, diagnostics, shown⟩
  exact ⟨more, diagnostics, by simpa using shown⟩

theorem walkClasses_triple (slots : List Nat) (ks : List Category) (ds : List Diagnostic) :
    Triple (Shows [] ks ds)
      ((slots.map fun slot => (slot, img.readPointer slot)).forM (walkClass img policy fuel))
      fun _ s => ∃ cs, List.Forall₂ (classView.FromSlot img) slots cs ∧
        Shows cs ks (ds ++ cs.flatMap classView.invalidDiagnostics) s := by
  rw [List.forM_eq_forM, List.forM_map, ← List.forM_eq_forM]
  refine Triple.weaken (fun s shown => by simpa using shown) (fun _ _ h => h)
    (Triple.forM_push (classView.FromSlot img)
      (fun cs => Shows cs ks (ds ++ cs.flatMap classView.invalidDiagnostics)) fun slot _ cs => ?_)
  refine Triple.weaken (fun s shown => shown) ?_ (walkClass_triple policy fuel slot cs ks _)
  rintro _ s ⟨c, fromSlot, shown⟩
  exact ⟨c, fromSlot, by simpa using shown⟩

theorem walkCategories_triple (hasClassProperties : Bool) (slots : List Nat) (cs : List ObjcClass)
    (ds : List Diagnostic) :
    Triple (Shows cs [] ds)
      ((slots.map fun slot => (slot, img.readPointer slot)).forM
        (walkCategory img policy fuel hasClassProperties))
      fun _ s => ∃ ks, List.Forall₂ (categoryView.FromSlot img) slots ks ∧
        Shows cs ks (ds ++ ks.flatMap categoryView.invalidDiagnostics) s := by
  rw [List.forM_eq_forM, List.forM_map, ← List.forM_eq_forM]
  refine Triple.weaken (fun s shown => by simpa using shown) (fun _ _ h => h)
    (Triple.forM_push (categoryView.FromSlot img)
      (fun ks => Shows cs ks (ds ++ ks.flatMap categoryView.invalidDiagnostics)) fun slot _ ks => ?_)
  refine Triple.weaken (fun s shown => shown) ?_
    (walkCategory_triple policy fuel hasClassProperties slot cs ks _)
  rintro _ s ⟨k, fromSlot, shown⟩
  exact ⟨k, fromSlot, by simpa using shown⟩

end Steps

theorem initialModel_fresh (img : MachImage) :
    (initialModel img).classes = [] ∧ (initialModel img).categories = [] ∧
      ∀ d ∈ (initialModel img).diagnostics, ∀ a reason, d.kind ≠ .invalidRecord a reason := by
  unfold initialModel
  dsimp only
  split
  next => split <;> simp [ObjectModel.pushDiagnostic]
  next => split <;> split <;> simp [ObjectModel.pushDiagnostic]

end Metadata

open Metadata in
/-- When the walk of an image yields a model, its classes stand one for one, in order, for the slots
of the class list section, and its categories for those of the category list section, each as
`FromSlot` describes; its diagnostics are those of the image, none about an invalid record, then
at most one for each slot of the protocol list, then those of the class placeholders, then those
of the category placeholders. -/
theorem walk_keeps_one_entity_per_slot {img : MachImage} {policy : ListPolicy} {m : ObjectModel}
    (walked : walk img policy = .ok (.ok m)) :
    List.Forall₂ (classView.FromSlot img) (listSlots img "__objc_classlist") m.classes ∧
      List.Forall₂ (categoryView.FromSlot img) (listSlots img "__objc_catlist") m.categories ∧
      ∃ added, List.Forall₂ ProtocolSlotDiagnostics (listSlots img "__objc_protolist") added ∧
        m.diagnostics = (initialModel img).diagnostics ++ added.flatten ++
          m.classes.flatMap classView.invalidDiagnostics ++
          m.categories.flatMap categoryView.invalidDiagnostics ∧
        ∀ d ∈ (initialModel img).diagnostics, ∀ a reason, d.kind ≠ .invalidRecord a reason := by
  unfold walk at walked
  split at walked
  next => cases walked
  next protocols classes categories listed =>
    obtain ⟨protocolsListed, classesListed, categoriesListed⟩ := topLists_eq_ok listed
    rw [pointerList_eq_ok protocolsListed, pointerList_eq_ok classesListed,
      pointerList_eq_ok categoriesListed] at walked
    dsimp only at walked
    generalize ranEq : StateT.run _ _ = ran at walked
    cases ran with
    | error f => cases walked
    | ok result =>
      obtain ⟨_, s⟩ := result
      simp only [Except.map, Except.ok.injEq] at walked
      subst walked
      obtain ⟨noClasses, noCategories, noneInvalid⟩ := initialModel_fresh img
      -- the protocols, then the classes, then the categories
      obtain ⟨_, s₁, protocolsRan, rest⟩ := run_bind_eq_ok ranEq
      obtain ⟨_, s₂, classesRan, categoriesRan⟩ := run_bind_eq_ok rest
      obtain ⟨added, protocolSlots, shown₁⟩ := walkProtocols_triple policy _ _ [] [] _ _
        ⟨noClasses, noCategories, rfl⟩ _ s₁ protocolsRan
      obtain ⟨cs, classSlots, shown₂⟩ := walkClasses_triple policy _ _ [] _ s₁ shown₁ _ s₂ classesRan
      obtain ⟨ks, categorySlots, classes, categories, diagnostics⟩ :=
        walkCategories_triple policy _ _ _ cs _ s₂ shown₂ _ s categoriesRan
      rw [classes, categories]
      exact ⟨classSlots, categorySlots, added, protocolSlots, by simp [diagnostics], noneInvalid⟩

theorem MachImage.readPointer_of_readWord {img : MachImage} {address raw : Nat}
    (word : img.readWord address = .ok raw) :
    img.readPointer address = .ok (img.fixups.resolve address raw) := by
  simp [MachImage.readPointer, word]

/-! A sample: an image whose class list holds two null slots, each of which gives a placeholder
class and an invalid-record diagnostic. -/

namespace Metadata

def nullSlotsImage : MachImage :=
  MachImage.sampleImage [MachImage.sampleSection "__objc_classlist" 0x1110 0x10 0x110]

def nullEntry (slot : Nat) : Diagnostic :=
  ⟨some slot, .invalidRecord slot ("null entry at " ++ Text.hex slot)⟩

def nullSlotsModel : ObjectModel :=
  { arch := nullSlotsImage.arch,
    classes := [ObjcClass.placeholderAt 0x1110 (nullEntry 0x1110),
      ObjcClass.placeholderAt 0x1118 (nullEntry 0x1118)],
    classIndex := [(placeholderName 0x1118, 1), (placeholderName 0x1110, 0)],
    diagnostics := [nullEntry 0x1110, nullEntry 0x1118] }

set_option maxRecDepth 20000 in
theorem nullSlotsImage_readPointer {slot : Nat} (slots : slot = 0x1110 ∨ slot = 0x1118) :
    nullSlotsImage.readPointer slot = .ok .null := by
  have noFixups : nullSlotsImage.fixups.slots = ∅ := rfl
  -- both slots lie in the zero-filled tail of the file
  have word : nullSlotsImage.readWord slot = .ok 0 := by
    rcases slots with rfl | rfl
    next => decide
    next => decide
  rw [MachImage.readPointer_of_readWord word]
  simp [FixupTable.resolve, noFixups]

set_option maxRecDepth 4000 in
theorem topLists_nullSlotsImage :
    topLists nullSlotsImage = .ok ([], [(0x1110, nullSlotsImage.readPointer 0x1110),
      (0x1118, nullSlotsImage.readPointer 0x1118)], []) := by
  rfl

theorem walk_nullSlotsImage (policy : ListPolicy) :
    walk nullSlotsImage policy = .ok (.ok nullSlotsModel) := by
  rw [walk, topLists_nullSlotsImage]
  simp only [nullSlotsImage_readPointer (.inl rfl), nullSlotsImage_readPointer (.inr rfl)]
  rfl

end Metadata

open Metadata in
theorem walk_keeps_one_entity_per_slot_nullSlots :
    walk nullSlotsImage .strict = .ok (.ok nullSlotsModel) ∧
      List.Forall₂ (classView.FromSlot nullSlotsImage) (listSlots nullSlotsImage "__objc_classlist")
        nullSlotsModel.classes ∧
      List.Forall₂ (categoryView.FromSlot nullSlotsImage) (listSlots nullSlotsImage "__objc_catlist")
        nullSlotsModel.categories ∧
      ∃ added, List.Forall₂ ProtocolSlotDiagnostics (listSlots nullSlotsImage "__objc_protolist") added ∧
        nullSlotsModel.diagnostics = (initialModel nullSlotsImage).diagnostics ++ added.flatten ++
          nullSlotsModel.classes.flatMap classView.invalidDiagnostics ++
          nullSlotsModel.categories.flatMap categoryView.invalidDiagnostics ∧
        ∀ d ∈ (initialModel nullSlotsImage).diagnostics, ∀ a reason, d.kind ≠ .invalidRecord a reason :=
  ⟨walk_nullSlotsImage .strict, walk_keeps_one_entity_per_slot (walk_nullSlotsImage .strict)⟩

end ObjcImage
