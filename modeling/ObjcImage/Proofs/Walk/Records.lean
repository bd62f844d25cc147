import Mathlib
import ObjcImage.Proofs.Walk.Notes
import ObjcImage.Proofs.Walk.Names
import ObjcImage.Proofs.Walk.Slots

set_option autoImplicit false

/-!
What the walk reads for a class or a category, as a function of the image alone: each list read on
its own from no notes, whatever the walk has read before.
-/

namespace ObjcImage

namespace Metadata

open Reading

section Rules

variable {α β : Type} {I : Walker → Prop}

/-- Reading an entity in a walk state with `I`, `x` gives from any notes what the reading `r` gives
from them, and keeps `I`. -/
def Simulates (I : Walker → Prop) (x : EntityReading α) (r : Reading α) : Prop :=
  ∀ n s, I s → ∀ a n' s', (x.run n).run s = .ok ((a, n'), s') → (a, n') = r.run n ∧ I s'

theorem Triple.assume {P : Walker → Prop} {Q : α → Walker → Prop} {x : Walking α} {c : Prop}
    (rest : c → Triple P x Q) : Triple (fun s => c ∧ P s) x Q :=
  fun s ⟨holds, hs⟩ => rest holds s hs

theorem Simulates.pure (a : α) : Simulates I (Pure.pure a) (Pure.pure a) := by
  intro n s hs b n' s' ran
  cases ran
  exact ⟨rfl, hs⟩

theorem Simulates.bind {x : EntityReading α} {r : Reading α} {f : α → EntityReading β}
    {g : α → Reading β} (first : Simulates I x r) (rest : ∀ a, Simulates I (f a) (g a)) :
    Simulates I (x >>= f) (r >>= g) := by
  intro n s hs b n'' s'' ran
  rw [StateT.run_bind] at ran
  obtain ⟨⟨a, n'⟩, s', ran₁, ran₂⟩ := run_bind_eq_ok ran
  obtain ⟨same, hs'⟩ := first n s hs a n' s' ran₁
  obtain ⟨same', hs''⟩ := rest a n' s' hs' b n'' s'' ran₂
  refine ⟨?_, hs''⟩
  rw [same', Reading.run_bind, ← same]

theorem Simulates.reading (r : Reading α) : Simulates I (reading r) r := by
  intro n s hs a n' s' ran
  obtain ⟨read, rfl⟩ := Prod.mk.inj (Except.ok.inj ran : (r.run n, s) = ((a, n'), s'))
  exact ⟨read.symm, hs⟩

theorem Simulates.note (d : Diagnostic) : Simulates I (note d) (note d) := by
  intro n s hs a n' s' ran
  cases ran
  exact ⟨rfl, hs⟩

theorem Simulates.lift_bind {w : Walking α} {v : α} {f : α → EntityReading β} {r : Reading β}
    (determined : Triple I w fun a s => a = v ∧ I s) (rest : Simulates I (f v) r) :
    Simulates I (StateT.lift w >>= f) r := by
  intro n s hs b n' s'' ran
  rw [StateT.run_bind, StateT.run_lift] at ran
  obtain ⟨⟨a, n₁⟩, s', ran₁, ran₂⟩ := run_bind_eq_ok ran
  obtain ⟨a', s₁, ran₀, ran₀'⟩ := run_bind_eq_ok ran₁
  cases ran₀'
  obtain ⟨rfl, hs'⟩ := determined s hs a s' ran₀
  exact rest n s' hs' b n' s'' ran₂

theorem Simulates.filterMapM {l : List α} {f : α → EntityReading (Option β)}
    {g : α → Reading (Option β)} (each : ∀ a ∈ l, Simulates I (f a) (g a)) :
    Simulates I (l.filterMapM f) (l.filterMapM g) := by
  induction l with
  | nil => exact Simulates.pure []
  | cons a l ih =>
    rw [List.filterMapM_cons, List.filterMapM_cons]
    refine Simulates.bind (each a List.mem_cons_self) fun b? => ?_
    have rest := ih fun b mem => each b (List.mem_cons_of_mem a mem)
    cases b? with
    | none => exact rest
    | some b => exact Simulates.bind rest fun bs => Simulates.pure (b :: bs)

/-- From the notes `n` and a walk state with `I`, reading by `x` gives `v`, adds the notes `k` after
`n` and keeps `I`. -/
def Appends (I : Walker → Prop) (x : EntityReading α) (n : Notes) (v : α) (k : Notes) : Prop :=
  ∀ s, I s → ∀ a n' s', (x.run n).run s = .ok ((a, n'), s') → a = v ∧ n' = n.append k ∧ I s'

theorem Appends.pure {a v : α} {n : Notes} (same : a = v) : Appends I (Pure.pure a) n v {} := by
  intro s hs b n' s' ran
  cases ran
  exact ⟨same, by simp, hs⟩

theorem Appends.bind {x : EntityReading α} {f : α → EntityReading β} {n k k' : Notes} {v : α} {w : β}
    (first : Appends I x n v k) (rest : Appends I (f v) (n.append k) w k') :
    Appends I (x >>= f) n w (k.append k') := by
  intro s hs b n'' s'' ran
  rw [StateT.run_bind] at ran
  obtain ⟨⟨a, n'⟩, s', ran₁, ran₂⟩ := run_bind_eq_ok ran
  obtain ⟨rfl, rfl, hs'⟩ := first s hs a n' s' ran₁
  obtain ⟨rfl, rfl, hs''⟩ := rest s' hs' b n'' s'' ran₂
  exact ⟨rfl, Notes.append_assoc n k k', hs''⟩

theorem Appends.of_simulates {x : EntityReading α} {r : Reading α} {n k : Notes} {v : α}
    (simulates : Simulates I x r) (ran : r.run n = (v, n.append k)) : Appends I x n v k := by
  intro s hs a n' s' ran'
  obtain ⟨same, hs'⟩ := simulates n s hs a n' s' ran'
  rw [ran] at same
  cases same
  exact ⟨rfl, rfl, hs'⟩

theorem Appends.of_local {x : EntityReading α} {r : Reading α} {n : Notes} {scope : Option Bool}
    (simulates : Simulates I x r) (local_ : Local scope r)
    (fresh : ∀ p ∈ n.selectors, some p.2 ≠ scope) : Appends I x n (r.run {}).1 (r.run {}).2 :=
  Appends.of_simulates simulates (by simpa using local_.1 n {} fresh)

theorem Appends.reading {r : Reading α} {n : Notes} {scope : Option Bool} (local_ : Local scope r)
    (fresh : ∀ p ∈ n.selectors, some p.2 ≠ scope) :
    Appends I (reading r) n (r.run {}).1 (r.run {}).2 :=
  Appends.of_local (Simulates.reading r) local_ fresh

theorem Appends.reading_bind {r : Reading α} {f : α → EntityReading β} {n k : Notes} {w : β}
    {scope : Option Bool} (local_ : Local scope r) (fresh : ∀ p ∈ n.selectors, some p.2 ≠ scope)
    (rest : Appends I (f (r.run {}).1) (n.append (r.run {}).2) w k) :
    Appends I (Metadata.reading r >>= f) n w ((r.run {}).2.append k) :=
  Appends.bind (Appends.reading local_ fresh) rest

theorem Appends.of_local_bind {x : EntityReading α} {r : Reading α} {f : α → EntityReading β}
    {n k : Notes} {w : β} {scope : Option Bool} (simulates : Simulates I x r) (local_ : Local scope r)
    (fresh : ∀ p ∈ n.selectors, some p.2 ≠ scope)
    (rest : Appends I (f (r.run {}).1) (n.append (r.run {}).2) w k) :
    Appends I (x >>= f) n w ((r.run {}).2.append k) :=
  Appends.bind (Appends.of_local simulates local_ fresh) rest

theorem Appends.of_eq {x y : EntityReading α} {n k : Notes} {v : α} (same : x = y)
    (appends : Appends I y n v k) : Appends I x n v k :=
  same ▸ appends

theorem Appends.lift_bind {w : Walking α} {v : α} {f : α → EntityReading β} {n k : Notes} {u : β}
    (determined : Triple I w fun a s => a = v ∧ I s) (rest : Appends I (f v) n u k) :
    Appends I (StateT.lift w >>= f) n u k := by
  intro s hs b n' s'' ran
  rw [StateT.run_bind, StateT.run_lift] at ran
  obtain ⟨⟨a, n₁⟩, s', ran₁, ran₂⟩ := run_bind_eq_ok ran
  obtain ⟨a', s₁, ran₀, ran₀'⟩ := run_bind_eq_ok ran₁
  cases ran₀'
  obtain ⟨rfl, hs'⟩ := determined s hs a s' ran₀
  exact rest s' hs' b n' s'' ran₂

theorem Appends.note {n : Notes} (d : Diagnostic) : Appends I (note d) n () ⟨[d], []⟩ := by
  intro s hs a n' s' ran
  cases ran
  exact ⟨rfl, by simp [Notes.append], hs⟩

theorem Appends.triple_run {x : EntityReading α} {n k : Notes} {v : α} (appends : Appends I x n v k) :
    Triple I (x.run n) fun r s => r.1 = v ∧ I s := by
  rintro s hs ⟨a, n'⟩ s' ran
  obtain ⟨same, _, hs'⟩ := appends s hs a n' s' ran
  exact ⟨same, hs'⟩

theorem Appends.get_bind {f : Notes → EntityReading α} {n k : Notes} {v : α}
    (rest : Appends I (f n) n v k) : Appends I (MonadState.get >>= f) n v k := rest

end Rules

section References

variable (img : MachImage) (policy : ListPolicy)

def protocolRefsReading (value : SlotValue) : Reading (List String) := do
  let some list ← listAddress value | return []
  match img.readWord list with
  | .error e =>
    note ⟨some list, .image e⟩
    return []
  | .ok count =>
    let w := img.arch.pointerWidth
    let entries ← listEntries img policy .protocol (list + w) (min count 0xffffffff) w
    entries.filterMapM fun entry => do
      match img.readPointer entry with
      | .ok (.value address) =>
        match protocolNameAt img address with
        | .ok name => return some name
        | .error e =>
          note ⟨some address, .image e⟩
          return none
      | .ok (.bind symbol) => return some (symbolName symbol)
      | .ok .null => return none
      | .error e =>
        note ⟨some entry, .image e⟩
        return none

theorem protocolRefsReading_local (value : SlotValue) :
    Local none (protocolRefsReading img policy value) := by
  unfold protocolRefsReading
  refine Local.bind (listAddress_local value) fun list? => ?_
  split
  next list =>
    split
    next => exact Local.bind (Local.note _) fun _ => Local.pure _
    next count _ =>
      refine Local.bind (listEntries_local img policy _ _ _ _) fun entries => ?_
      refine Local.filterMapM fun entry _ => ?_
      split
      next address _ =>
        split
        next => exact Local.pure _
        next => exact Local.bind (Local.note _) fun _ => Local.pure _
      next => exact Local.pure _
      next => exact Local.pure _
      next => exact Local.bind (Local.note _) fun _ => Local.pure _
  next => exact Local.pure _

theorem protocolRefs_simulates (fuel : Nat) (value : SlotValue) :
    Simulates (NamesKnown img) (protocolRefs img policy (protocolAt img policy (fuel + 1)) value)
      (protocolRefsReading img policy value) := by
  unfold protocolRefs protocolRefsReading
  refine Simulates.bind (Simulates.reading _) fun list? => ?_
  rcases list? with _ | list
  · exact Simulates.pure _
  · dsimp only
    cases img.readWord list with
    | error e => exact Simulates.bind (Simulates.note _) fun _ => Simulates.pure _
    | ok count =>
      dsimp only
      refine Simulates.bind (Simulates.reading _) fun entries => Simulates.filterMapM fun entry _ => ?_
      rcases img.readPointer entry with e | (_ | address | symbol)
      · exact Simulates.bind (Simulates.note _) fun _ => Simulates.pure _
      · exact Simulates.pure _
      · -- the protocol is named as its record says, whatever the walk has read before
        dsimp only
        refine Simulates.lift_bind (protocolAt_triple img policy fuel address) ?_
        cases protocolNameAt img address with
        | ok name => exact Simulates.pure _
        | error e => exact Simulates.bind (Simulates.note _) fun _ => Simulates.pure _
      · exact Simulates.pure _

end References

section Fresh

variable {α : Type} {scope : Option Bool}

theorem Local.fresh_run {r : Reading α} {other : Option Bool} (local_ : Local other r)
    (differs : other ≠ scope) : ∀ p ∈ (r.run {}).2.selectors, some p.2 ≠ scope := by
  obtain ⟨added, selectors, inScope⟩ := local_.2 {}
  intro p mem
  rw [selectors] at mem
  rw [inScope p (by simpa using mem)]
  exact differs

theorem fresh_append {n k : Notes} (fresh : ∀ p ∈ n.selectors, some p.2 ≠ scope)
    (fresh' : ∀ p ∈ k.selectors, some p.2 ≠ scope) : ∀ p ∈ (n.append k).selectors, some p.2 ≠ scope := by
  intro p mem
  rcases List.mem_append.1 mem with inN | inK
  · exact fresh p inN
  · exact fresh' p inK

end Fresh

section Bodies

variable (img : MachImage) (policy : ListPolicy)

def metaclassPart (address : Nat) (record : ClassRecord) : Reading (List Method × List Property) :=
  match metaclassData img address record.isa with
  | .ok (some metaData) => do
    let (methods, _) ← methodList img policy metaData.baseMethods true none
    let metaProperties ← propertyList img policy metaData.baseProperties true
    pure (methods, metaProperties)
  | .ok none => pure ([], [])
  | .error e => do
    note ⟨some address, .image e⟩
    pure ([], [])

theorem metaclassPart_local (address : Nat) (record : ClassRecord) :
    Local (some true) (metaclassPart img policy address record) := by
  unfold metaclassPart
  split
  next =>
    refine Local.bind (methodList_local img policy _ _ _) fun ⟨methods, _⟩ => ?_
    exact Local.bind (propertyList_local img policy _ _).mono fun _ => Local.pure _
  next => exact Local.pure _
  next => exact Local.bind (Local.note _) fun _ => Local.pure _

/-- The class that the walk builds from a class record, each of its lists read from no notes; its
diagnostics are those of its lists, in the order in which they are read. -/
def classOfRecord (address : Nat) (record : ClassRecord) (data : ClassData) (name : String) :
    ObjcClass :=
  let instanceMethods := (methodList img policy data.baseMethods false none).run {}
  let protocols := (protocolRefsReading img policy data.baseProtocols).run {}
  let ivars := (ivarList img policy data.ivars).run {}
  let properties := (propertyList img policy data.baseProperties false).run {}
  let metaclass := (metaclassPart img policy address record).run {}
  { name, address, superclass := classRefOf img record.superclass data.isRoot,
    instanceStart := data.instanceStart, instanceSize := data.instanceSize, flags := data.flags,
    ivars := ivars.1, instanceMethods := instanceMethods.1.1, classMethods := metaclass.1.1,
    properties := properties.1 ++ metaclass.1.2, protocols := protocols.1,
    isSwift := record.isSwift, placeholder := false,
    diagnostics := instanceMethods.2.diagnostics ++ protocols.2.diagnostics ++
      ivars.2.diagnostics ++ properties.2.diagnostics ++ metaclass.2.diagnostics }

theorem classBody_appends (fuel address : Nat) (record : ClassRecord) (data : ClassData)
    (name : String) :
    ∃ k, Appends (NamesKnown img)
      (classBody img policy (protocolAt img policy (fuel + 1)) address record data name) {}
      (classOfRecord img policy address record data name) k := by
  unfold classBody
  econstructor
  apply Appends.lift_bind (classRef_triple img record.superclass data.isRoot)
  apply Appends.reading_bind (methodList_local img policy _ _ _)
  · simp
  dsimp -zeta only
  apply Appends.of_local_bind (protocolRefs_simulates img policy fuel _) (protocolRefsReading_local img policy _)
  · simp
  apply Appends.reading_bind (ivarList_local img policy _)
  · simp
  apply Appends.reading_bind (propertyList_local img policy _ _)
  · simp
  -- each branch on the metaclass goes on to the join point `jp`: the match is the metaclass part,
  -- read as one, then `jp`
  extract_lets jp
  apply Appends.of_eq (y := reading (metaclassPart img policy address record) >>= jp)
  · unfold metaclassPart
    rcases metaclassData img address record.isa with _ | (_ | _) <;> rfl
  apply Appends.reading_bind (metaclassPart_local img policy address record)
  · -- only the instance methods add selectors, and those are not of class methods
    refine fresh_append (fresh_append (fresh_append (fresh_append (by simp) ?_) ?_) ?_) ?_
    · exact Local.fresh_run (methodList_local img policy _ _ _) (by simp)
    · exact Local.fresh_run (protocolRefsReading_local img policy _) (by simp)
    · exact Local.fresh_run (ivarList_local img policy _) (by simp)
    · exact Local.fresh_run (propertyList_local img policy _ _) (by simp)
  dsimp only [jp]
  apply Appends.get_bind
  apply Appends.pure
  simp [classOfRecord, Notes.append]

def categoryClassProperties (record : CategoryRecord) : Reading (List Property) :=
  match record.classProperties with
  | some value => propertyList img policy value true
  | none => pure []

theorem categoryClassProperties_local (record : CategoryRecord) :
    Local none (categoryClassProperties img policy record) := by
  unfold categoryClassProperties
  split
  next => exact propertyList_local img policy _ _
  next => exact Local.pure _

def categoryOfRecord (address : Nat) (record : CategoryRecord) (name : String) : Category :=
  let instanceMethods := (methodList img policy record.instanceMethods false none).run {}
  let classMethods := (methodList img policy record.classMethods true none).run {}
  let protocols := (protocolRefsReading img policy record.protocols).run {}
  let instanceProperties := (propertyList img policy record.instanceProperties false).run {}
  let classProperties := (categoryClassProperties img policy record).run {}
  { name, address, extendedClass := classRefOf img record.cls false, protocols := protocols.1,
    instanceMethods := instanceMethods.1.1, classMethods := classMethods.1.1,
    properties := instanceProperties.1 ++ classProperties.1, placeholder := false,
    diagnostics := instanceMethods.2.diagnostics ++ classMethods.2.diagnostics ++
      protocols.2.diagnostics ++ instanceProperties.2.diagnostics ++ classProperties.2.diagnostics }

theorem categoryBody_appends (fuel address : Nat) (record : CategoryRecord) (name : String) :
    ∃ k, Appends (NamesKnown img)
      (categoryBody img policy (protocolAt img policy (fuel + 1)) address record name) {}
      (categoryOfRecord img policy address record name) k := by
  unfold categoryBody
  econstructor
  apply Appends.lift_bind (classRef_triple img record.cls false)
  apply Appends.reading_bind (methodList_local img policy _ _ _)
  · simp
  dsimp -zeta only
  apply Appends.reading_bind (methodList_local img policy _ _ _)
  · -- the instance methods' selectors are not those of class methods
    rw [Notes.empty_append]
    exact Local.fresh_run (methodList_local img policy _ false _) (by simp)
  apply Appends.of_local_bind (protocolRefs_simulates img policy fuel _)
    (protocolRefsReading_local img policy _)
  · simp
  apply Appends.reading_bind (propertyList_local img policy _ _)
  · simp
  -- as for classes, the match on the class properties goes on to a join point
  extract_lets jp
  apply Appends.of_eq (y := reading (categoryClassProperties img policy record) >>= jp)
  · unfold categoryClassProperties
    cases record.classProperties <;> rfl
  apply Appends.reading_bind (categoryClassProperties_local img policy record)
  · simp
  dsimp only [jp]
  apply Appends.get_bind
  apply Appends.pure
  simp [categoryOfRecord, Notes.append]

def classRead (address : Nat) : Except ImageError ObjcClass :=
  (classHead img address).map fun (record, data, name) =>
    classOfRecord img policy address record data name

def categoryRead (hasClassProperties : Bool) (address : Nat) : Except ImageError Category :=
  (do
    let record ← CategoryRecord.read img address hasClassProperties
    pure (record, ← img.readString record.name)).map fun (record, name) =>
      categoryOfRecord img policy address record name

theorem readClass_triple (fuel address : Nat) :
    Triple (NamesKnown img) (readClass img policy (protocolAt img policy (fuel + 1)) address)
      fun r s => r = classRead img policy address ∧ NamesKnown img s := by
  unfold readClass classRead
  cases head : classHead img address with
  | error e => exact Triple.pure fun s known => ⟨rfl, known⟩
  | ok parts =>
    obtain ⟨record, data, name⟩ := parts
    dsimp only
    refine Triple.bind (Triple.modify (Q := fun _ => NamesKnown img)
      fun s known => (stable_namesKnown img).nameClass s address record data name head known) fun _ => ?_
    obtain ⟨k, appends⟩ := classBody_appends img policy fuel address record data name
    refine Triple.bind (Appends.triple_run appends) fun r => Triple.pure fun s ⟨read, known⟩ => ⟨?_, known⟩
    rw [read]
    rfl

theorem readCategory_triple (fuel : Nat) (hasClassProperties : Bool) (address : Nat) :
    Triple (NamesKnown img)
      (readCategory img policy (protocolAt img policy (fuel + 1)) hasClassProperties address)
      fun r s => r = categoryRead img policy hasClassProperties address ∧ NamesKnown img s := by
  unfold readCategory categoryRead
  dsimp only
  split
  next e head => exact Triple.pure fun s known => ⟨by rw [head]; rfl, known⟩
  next record name head =>
    obtain ⟨k, appends⟩ := categoryBody_appends img policy fuel address record name
    refine Triple.bind (Appends.triple_run appends) fun r => Triple.pure fun s ⟨read, known⟩ => ⟨?_, known⟩
    rw [head, read]
    rfl

end Bodies

namespace EntityView

variable {E : Type} (v : EntityView E)

/-- The entity the walk keeps for a slot holding `value`, when the record at an address reads as
`read` gives it: what `FromSlot` describes, with the entity read and the reason made definite. -/
def entityFor (read : Nat → Except ImageError E) (slot : Nat) (value : Except ImageError SlotValue) :
    E :=
  match recordTarget slot value with
  | .ok address =>
    match read address with
    | .ok e => e
    | .error err => v.placeholderAt address ⟨some address, .invalidRecord address err.message⟩
  | .error reason => v.placeholderAt slot ⟨some slot, .invalidRecord slot reason⟩

theorem slotEntity_result {I : Walker → Prop} {walkRead : Nat → Walking (Except ImageError E)}
    {read : Nat → Except ImageError E}
    (reads : ∀ address, Triple I (walkRead address) fun r s => r = read address ∧ I s)
    (pushes : ∀ s d, I s → I { s with model := s.model.pushDiagnostic d }) (slot : Nat)
    (value : Except ImageError SlotValue) :
    Triple I (v.slotEntity walkRead slot value) fun e s => e = v.entityFor read slot value ∧ I s := by
  have invalidKeeps : ∀ address reason, Triple I (invalid address reason) fun d s =>
      d = ⟨some address, .invalidRecord address reason⟩ ∧ I s := fun address reason =>
    Triple.bind (Triple.modify (Q := fun _ => I) fun s hs => pushes s _ hs) fun _ =>
      Triple.pure fun _ hs => ⟨rfl, hs⟩
  unfold slotEntity entityFor
  cases recordTarget slot value with
  | ok address =>
    dsimp only
    refine Triple.bind (reads address) fun r => Triple.assume fun read => ?_
    rw [← read]
    cases r with
    | ok e => exact Triple.pure fun s hs => ⟨rfl, hs⟩
    | error err =>
      exact Triple.bind (invalidKeeps address err.message) fun d =>
        Triple.pure fun s ⟨same, hs⟩ => ⟨by rw [same], hs⟩
  | error reason =>
    exact Triple.bind (invalidKeeps slot reason) fun d =>
      Triple.pure fun s ⟨same, hs⟩ => ⟨by rw [same], hs⟩

end EntityView

section Steps

variable (img : MachImage) (policy : ListPolicy)

def classAt (slot : Nat) : ObjcClass :=
  classView.entityFor (classRead img policy) slot (img.readPointer slot)

def categoryAt (hasClassProperties : Bool) (slot : Nat) : Category :=
  categoryView.entityFor (categoryRead img policy hasClassProperties) slot (img.readPointer slot)

/-- The walk's model has these classes and categories, and the walk knows the names of classes and
protocols only as their records give them. -/
def Listing (cs : List ObjcClass) (ks : List Category) (s : Walker) : Prop :=
  (s.model.classes = cs ∧ s.model.categories = ks) ∧ NamesKnown img s

theorem Listing.pushDiagnostic {cs : List ObjcClass} {ks : List Category} {s : Walker} (d : Diagnostic)
    (listed : Listing img cs ks s) : Listing img cs ks { s with model := s.model.pushDiagnostic d } :=
  ⟨listed.1, ⟨listed.2.classes, listed.2.protocols⟩⟩

theorem Stable.and {I J : Walker → Prop} (first : Stable img I) (second : Stable img J) :
    Stable img fun s => I s ∧ J s :=
  ⟨fun s address record data name head h =>
      ⟨first.nameClass s address record data name head h.1,
        second.nameClass s address record data name head h.2⟩,
    fun s address record name read named h =>
      ⟨first.nameProtocol s address record name read named h.1,
        second.nameProtocol s address record name read named h.2⟩,
    fun s p h => ⟨first.addProtocol s p h.1, second.addProtocol s p h.2⟩⟩

theorem stable_listed (cs : List ObjcClass) (ks : List Category) :
    Stable img fun s => s.model.classes = cs ∧ s.model.categories = ks :=
  ⟨fun _ _ _ _ _ _ listed => listed, fun _ _ _ _ _ _ listed => listed, fun _ _ listed => listed⟩

theorem stable_listing (cs : List ObjcClass) (ks : List Category) : Stable img (Listing img cs ks) :=
  (stable_listed img cs ks).and img (stable_namesKnown img)

theorem walkProtocol_listing (fuel : Nat) (entry : Nat × Except ImageError SlotValue)
    (cs : List ObjcClass) (ks : List Category) :
    Preserves img (Listing img cs ks) (walkProtocol img policy fuel entry) :=
  walkProtocol_preserves (stable_listing img cs ks) policy (fun _ d => Listing.pushDiagnostic img d)
    fuel entry

theorem Triple.frame_listing {α : Type} {x : Walking α} {cs : List ObjcClass} {ks : List Category} {v : α}
    (kept : Preserves img (fun s => s.model.classes = cs ∧ s.model.categories = ks) x)
    (holds : Triple (NamesKnown img) x fun r s => r = v ∧ NamesKnown img s) :
    Triple (Listing img cs ks) x fun r s => r = v ∧ Listing img cs ks s := by
  rintro s ⟨listed, known⟩ r s' ran
  obtain ⟨same, known'⟩ := holds s known r s' ran
  exact ⟨same, (kept s listed).1 r s' ran, known'⟩

theorem walkClass_listing (fuel slot : Nat) (value : Except ImageError SlotValue) (cs : List ObjcClass)
    (ks : List Category) :
    Triple (Listing img cs ks) (walkClass img policy (fuel + 1) (slot, value)) fun _ =>
      Listing img (cs ++ [classView.entityFor (classRead img policy) slot value]) ks := by
  rw [walkClass_eq]
  have reads := fun address => Triple.frame_listing img
    (readClass_preserves (stable_listed img cs ks).nameClass policy
      (protocolAt_preserves (stable_listed img cs ks) policy (fuel + 1)) address)
    (readClass_triple img policy fuel address)
  refine Triple.bind (classView.slotEntity_result reads (fun _ d => Listing.pushDiagnostic img d) slot value)
    fun c => Triple.modify ?_
  rintro s ⟨rfl, ⟨classes, categories⟩, known⟩
  exact ⟨⟨by simp [ObjectModel.pushClass, classes], categories⟩, ⟨known.classes, known.protocols⟩⟩

theorem walkCategory_listing (fuel : Nat) (hasClassProperties : Bool) (slot : Nat)
    (value : Except ImageError SlotValue) (cs : List ObjcClass) (ks : List Category) :
    Triple (Listing img cs ks) (walkCategory img policy (fuel + 1) hasClassProperties (slot, value))
      fun _ => Listing img cs
        (ks ++ [categoryView.entityFor (categoryRead img policy hasClassProperties) slot value]) := by
  rw [walkCategory_eq]
  have reads := fun address => Triple.frame_listing img
    (readCategory_preserves (stable_listed img cs ks).nameClass policy
      (protocolAt_preserves (stable_listed img cs ks) policy (fuel + 1)) hasClassProperties address)
    (readCategory_triple img policy fuel hasClassProperties address)
  refine Triple.bind
    (categoryView.slotEntity_result reads (fun _ d => Listing.pushDiagnostic img d) slot value)
    fun k => Triple.modify ?_
  rintro s ⟨rfl, ⟨classes, categories⟩, known⟩
  exact ⟨⟨classes, by simp [ObjectModel.pushCategory, categories]⟩, ⟨known.classes, known.protocols⟩⟩

theorem walkClasses_listing (fuel : Nat) (slots : List Nat) (ks : List Category) :
    Triple (Listing img [] ks)
      ((slots.map fun slot => (slot, img.readPointer slot)).forM (walkClass img policy (fuel + 1)))
      fun _ => Listing img (slots.map (classAt img policy)) ks := by
  rw [List.forM_eq_forM, List.forM_map, ← List.forM_eq_forM]
  refine Triple.forM (fun done => Listing img (done.map (classAt img policy)) ks) fun done slot _ _ => ?_
  simpa [classAt] using walkClass_listing img policy fuel slot (img.readPointer slot)
    (done.map (classAt img policy)) ks

theorem walkCategories_listing (fuel : Nat) (hasClassProperties : Bool) (slots : List Nat)
    (cs : List ObjcClass) :
    Triple (Listing img cs [])
      ((slots.map fun slot => (slot, img.readPointer slot)).forM
        (walkCategory img policy (fuel + 1) hasClassProperties))
      fun _ => Listing img cs (slots.map (categoryAt img policy hasClassProperties)) := by
  rw [List.forM_eq_forM, List.forM_map, ← List.forM_eq_forM]
  refine Triple.forM (fun done => Listing img cs (done.map (categoryAt img policy hasClassProperties)))
    fun done slot _ _ => ?_
  simpa [categoryAt] using walkCategory_listing img policy fuel hasClassProperties slot
    (img.readPointer slot) cs (done.map (categoryAt img policy hasClassProperties))

end Steps

theorem listing_initial (img : MachImage) : Listing img [] [] { model := initialModel img } := by
  obtain ⟨noClasses, noCategories, _⟩ := initialModel_fresh img
  exact ⟨⟨noClasses, noCategories⟩, ⟨fun _ _ named => by simp at named, fun _ _ named => by simp at named⟩⟩

end Metadata

open Metadata in
theorem walk_entities_eq {img : MachImage} {policy : ListPolicy} {m : ObjectModel}
    (walked : walk img policy = .ok (.ok m)) :
    m.classes = (listSlots img "__objc_classlist").map (classAt img policy) ∧
      m.categories = (listSlots img "__objc_catlist").map
        (categoryAt img policy ((initialModel img).imageInfo.any (·.hasCategoryClassProperties))) := by
  unfold walk at walked
  split at walked
  next => cases walked
  next protocols classes categories listed =>
    obtain ⟨protocolsListed, classesListed, categoriesListed⟩ := topLists_eq_ok listed
    rw [pointerList_eq_ok protocolsListed, pointerList_eq_ok classesListed,
      pointerList_eq_ok categoriesListed] at walked
    dsimp only at walked
    generalize ranEq : StateT.run _ _ = ran at walked
    cases ran with
    | error f => cases walked
    | ok result =>
      obtain ⟨_, s⟩ := result
      simp only [Except.map, Except.ok.injEq] at walked
      subst walked
      -- the protocols keep the listing empty; the classes, then the categories, fill it
      obtain ⟨_, s₁, protocolsRan, rest⟩ := run_bind_eq_ok ranEq
      obtain ⟨_, s₂, classesRan, categoriesRan⟩ := run_bind_eq_ok rest
      have listed₁ := ((Preserves.forM fun entry _ => walkProtocol_listing img policy _ entry [] []) _
        (listing_initial img)).1 _ s₁ protocolsRan
      have listed₂ := walkClasses_listing img policy _ _ [] s₁ listed₁ _ s₂ classesRan
      obtain ⟨⟨classes, categories⟩, _⟩ :=
        walkCategories_listing img policy _ _ _ _ s₂ listed₂ _ s categoriesRan
      exact ⟨classes, categories⟩

end ObjcImage
