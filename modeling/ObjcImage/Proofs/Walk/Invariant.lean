import Mathlib
import ObjcImage.Runtime.Walk

set_option autoImplicit false

/-!
What reading records keeps of the walk's state. A read names a class, names a protocol, or adds a
protocol to the model, and can fault only as a protocol record does.
-/

namespace ObjcImage

namespace Metadata

section Logic

variable (img : MachImage)

def RecordFault (f : AddressFault) : Prop :=
  ∃ address, ProtocolRecord.read img address = .error f

/-- Run from a state where `I` holds, `x` ends in a state where `I` holds, or faults as reading a
protocol record does. -/
def Preserves {α : Type} (I : Walker → Prop) (x : Walking α) : Prop :=
  ∀ s, I s → (∀ a s', x.run s = .ok (a, s') → I s') ∧ ∀ f, x.run s = .error f → RecordFault img f

def EPreserves {α : Type} (I : Walker → Prop) (x : EntityReading α) : Prop :=
  ∀ n, Preserves img I (x.run n)

def Yields {α : Type} (V : α → Prop) (x : Walking α) : Prop :=
  ∀ s a s', x.run s = .ok (a, s') → V a

def EYields {α : Type} (V : α → Prop) (x : EntityReading α) : Prop :=
  ∀ n, Yields (fun r => V r.1) (x.run n)

end Logic

section Rules

variable {img : MachImage} {I : Walker → Prop} {α β : Type}

theorem Preserves.pure (a : α) : Preserves img I (Pure.pure a) := by
  intro s hs
  exact ⟨(fun _ _ ran => by cases ran; exact hs), fun _ ran => by cases ran⟩

theorem Preserves.bind_of {V : α → Prop} {x : Walking α} {f : α → Walking β}
    (first : Preserves img I x) (value : Yields V x) (rest : ∀ a, V a → Preserves img I (f a)) :
    Preserves img I (x >>= f) := by
  intro s hs
  obtain ⟨kept, faults⟩ := first s hs
  rw [StateT.run_bind]
  cases ran : x.run s with
  | error f' =>
    refine ⟨(fun _ _ h => by cases h), fun f h => ?_⟩
    cases h
    exact faults _ ran
  | ok p => exact rest p.1 (value s p.1 p.2 ran) p.2 (kept p.1 p.2 ran)

theorem Preserves.bind {x : Walking α} {f : α → Walking β} (first : Preserves img I x)
    (rest : ∀ a, Preserves img I (f a)) : Preserves img I (x >>= f) :=
  Preserves.bind_of (V := fun _ => True) first (fun _ _ _ _ => trivial) fun a _ => rest a

theorem Preserves.pure_bind {a : α} {f : α → Walking β} (rest : Preserves img I (f a)) :
    Preserves img I (Pure.pure a >>= f) := rest

theorem Preserves.get {f : Walker → Walking α} (rest : ∀ s, Preserves img I (f s)) :
    Preserves img I (MonadState.get >>= f) :=
  Preserves.bind (fun s hs => ⟨(fun _ _ ran => by cases ran; exact hs), fun _ ran => by cases ran⟩) rest

theorem Preserves.modify {g : Walker → Walker} (keeps : ∀ s, I s → I (g s)) :
    Preserves img I (modify g) := by
  intro s hs
  exact ⟨(fun _ _ ran => by cases ran; exact keeps s hs), fun _ ran => by cases ran⟩

theorem Preserves.bindRead {address : Nat} {f : Except ImageError ProtocolRecord → Walking α}
    (rest : ∀ r, ProtocolRecord.read img address = .ok r → Preserves img I (f r)) :
    Preserves img I (monadLift (ProtocolRecord.read img address) >>= f) := by
  intro s hs
  cases read : ProtocolRecord.read img address with
  | error fault =>
    have ran : (monadLift (Except.error fault : Except AddressFault _) >>= f : Walking α).run s =
        .error fault := rfl
    rw [ran]
    exact ⟨(fun _ _ h => by cases h), fun f h => by cases h; exact ⟨address, read⟩⟩
  | ok r =>
    have ran : (monadLift (Except.ok r : Except AddressFault _) >>= f : Walking α).run s =
        (f r).run s := rfl
    rw [ran]
    exact rest r read s hs

theorem Preserves.forM {l : List α} {f : α → Walking PUnit} (each : ∀ a ∈ l, Preserves img I (f a)) :
    Preserves img I (l.forM f) := by
  induction l with
  | nil => exact Preserves.pure _
  | cons a l ih =>
    exact Preserves.bind (each a List.mem_cons_self) fun _ =>
      ih fun b mem => each b (List.mem_cons_of_mem a mem)

theorem EPreserves.pure (a : α) : EPreserves img I (Pure.pure a) := fun n => by
  have done : Preserves img I (Pure.pure (a, n)) := Preserves.pure (a, n)
  simpa using done

theorem EPreserves.bind {x : EntityReading α} {f : α → EntityReading β}
    (first : EPreserves img I x) (rest : ∀ a, EPreserves img I (f a)) :
    EPreserves img I (x >>= f) := fun n => by
  rw [StateT.run_bind]
  exact Preserves.bind (first n) fun p => rest p.1 p.2

theorem EPreserves.lift {x : Walking α} (step : Preserves img I x) :
    EPreserves img I (StateT.lift x) := fun n => by
  rw [StateT.run_lift]
  exact Preserves.bind step fun a => Preserves.pure (a, n)

theorem EPreserves.reading {r : Reading α} : EPreserves img I (Metadata.reading r) :=
  fun n => Preserves.pure (r.run n)

theorem EPreserves.note {d : Diagnostic} : EPreserves img I (note d : EntityReading Unit) :=
  fun n => Preserves.pure ((), { n with diagnostics := n.diagnostics ++ [d] })

theorem EPreserves.get {f : Notes → EntityReading α} (rest : ∀ n, EPreserves img I (f n)) :
    EPreserves img I (MonadState.get >>= f) :=
  EPreserves.bind (fun n => Preserves.pure (n, n)) rest

theorem EPreserves.filterMapM {l : List α} {f : α → EntityReading (Option β)}
    (each : ∀ a, EPreserves img I (f a)) : EPreserves img I (l.filterMapM f) := by
  induction l with
  | nil => exact EPreserves.pure []
  | cons a l ih =>
    rw [List.filterMapM_cons]
    refine EPreserves.bind (each a) fun b? => ?_
    cases b? with
    | none => exact ih
    | some b => exact EPreserves.bind ih fun bs => EPreserves.pure (b :: bs)

theorem Yields.pure {V : α → Prop} {a : α} (holds : V a) : Yields V (Pure.pure a : Walking α) := by
  intro s b s' ran
  cases ran
  exact holds

theorem run_bind_eq_ok {x : Walking α} {f : α → Walking β} {s s' : Walker} {b : β}
    (ran : (x >>= f).run s = .ok (b, s')) :
    ∃ a s₁, x.run s = .ok (a, s₁) ∧ (f a).run s₁ = .ok (b, s') := by
  rw [StateT.run_bind] at ran
  cases ran₁ : x.run s with
  | error e => simp [ran₁] at ran; cases ran
  | ok p => rw [ran₁] at ran; exact ⟨p.1, p.2, rfl, ran⟩

theorem Yields.bind_of {W : α → Prop} {V : β → Prop} {x : Walking α} {f : α → Walking β}
    (first : Yields W x) (rest : ∀ a, W a → Yields V (f a)) : Yields V (x >>= f) := by
  intro s b s' ran
  obtain ⟨a, s₁, ran₁, ran₂⟩ := run_bind_eq_ok ran
  exact rest a (first s a s₁ ran₁) s₁ b s' ran₂

theorem Yields.bind {V : β → Prop} {x : Walking α} {f : α → Walking β}
    (rest : ∀ a, Yields V (f a)) : Yields V (x >>= f) :=
  Yields.bind_of (W := fun _ => True) (fun _ _ _ _ => trivial) fun a _ => rest a

theorem EYields.pure {V : α → Prop} {a : α} (holds : V a) : EYields V (Pure.pure a : EntityReading α) :=
  fun n => by simpa using Yields.pure (V := fun r : α × Notes => V r.1) (a := (a, n)) holds

theorem EYields.bind {V : β → Prop} {x : EntityReading α} {f : α → EntityReading β}
    (rest : ∀ a, EYields V (f a)) : EYields V (x >>= f) := fun n => by
  rw [StateT.run_bind]
  exact Yields.bind fun p => rest p.1 p.2

/-- Run from a state where `P` holds, `x` ends, unless it faults, in a state where `Q` holds of
its result. -/
def Triple (P : Walker → Prop) (x : Walking α) (Q : α → Walker → Prop) : Prop :=
  ∀ s, P s → ∀ a s', x.run s = .ok (a, s') → Q a s'

theorem Triple.pure {P : Walker → Prop} {Q : α → Walker → Prop} {a : α} (holds : ∀ s, P s → Q a s) :
    Triple P (Pure.pure a) Q := by
  intro s hs b s' ran
  cases ran
  exact holds s hs

theorem Triple.bind {P : Walker → Prop} {R : α → Walker → Prop} {Q : β → Walker → Prop}
    {x : Walking α} {f : α → Walking β} (first : Triple P x R) (rest : ∀ a, Triple (R a) (f a) Q) :
    Triple P (x >>= f) Q := by
  intro s hs b s' ran
  obtain ⟨a, s₁, ran₁, ran₂⟩ := run_bind_eq_ok ran
  exact rest a s₁ (first s hs a s₁ ran₁) b s' ran₂

theorem Triple.pure_bind {P : Walker → Prop} {Q : β → Walker → Prop} {a : α} {f : α → Walking β}
    (rest : Triple P (f a) Q) : Triple P (Pure.pure a >>= f) Q := rest

theorem Triple.get {P : Walker → Prop} {Q : α → Walker → Prop} {f : Walker → Walking α}
    (rest : ∀ s, P s → Triple P (f s) Q) : Triple P (MonadState.get >>= f) Q :=
  fun s hs a s' ran => rest s hs s hs a s' ran

theorem Triple.bindRead {P : Walker → Prop} {Q : α → Walker → Prop} {address : Nat}
    {f : Except ImageError ProtocolRecord → Walking α}
    (rest : ∀ r, ProtocolRecord.read img address = .ok r → Triple P (f r) Q) :
    Triple P (monadLift (ProtocolRecord.read img address) >>= f) Q := by
  intro s hs a s' ran
  cases read : ProtocolRecord.read img address with
  | error fault =>
    have faults : (monadLift (Except.error fault : Except AddressFault _) >>= f : Walking α).run s =
        .error fault := rfl
    rw [read, faults] at ran
    cases ran
  | ok r =>
    have goes : (monadLift (Except.ok r : Except AddressFault _) >>= f : Walking α).run s =
        (f r).run s := rfl
    rw [read, goes] at ran
    exact rest r read s hs a s' ran

theorem Triple.modify {P : Walker → Prop} {Q : Unit → Walker → Prop} {g : Walker → Walker}
    (holds : ∀ s, P s → Q () (g s)) : Triple P (modify g) Q := by
  intro s hs b s' ran
  cases ran
  exact holds s hs

theorem Triple.weaken {P P' : Walker → Prop} {Q Q' : α → Walker → Prop} {x : Walking α}
    (pre : ∀ s, P' s → P s) (post : ∀ a s, Q a s → Q' a s) (holds : Triple P x Q) : Triple P' x Q' :=
  fun s hs a s' ran => post a s' (holds s (pre s hs) a s' ran)

theorem Triple.of_preserves {V : α → Prop} {x : Walking α} (kept : Preserves img I x)
    (value : Yields V x) : Triple I x fun a s => I s ∧ V a :=
  fun s hs a s' ran => ⟨(kept s hs).1 a s' ran, value s a s' ran⟩

theorem Preserves.triple {x : Walking α} (kept : Preserves img I x) : Triple I x fun _ => I :=
  fun s hs a s' ran => (kept s hs).1 a s' ran

theorem Triple.forM {l : List α} {f : α → Walking PUnit} (inv : List α → Walker → Prop)
    (each : ∀ pre a post, l = pre ++ a :: post → Triple (inv pre) (f a) fun _ => inv (pre ++ [a])) :
    Triple (inv []) (l.forM f) fun _ => inv l := by
  -- the loop is run from any point `done` of the list, with what is left
  suffices fromHere : ∀ left done, l = done ++ left →
      Triple (inv done) (left.forM f) fun _ => inv l by
    simpa using fromHere l [] rfl
  intro left
  induction left with
  | nil =>
    intro done split
    exact Triple.pure fun s hs => by simpa [split] using hs
  | cons a left ih =>
    intro done split
    exact Triple.bind (each done a left split) fun _ => ih (done ++ [a]) (by simp [split])

theorem Triple.forM_push {l : List α} {f : α → Walking PUnit} (R : α → β → Prop)
    (shows : List β → Walker → Prop)
    (each : ∀ a ∈ l, ∀ bs, Triple (shows bs) (f a) fun _ s => ∃ b, R a b ∧ shows (bs ++ [b]) s) :
    Triple (shows []) (l.forM f) fun _ s => ∃ bs, List.Forall₂ R l bs ∧ shows bs s := by
  have loop := Triple.forM (l := l) (f := f) (fun done s => ∃ bs, List.Forall₂ R done bs ∧ shows bs s)
    fun done a left split => by
      rintro s ⟨bs, related, shown⟩ u s' ran
      obtain ⟨b, rel, pushed⟩ := each a (by rw [split]; simp) bs s shown u s' ran
      exact ⟨bs ++ [b], List.rel_append related (List.Forall₂.cons rel .nil), pushed⟩
  exact fun s shown => loop s ⟨[], .nil, shown⟩

end Rules

section Reads

variable (img : MachImage)

/-- A property of walk states that every read of a record keeps: naming the class at an address
as its record says, naming the protocol at an address as its record says, and adding a protocol
to the model. -/
structure Stable (I : Walker → Prop) : Prop where
  nameClass : ∀ s address record data name, classHead img address = .ok (record, data, name) →
    I s → I { s with classNames := s.classNames.insert address name }
  nameProtocol : ∀ s address record name, ProtocolRecord.read img address = .ok (.ok record) →
    img.readString record.name = .ok name → I s →
      I { s with protocolNames := s.protocolNames.insert address name }
  addProtocol : ∀ s p, I s → I { s with model := s.model.addProtocol p }

def KeepsClassNames (I : Walker → Prop) : Prop :=
  ∀ s address record data name, classHead img address = .ok (record, data, name) →
    I s → I { s with classNames := s.classNames.insert address name }

variable {img} {I : Walker → Prop}

section Classes

variable (names : KeepsClassNames img I) (policy : ListPolicy)
include names

theorem classNameAt_preserves (address : Nat) : Preserves img I (classNameAt img address) := by
  unfold classNameAt
  refine Preserves.get fun s => ?_
  split
  next => exact Preserves.pure _
  next =>
    split
    next record data name head =>
      exact Preserves.bind (Preserves.modify fun s => names s address record data name head)
        fun _ => Preserves.pure _
    next => exact Preserves.pure _

theorem classRef_preserves (value : SlotValue) (isRoot : Bool) :
    Preserves img I (classRef img value isRoot) := by
  unfold classRef
  split
  next => exact Preserves.bind (classNameAt_preserves names _) fun r => by split <;> exact Preserves.pure _
  next => exact Preserves.pure _
  next => exact Preserves.pure _

section Resolver

variable {resolve : Nat → Walking (Except ImageError String)}
  (resolves : ∀ address, Preserves img I (resolve address))
include resolves

omit names in
theorem protocolRefs_preserves (value : SlotValue) :
    EPreserves img I (protocolRefs img policy resolve value) := by
  unfold protocolRefs
  refine EPreserves.bind EPreserves.reading fun list? => ?_
  split
  next list =>
    split
    next => exact EPreserves.bind EPreserves.note fun _ => EPreserves.pure _
    next =>
      refine EPreserves.bind EPreserves.reading fun entries => EPreserves.filterMapM fun entry => ?_
      split
      next address _ =>
        refine EPreserves.bind (EPreserves.lift (resolves address)) fun r => ?_
        split
        next => exact EPreserves.pure _
        next => exact EPreserves.bind EPreserves.note fun _ => EPreserves.pure _
      next => exact EPreserves.pure _
      next => exact EPreserves.pure _
      next => exact EPreserves.bind EPreserves.note fun _ => EPreserves.pure _
  next => exact EPreserves.pure _

omit names in
theorem protocolBody_preserves (address : Nat) (record : ProtocolRecord) (name : String) :
    EPreserves img I (protocolBody img policy resolve address record name) := by
  unfold protocolBody
  refine EPreserves.bind (protocolRefs_preserves policy resolves _) fun _ => ?_
  refine EPreserves.bind EPreserves.reading fun _ => ?_
  refine EPreserves.bind EPreserves.reading fun _ => ?_
  -- the class properties, when the record has them, join the instance properties
  dsimp only
  split
  next => exact EPreserves.bind EPreserves.reading fun _ => EPreserves.get fun _ => EPreserves.pure _
  next => exact EPreserves.bind (EPreserves.pure _) fun _ => EPreserves.get fun _ => EPreserves.pure _

theorem classBody_preserves (address : Nat) (record : ClassRecord) (data : ClassData)
    (name : String) : EPreserves img I (classBody img policy resolve address record data name) := by
  unfold classBody
  refine EPreserves.bind (EPreserves.lift (classRef_preserves names _ _)) fun _ => ?_
  refine EPreserves.bind EPreserves.reading fun _ => ?_
  refine EPreserves.bind (protocolRefs_preserves policy resolves _) fun _ => ?_
  refine EPreserves.bind EPreserves.reading fun _ => ?_
  refine EPreserves.bind EPreserves.reading fun _ => ?_
  -- the metaclass gives the class methods and class properties, when it can be read
  dsimp only
  split
  next =>
    refine EPreserves.bind EPreserves.reading fun _ => EPreserves.bind EPreserves.reading fun _ => ?_
    exact EPreserves.bind (EPreserves.pure _) fun _ => EPreserves.get fun _ => EPreserves.pure _
  next => exact EPreserves.bind (EPreserves.pure _) fun _ => EPreserves.get fun _ => EPreserves.pure _
  next =>
    refine EPreserves.bind EPreserves.note fun _ => ?_
    exact EPreserves.bind (EPreserves.pure _) fun _ => EPreserves.get fun _ => EPreserves.pure _

theorem readClass_preserves (address : Nat) :
    Preserves img I (readClass img policy resolve address) := by
  unfold readClass
  split
  next => exact Preserves.pure _
  next record data name head =>
    refine Preserves.bind (Preserves.modify fun s => names s address record data name head)
      fun _ => ?_
    exact Preserves.bind (classBody_preserves names policy resolves address record data name {})
      fun _ => Preserves.pure _

theorem categoryBody_preserves (address : Nat) (record : CategoryRecord) (name : String) :
    EPreserves img I (categoryBody img policy resolve address record name) := by
  unfold categoryBody
  refine EPreserves.bind (EPreserves.lift (classRef_preserves names _ _)) fun _ => ?_
  refine EPreserves.bind EPreserves.reading fun _ => ?_
  refine EPreserves.bind EPreserves.reading fun _ => ?_
  refine EPreserves.bind (protocolRefs_preserves policy resolves _) fun _ => ?_
  refine EPreserves.bind EPreserves.reading fun _ => ?_
  dsimp only
  split
  next => exact EPreserves.bind EPreserves.reading fun _ => EPreserves.get fun _ => EPreserves.pure _
  next => exact EPreserves.bind (EPreserves.pure _) fun _ => EPreserves.get fun _ => EPreserves.pure _

theorem readCategory_preserves (hasClassProperties : Bool) (address : Nat) :
    Preserves img I (readCategory img policy resolve hasClassProperties address) := by
  unfold readCategory
  dsimp only
  split
  next => exact Preserves.pure _
  next =>
    exact Preserves.bind (categoryBody_preserves names policy resolves address _ _ {})
      fun _ => Preserves.pure _

end Resolver

end Classes

theorem protocolHead_eq_ok {record? : Except ImageError ProtocolRecord} {record : ProtocolRecord}
    {name : String}
    (head : (do let record ← record?; pure (record, ← img.readString record.name) :
      Except ImageError (ProtocolRecord × String)) = .ok (record, name)) :
    record? = .ok record ∧ img.readString record.name = .ok name := by
  cases record? with
  | error e => cases head
  | ok r =>
    cases readName : img.readString r.name with
    | error e => simp [readName, bind, Except.bind] at head
    | ok n =>
      simp only [readName, bind, Except.bind, pure, Except.pure, Except.ok.injEq,
        Prod.mk.injEq] at head
      obtain ⟨rfl, rfl⟩ := head
      exact ⟨rfl, readName⟩

theorem protocolAt_preserves_of {V : Nat → ProtocolRecord → Protocol → Prop} (policy : ListPolicy)
    (names : ∀ s address record name, ProtocolRecord.read img address = .ok (.ok record) →
      img.readString record.name = .ok name → I s →
        I { s with protocolNames := s.protocolNames.insert address name })
    (adds : ∀ s address record p, ProtocolRecord.read img address = .ok (.ok record) →
      V address record p → I s → I { s with model := s.model.addProtocol p })
    (body : ∀ resolve address record name, Yields (fun r : Protocol × Notes => V address record r.1)
      ((protocolBody img policy resolve address record name).run {})) :
    ∀ fuel address, Preserves img I (protocolAt img policy fuel address)
  | 0, address => by
    rw [protocolAt]
    exact Preserves.get fun _ => Preserves.pure _
  | fuel + 1, address => by
    rw [protocolAt]
    refine Preserves.get fun s => ?_
    split
    next => exact Preserves.pure _
    next =>
      refine Preserves.bindRead fun record? read => ?_
      dsimp only
      split
      next => exact Preserves.pure _
      next record name head =>
        have named := protocolHead_eq_ok head
        have recorded : ProtocolRecord.read img address = .ok (.ok record) := named.1 ▸ read
        -- the name is kept for the address before the protocols it adopts are read
        refine Preserves.bind (Preserves.modify fun s => names s address record name recorded named.2)
          fun _ => ?_
        refine Preserves.bind_of (protocolBody_preserves policy
          (protocolAt_preserves_of policy names adds body fuel) address record name {})
          (body _ address record name) fun read yielded => ?_
        obtain ⟨p, _⟩ := read
        exact Preserves.bind (Preserves.modify fun s => adds s address record p recorded yielded)
          fun _ => Preserves.pure _

variable (stable : Stable img I) (policy : ListPolicy)
include stable

theorem protocolAt_preserves : ∀ fuel address, Preserves img I (protocolAt img policy fuel address) :=
  protocolAt_preserves_of (V := fun _ _ _ => True) policy stable.nameProtocol
    (fun s _ _ p _ _ => stable.addProtocol s p) fun _ _ _ _ _ _ _ _ => trivial

omit stable in
theorem invalid_preserves (pushes : ∀ s d, I s → I { s with model := s.model.pushDiagnostic d })
    (address : Nat) (reason : String) : Preserves img I (invalid address reason) :=
  Preserves.bind (Preserves.modify fun s => pushes s _) fun _ => Preserves.pure _

omit stable in
theorem walkProtocol_preserves_of {fuel : Nat}
    (protocols : ∀ address, Preserves img I (protocolAt img policy fuel address))
    (placeholders : ∀ s slot d, I s → I { s with model := s.model.addProtocol (Protocol.placeholderAt slot d) })
    (pushes : ∀ s d, I s → I { s with model := s.model.pushDiagnostic d })
    (entry : Nat × Except ImageError SlotValue) :
    Preserves img I (walkProtocol img policy fuel entry) := by
  obtain ⟨slot, value⟩ := entry
  unfold walkProtocol
  dsimp only
  -- a slot that leads to no protocol is recorded as a placeholder, with its diagnostic
  have recorded : ∀ reason, Preserves img I (do
      let d ← invalid slot reason
      modify fun s => { s with model := s.model.addProtocol (Protocol.placeholderAt slot d) }) :=
    fun _ => Preserves.bind (invalid_preserves pushes _ _) fun _ =>
      Preserves.modify fun s => placeholders s slot _
  split
  next => exact Preserves.pure_bind (recorded _)
  next =>
    refine Preserves.bind (protocols _) fun _ => ?_
    split
    next => exact Preserves.pure_bind (Preserves.pure _)
    next => exact Preserves.pure_bind (recorded _)

theorem walkProtocol_preserves
    (pushes : ∀ s d, I s → I { s with model := s.model.pushDiagnostic d }) (fuel : Nat)
    (entry : Nat × Except ImageError SlotValue) :
    Preserves img I (walkProtocol img policy fuel entry) :=
  walkProtocol_preserves_of policy (protocolAt_preserves stable policy fuel)
    (fun s _ _ => stable.addProtocol s _) pushes entry

end Reads

section Entities

variable {img : MachImage} {I : Walker → Prop} (policy : ListPolicy) {fuel : Nat}
  (names : KeepsClassNames img I)
  (protocols : ∀ address, Preserves img I (protocolAt img policy fuel address))
  (pushes : ∀ s d, I s → I { s with model := s.model.pushDiagnostic d })
include names protocols pushes

theorem walkClass_preserves (pushesClass : ∀ s c, I s → I { s with model := s.model.pushClass c })
    (entry : Nat × Except ImageError SlotValue) :
    Preserves img I (walkClass img policy fuel entry) := by
  obtain ⟨slot, value⟩ := entry
  unfold walkClass
  dsimp only
  have push : ∀ c : ObjcClass, Preserves img I (modify fun s => { s with model := s.model.pushClass c }) :=
    fun c => Preserves.modify fun s => pushesClass s c
  -- a class that cannot be read is kept as a placeholder, with its diagnostic
  split
  next =>
    refine Preserves.bind (readClass_preserves names policy protocols _) fun r => ?_
    split
    next => exact Preserves.bind (Preserves.pure _) push
    next => exact Preserves.bind (invalid_preserves pushes _ _) fun _ => Preserves.bind (Preserves.pure _) push
  next => exact Preserves.bind (invalid_preserves pushes _ _) fun _ => Preserves.bind (Preserves.pure _) push

theorem walkCategory_preserves
    (pushesCategory : ∀ s c, I s → I { s with model := s.model.pushCategory c })
    (hasClassProperties : Bool) (entry : Nat × Except ImageError SlotValue) :
    Preserves img I (walkCategory img policy fuel hasClassProperties entry) := by
  obtain ⟨slot, value⟩ := entry
  unfold walkCategory
  dsimp only
  have push : ∀ c : Category, Preserves img I (modify fun s => { s with model := s.model.pushCategory c }) :=
    fun c => Preserves.modify fun s => pushesCategory s c
  split
  next =>
    refine Preserves.bind (readCategory_preserves names policy protocols _ _) fun r => ?_
    split
    next => exact Preserves.bind (Preserves.pure _) push
    next => exact Preserves.bind (invalid_preserves pushes _ _) fun _ => Preserves.bind (Preserves.pure _) push
  next => exact Preserves.bind (invalid_preserves pushes _ _) fun _ => Preserves.bind (Preserves.pure _) push

theorem walkSteps_preserves
    (placeholders : ∀ s slot d, I s → I { s with model := s.model.addProtocol (Protocol.placeholderAt slot d) })
    (pushesClass : ∀ s c, I s → I { s with model := s.model.pushClass c })
    (pushesCategory : ∀ s c, I s → I { s with model := s.model.pushCategory c })
    (protocolSlots classSlots categorySlots : List (Nat × Except ImageError SlotValue))
    (hasClassProperties : Bool) :
    Preserves img I (do
      protocolSlots.forM (walkProtocol img policy fuel)
      classSlots.forM (walkClass img policy fuel)
      categorySlots.forM (walkCategory img policy fuel hasClassProperties)) :=
  Preserves.bind (Preserves.forM fun _ _ =>
      walkProtocol_preserves_of policy protocols placeholders pushes _) fun _ =>
    Preserves.bind (Preserves.forM fun _ _ =>
        walkClass_preserves policy names protocols pushes pushesClass _) fun _ =>
      Preserves.forM fun _ _ => walkCategory_preserves policy names protocols pushes pushesCategory _ _

end Entities

end Metadata

end ObjcImage
