import Mathlib
import ObjcImage.Proofs.Walk.Adoption

set_option autoImplicit false

/-!
The protocol records the whole walk reads: each at most once, none cached when the walk began.
Runs are compared by the protocol cache they end with only.
-/

namespace ObjcImage

namespace Metadata

section Cache

variable {α β γ : Type}

/-- Running `x` leaves the protocol cache as running `y` does, or faults as it does, from any
state. -/
def SameCache (x : Walking α) (y : Walking β) : Prop :=
  ∀ s, (x.run s).map (·.2.protocolNames) = (y.run s).map (·.2.protocolNames)

/-- What `x` does to the protocol cache depends on the cache alone. -/
def CacheOnly (x : Walking α) : Prop :=
  ∀ s t, s.protocolNames = t.protocolNames →
    (x.run s).map (·.2.protocolNames) = (x.run t).map (·.2.protocolNames)

section Runs

variable {ε σ τ ρ : Type} {f : σ → ρ} {g : τ → ρ} {u : Except ε σ} {v : Except ε τ}

theorem Except.eq_error_of_map_eq (same : u.map f = v.map g) {e : ε} (ran : u = .error e) :
    v = .error e := by
  subst ran
  cases v with
  | error e' => exact (Except.error.inj same).symm ▸ rfl
  | ok b => cases same

theorem Except.exists_ok_of_map_eq (same : u.map f = v.map g) {a : σ} (ran : u = .ok a) :
    ∃ b, v = .ok b ∧ f a = g b := by
  subst ran
  cases v with
  | error e => cases same
  | ok b => exact ⟨b, rfl, Except.ok.inj same⟩

theorem Except.map_map {π : Type} (h : ρ → π) (w : Except ε τ) {g : τ → ρ} :
    (w.map g).map h = w.map (h ∘ g) :=
  Functor.map_map g h w

theorem Except.map_comp_of_map_eq {π : Type} (h : ρ → π) (same : u.map f = v.map g) :
    u.map (h ∘ f) = v.map (h ∘ g) := by
  cases ran : u with
  | error e => rw [Except.eq_error_of_map_eq same ran]; rfl
  | ok a =>
    obtain ⟨b, ran', agree⟩ := Except.exists_ok_of_map_eq same ran
    rw [ran']
    exact congrArg (Except.ok ∘ h) agree

end Runs

theorem SameCache.bind {x : Walking α} {f : α → Walking β} {c d : Walking Unit}
    (first : SameCache x c) (rest : ∀ a, SameCache (f a) d) (only : CacheOnly d) :
    SameCache (x >>= f) (c >>= fun _ => d) := by
  intro s
  rw [StateT.run_bind, StateT.run_bind]
  -- both first steps fault alike, or both end with the same cache
  cases ran : x.run s with
  | error e => rw [Except.eq_error_of_map_eq (first s) ran]; rfl
  | ok p =>
    obtain ⟨q, ran', same⟩ := Except.exists_ok_of_map_eq (first s) ran
    rw [ran']
    exact (rest p.1 p.2).trans (only p.2 q.2 same)

theorem SameCache.refl (x : Walking α) : SameCache x x := fun _ => rfl

theorem SameCache.symm {x : Walking α} {y : Walking β} (h : SameCache x y) : SameCache y x :=
  fun s => (h s).symm

theorem SameCache.keeps_bind {x : Walking α} {f : α → Walking β} {d : Walking Unit}
    (first : SameCache x (Pure.pure () : Walking Unit)) (rest : ∀ a, SameCache (f a) d)
    (only : CacheOnly d) : SameCache (x >>= f) d :=
  SameCache.bind first rest only

theorem SameCache.bind_keeps {x : Walking α} {f : α → Walking β} {c : Walking γ}
    (first : SameCache x c) (rest : ∀ a, SameCache (f a) (Pure.pure () : Walking Unit)) :
    SameCache (x >>= f) c := by
  intro s
  rw [StateT.run_bind]
  cases ran : x.run s with
  | error e => rw [Except.eq_error_of_map_eq (first s) ran]; rfl
  | ok p =>
    obtain ⟨q, ran', same⟩ := Except.exists_ok_of_map_eq (first s) ran
    rw [ran']
    exact (rest p.1 p.2).trans (congrArg Except.ok same)

theorem SameCache.modify {g : Walker → Walker} (keeps : ∀ s, (g s).protocolNames = s.protocolNames) :
    SameCache (modify g) (pure () : Walking Unit) :=
  fun s => congrArg Except.ok (keeps s)

theorem SameCache.pure (a : α) : SameCache (Pure.pure a : Walking α) (Pure.pure () : Walking Unit) :=
  fun _ => rfl

theorem SameCache.except {ε ρ : Type} {k : Except ε ρ → Walking α} {y : Walking β}
    (error : ∀ e, SameCache (k (.error e)) y) (ok : ∀ r, SameCache (k (.ok r)) y) :
    ∀ r, SameCache (k r) y
  | .error e => error e
  | .ok r => ok r

theorem SameCache.lift {x : Walking α} {c : Walking Unit} (h : SameCache x c) (n : Notes) :
    SameCache ((liftM x : EntityReading α).run n) c := by
  show SameCache (x >>= fun a => Pure.pure (a, n)) c
  exact SameCache.bind_keeps h fun a => SameCache.pure (a, n)

theorem SameCache.get : SameCache (MonadState.get : Walking Walker) (Pure.pure () : Walking Unit) :=
  fun _ => rfl

theorem CacheOnly.pure : CacheOnly (Pure.pure () : Walking Unit) :=
  fun _ _ same => congrArg Except.ok same

theorem Calls.sameCache {resolve : Nat → Walking γ} {x : EntityReading α} {addresses : List Nat}
    (calls : Calls resolve x addresses) (n : Notes) : SameCache (x.run n) (callsOn resolve addresses) :=
  fun s => Except.map_comp_of_map_eq (fun t : Walker => t.protocolNames) (calls n s)

theorem SameCache.callsOn_single {resolve : Nat → Walking γ} (address : Nat) :
    SameCache (resolve address) (callsOn resolve [address]) := by
  show SameCache (resolve address)
    ((resolve address >>= fun _ => Pure.pure ()) >>= fun _ => Pure.pure PUnit.unit)
  exact (SameCache.bind_keeps (SameCache.bind_keeps (SameCache.refl (resolve address))
    fun _ => SameCache.pure ()) fun _ => SameCache.pure PUnit.unit).symm

theorem SameCache.forM {δ : Type} {resolve : Nat → Walking γ} {f : δ → Walking PUnit}
    {calls : δ → List Nat} (each : ∀ a, SameCache (f a) (callsOn resolve (calls a)))
    (only : ∀ l, CacheOnly (callsOn resolve l)) :
    ∀ l : List δ, SameCache (l.forM f) (callsOn resolve (l.flatMap calls))
  | [] => SameCache.pure _
  | a :: l => by
    rw [List.flatMap_cons, callsOn_append]
    exact SameCache.bind (each a) (fun _ => SameCache.forM each only l) (only _)

theorem CacheOnly.callsOn {resolve : Nat → Walking γ} (each : ∀ address, CacheOnly (resolve address)) :
    ∀ addresses, CacheOnly (callsOn resolve addresses)
  | [], _, _, same => congrArg Except.ok same
  | address :: rest, s, t, same => by
    rw [run_callsOn_cons, run_callsOn_cons]
    cases ran : (resolve address).run s with
    | error e => rw [Except.eq_error_of_map_eq (each address s t same) ran]
    | ok p =>
      obtain ⟨q, ran', same'⟩ := Except.exists_ok_of_map_eq (each address s t same) ran
      rw [ran']
      exact CacheOnly.callsOn each rest p.2 q.2 same'

end Cache

section Walk

variable (img : MachImage) (policy : ListPolicy)

theorem protocolAt_cacheOnly : ∀ fuel address, CacheOnly (protocolAt img policy fuel address)
  | 0, address, s, t, same => by
    rw [run_protocolAt_zero, run_protocolAt_zero, ← same]
    exact congrArg Except.ok same
  | fuel + 1, address, s, t, same => by
    rw [run_protocolAt_succ, run_protocolAt_succ, ← same]
    cases cached : s.protocolNames[address]? with
    | some name => exact congrArg Except.ok same
    | none =>
      cases head : protocolHead img address with
      | error f => rfl
      | ok head? =>
        cases head? with
        | error e => exact congrArg Except.ok same
        | ok found =>
          obtain ⟨record, name⟩ := found
          dsimp only
          -- the body changes the cache as resolving the protocols the record adopts does
          have body := (protocolBody_calls img policy (protocolAt img policy fuel) address record
            name).sameCache {}
          have only := CacheOnly.callsOn (protocolAt_cacheOnly fuel) (adopted img policy record.protocols)
          rw [Except.map_map, Except.map_map]
          exact (body _).trans ((only { s with protocolNames := s.protocolNames.insert address name }
            { t with protocolNames := s.protocolNames.insert address name } rfl).trans (body _).symm)

theorem classNameAt_keeps (address : Nat) :
    SameCache (classNameAt img address) (Pure.pure () : Walking Unit) := by
  unfold classNameAt
  refine SameCache.keeps_bind SameCache.get (fun s => ?_) CacheOnly.pure
  split
  next => exact SameCache.pure _
  next =>
    split
    next => exact SameCache.bind_keeps (SameCache.modify fun _ => rfl) fun _ => SameCache.pure _
    next => exact SameCache.pure _

theorem classRef_keeps (value : SlotValue) (isRoot : Bool) :
    SameCache (classRef img value isRoot) (Pure.pure () : Walking Unit) := by
  unfold classRef
  split
  next => exact SameCache.bind_keeps (classNameAt_keeps img _) fun r => by split <;> exact SameCache.pure _
  next => exact SameCache.pure _
  next => exact SameCache.pure _

theorem invalid_keeps (address : Nat) (reason : String) :
    SameCache (invalid address reason) (Pure.pure () : Walking Unit) :=
  SameCache.bind_keeps (SameCache.modify fun _ => rfl) fun _ => SameCache.pure _

section Resolver

variable {resolve : Nat → Walking (Except ImageError String)}

theorem classBody_sameCache (address : Nat) (record : ClassRecord) (data : ClassData) (name : String)
    (only : CacheOnly (callsOn resolve (adopted img policy data.baseProtocols))) (n : Notes) :
    SameCache ((classBody img policy resolve address record data name).run n)
      (callsOn resolve (adopted img policy data.baseProtocols)) := by
  unfold classBody
  rw [StateT.run_bind]
  refine SameCache.keeps_bind ?_ (fun p => Calls.sameCache ?_ p.2) only
  · exact SameCache.lift (classRef_keeps img _ _) n
  · refine Calls.bind_nil (Calls.reading _) fun _ => ?_
    rw [← List.append_nil (adopted img policy data.baseProtocols)]
    refine Calls.bind (protocolRefs_calls img policy resolve _) fun _ => ?_
    refine Calls.bind_nil (Calls.reading _) fun _ => ?_
    refine Calls.bind_nil (Calls.reading _) fun _ => ?_
    -- the metaclass is read from the image alone, when it can be
    split
    next =>
      refine Calls.bind_nil (Calls.reading _) fun _ => Calls.bind_nil (Calls.reading _) fun _ => ?_
      exact Calls.bind_nil (Calls.pure _) fun _ => Calls.get fun _ => Calls.pure _
    next => exact Calls.bind_nil (Calls.pure _) fun _ => Calls.get fun _ => Calls.pure _
    next =>
      refine Calls.bind_nil (Calls.note _) fun _ => ?_
      exact Calls.bind_nil (Calls.pure _) fun _ => Calls.get fun _ => Calls.pure _

theorem categoryBody_sameCache (address : Nat) (record : CategoryRecord) (name : String)
    (only : CacheOnly (callsOn resolve (adopted img policy record.protocols))) (n : Notes) :
    SameCache ((categoryBody img policy resolve address record name).run n)
      (callsOn resolve (adopted img policy record.protocols)) := by
  unfold categoryBody
  rw [StateT.run_bind]
  refine SameCache.keeps_bind (SameCache.lift (classRef_keeps img _ _) n)
    (fun p => Calls.sameCache ?_ p.2) only
  refine Calls.bind_nil (Calls.reading _) fun _ => ?_
  refine Calls.bind_nil (Calls.reading _) fun _ => ?_
  rw [← List.append_nil (adopted img policy record.protocols)]
  refine Calls.bind (protocolRefs_calls img policy resolve _) fun _ => ?_
  refine Calls.bind_nil (Calls.reading _) fun _ => ?_
  split
  next => exact Calls.bind_nil (Calls.reading _) fun _ => Calls.get fun _ => Calls.pure _
  next => exact Calls.bind_nil (Calls.pure _) fun _ => Calls.get fun _ => Calls.pure _

def classCalls (address : Nat) : List Nat :=
  match classHead img address with
  | .ok (_, data, _) => adopted img policy data.baseProtocols
  | .error _ => []

def categoryCalls (hasClassProperties : Bool) (address : Nat) : List Nat :=
  let head : Except ImageError (CategoryRecord × String) := do
    let record ← CategoryRecord.read img address hasClassProperties
    pure (record, ← img.readString record.name)
  match head with
  | .ok (record, _) => adopted img policy record.protocols
  | .error _ => []

variable (only : ∀ addresses, CacheOnly (callsOn resolve addresses))
include only

theorem readClass_sameCache (address : Nat) :
    SameCache (readClass img policy resolve address) (callsOn resolve (classCalls img policy address)) := by
  unfold readClass classCalls
  split
  next head => rw [head]; exact SameCache.pure _
  next record data name head =>
    rw [head]
    refine SameCache.keeps_bind (SameCache.modify fun _ => rfl) (fun _ => ?_) (only _)
    exact SameCache.bind_keeps (classBody_sameCache img policy address record data name (only _) {})
      fun _ => SameCache.pure _

theorem readCategory_sameCache (hasClassProperties : Bool) (address : Nat) :
    SameCache (readCategory img policy resolve hasClassProperties address)
      (callsOn resolve (categoryCalls img policy hasClassProperties address)) := by
  unfold readCategory categoryCalls
  dsimp only
  split
  next head => rw [head]; exact SameCache.pure _
  next record name head =>
    rw [head]
    exact SameCache.bind_keeps (categoryBody_sameCache img policy address record name (only _) {})
      fun _ => SameCache.pure _

end Resolver

def slotTarget (entry : Nat × Except ImageError SlotValue) : List Nat :=
  match recordTarget entry.1 entry.2 with
  | .ok address => [address]
  | .error _ => []

/-- The addresses the walk's steps resolve protocols at, in order: each protocol slot's record,
then the protocols each class and each category adopts. -/
def walkCalls (protocolSlots classSlots categorySlots : List (Nat × Except ImageError SlotValue))
    (hasClassProperties : Bool) : List Nat :=
  protocolSlots.flatMap slotTarget ++
    ((classSlots.flatMap fun entry => (slotTarget entry).flatMap (classCalls img policy)) ++
      categorySlots.flatMap fun entry =>
        (slotTarget entry).flatMap (categoryCalls img policy hasClassProperties))

variable (fuel : Nat)

theorem callsOn_cacheOnly (addresses : List Nat) :
    CacheOnly (callsOn (protocolAt img policy fuel) addresses) :=
  CacheOnly.callsOn (protocolAt_cacheOnly img policy fuel) addresses

theorem walkProtocol_sameCache (entry : Nat × Except ImageError SlotValue) :
    SameCache (walkProtocol img policy fuel entry)
      (callsOn (protocolAt img policy fuel) (slotTarget entry)) := by
  obtain ⟨slot, value⟩ := entry
  unfold walkProtocol slotTarget
  dsimp only
  -- a slot that leads to no protocol leaves a placeholder in the model, and the cache as it is
  have recorded : ∀ reason, SameCache (do
      let d ← invalid slot reason
      modify fun s => { s with model := s.model.addProtocol (Protocol.placeholderAt slot d) })
      (Pure.pure () : Walking Unit) :=
    fun _ => SameCache.bind_keeps (invalid_keeps _ _) fun _ => SameCache.modify fun _ => rfl
  cases recordTarget slot value with
  | error reason =>
    dsimp only
    exact SameCache.keeps_bind (SameCache.pure _) (SameCache.except recorded fun _ => SameCache.pure ())
      CacheOnly.pure
  | ok address =>
    dsimp only
    refine SameCache.bind_keeps (SameCache.callsOn_single address) fun r => ?_
    split <;>
      exact SameCache.keeps_bind (SameCache.pure _) (SameCache.except recorded fun _ => SameCache.pure ())
        CacheOnly.pure

theorem walkClass_sameCache (entry : Nat × Except ImageError SlotValue) :
    SameCache (walkClass img policy fuel entry)
      (callsOn (protocolAt img policy fuel) ((slotTarget entry).flatMap (classCalls img policy))) := by
  obtain ⟨slot, value⟩ := entry
  unfold walkClass slotTarget
  dsimp only
  -- the class read, or a placeholder, which resolves nothing, is pushed to the model
  have pushed : ∀ place : Walking ObjcClass, SameCache place (Pure.pure () : Walking Unit) →
      SameCache (place >>= fun c => modify fun s => { s with model := s.model.pushClass c })
        (Pure.pure () : Walking Unit) :=
    fun _ kept => SameCache.keeps_bind kept (fun _ => SameCache.modify fun _ => rfl) CacheOnly.pure
  cases recordTarget slot value with
  | ok address =>
    dsimp only
    rw [List.flatMap_singleton]
    refine SameCache.bind_keeps (readClass_sameCache img policy (callsOn_cacheOnly img policy fuel) address)
      fun r => ?_
    split
    next => exact pushed _ (SameCache.pure _)
    next =>
      exact SameCache.keeps_bind (invalid_keeps _ _) (fun _ => pushed _ (SameCache.pure _))
        CacheOnly.pure
  | error reason =>
    dsimp only
    exact SameCache.keeps_bind (invalid_keeps _ _) (fun _ => pushed _ (SameCache.pure _)) CacheOnly.pure

theorem walkCategory_sameCache (hasClassProperties : Bool) (entry : Nat × Except ImageError SlotValue) :
    SameCache (walkCategory img policy fuel hasClassProperties entry)
      (callsOn (protocolAt img policy fuel)
        ((slotTarget entry).flatMap (categoryCalls img policy hasClassProperties))) := by
  obtain ⟨slot, value⟩ := entry
  unfold walkCategory slotTarget
  dsimp only
  have pushed : ∀ place : Walking Category, SameCache place (Pure.pure () : Walking Unit) →
      SameCache (place >>= fun c => modify fun s => { s with model := s.model.pushCategory c })
        (Pure.pure () : Walking Unit) :=
    fun _ kept => SameCache.keeps_bind kept (fun _ => SameCache.modify fun _ => rfl) CacheOnly.pure
  cases recordTarget slot value with
  | ok address =>
    dsimp only
    rw [List.flatMap_singleton]
    refine SameCache.bind_keeps
      (readCategory_sameCache img policy (callsOn_cacheOnly img policy fuel) hasClassProperties address)
      fun r => ?_
    split
    next => exact pushed _ (SameCache.pure _)
    next =>
      exact SameCache.keeps_bind (invalid_keeps _ _) (fun _ => pushed _ (SameCache.pure _))
        CacheOnly.pure
  | error reason =>
    dsimp only
    exact SameCache.keeps_bind (invalid_keeps _ _) (fun _ => pushed _ (SameCache.pure _)) CacheOnly.pure

theorem walkSteps_sameCache
    (protocolSlots classSlots categorySlots : List (Nat × Except ImageError SlotValue))
    (hasClassProperties : Bool) :
    SameCache (do
        protocolSlots.forM (walkProtocol img policy fuel)
        classSlots.forM (walkClass img policy fuel)
        categorySlots.forM (walkCategory img policy fuel hasClassProperties))
      (callsOn (protocolAt img policy fuel)
        (walkCalls img policy protocolSlots classSlots categorySlots hasClassProperties)) := by
  have only := callsOn_cacheOnly img policy fuel
  rw [walkCalls, callsOn_append]
  refine SameCache.bind (SameCache.forM (walkProtocol_sameCache img policy fuel) only protocolSlots)
    (fun _ => ?_) (only _)
  rw [callsOn_append]
  exact SameCache.bind (SameCache.forM (walkClass_sameCache img policy fuel) only classSlots)
    (fun _ => SameCache.forM (walkCategory_sameCache img policy fuel hasClassProperties) only
      categorySlots) (only _)

def walkRecordsRead (protocolSlots classSlots categorySlots : List (Nat × Except ImageError SlotValue))
    (hasClassProperties : Bool) (s : Walker) : List Nat :=
  readsAlong (recordsRead img policy fuel) (protocolAt img policy fuel)
    (walkCalls img policy protocolSlots classSlots categorySlots hasClassProperties) s

theorem Visits.of_cache {s t t' : Walker} {reads : List Nat} (visit : Visits s t reads)
    (same : t.protocolNames = t'.protocolNames) : Visits s t' reads :=
  ⟨visit.fresh, fun a held => same ▸ visit.kept a held, fun a mem => same ▸ visit.cached a mem,
    fun a held missing => visit.covers a (same ▸ held) missing⟩

theorem walkSteps_visits
    (protocolSlots classSlots categorySlots : List (Nat × Except ImageError SlotValue))
    (hasClassProperties : Bool) (s : Walker) :
    Fresh s (walkRecordsRead img policy fuel protocolSlots classSlots categorySlots hasClassProperties s) ∧
      ∀ s', (do
          protocolSlots.forM (walkProtocol img policy fuel)
          classSlots.forM (walkClass img policy fuel)
          categorySlots.forM (walkCategory img policy fuel hasClassProperties)).run s = .ok ((), s') →
        Visits s s' (walkRecordsRead img policy fuel protocolSlots classSlots categorySlots
          hasClassProperties s) := by
  obtain ⟨fresh, visits⟩ := readsAlong_visits (recordsRead_visits img policy fuel)
    (walkCalls img policy protocolSlots classSlots categorySlots hasClassProperties) s
  refine ⟨fresh, fun s' ran => ?_⟩
  -- the calls along `walkCalls` end with the cache the steps end with
  obtain ⟨q, called, same⟩ := Except.exists_ok_of_map_eq
    (walkSteps_sameCache img policy fuel protocolSlots classSlots categorySlots hasClassProperties s) ran
  exact (visits q.2 called).of_cache same.symm

end Walk

/-- Resolving the protocols of an image, however their records adopt one another, cycles and a
record adopting itself included. The depth the walk resolves with is never used up: with more,
resolving is the same function. A call reads into the model each record at most once and none
whose name was cached, and once it ends it has cached exactly the addresses of the records it
read; a later call from a state that keeps those names reads none of them again, and no step of
the walk drops a cached name. Over the whole walk, too, each record is read at most once, none that
was cached when it began, and the walk ends with exactly those cached besides. A call at a cached address gives the cached name and leaves the
walk's state as it was, whatever the image holds. -/
theorem protocolAt_reads_records_once (img : MachImage) (policy : ListPolicy) :
    (∀ extra, protocolAt img policy (protocolFuel img + extra) =
      protocolAt img policy (protocolFuel img)) ∧
    (∀ address s, Fresh s (recordsRead img policy (protocolFuel img) address s) ∧
      ∀ v s', (protocolAt img policy (protocolFuel img) address).run s = .ok (v, s') →
        Visits s s' (recordsRead img policy (protocolFuel img) address s)) ∧
    (∀ address address' s s' t v,
      (protocolAt img policy (protocolFuel img) address).run s = .ok (v, s') → Cached s' t →
        (recordsRead img policy (protocolFuel img) address s).Disjoint
          (recordsRead img policy (protocolFuel img) address' t)) ∧
    (∀ s (protocolSlots classSlots categorySlots : List (Nat × Except ImageError SlotValue))
        hasClassProperties, Preserves img (Cached s) (do
        protocolSlots.forM (walkProtocol img policy (protocolFuel img))
        classSlots.forM (walkClass img policy (protocolFuel img))
        categorySlots.forM (walkCategory img policy (protocolFuel img) hasClassProperties))) ∧
    (∀ (protocolSlots classSlots categorySlots : List (Nat × Except ImageError SlotValue))
        hasClassProperties s,
      Fresh s (walkRecordsRead img policy (protocolFuel img) protocolSlots classSlots categorySlots
          hasClassProperties s) ∧
        ∀ s', (do
            protocolSlots.forM (walkProtocol img policy (protocolFuel img))
            classSlots.forM (walkClass img policy (protocolFuel img))
            categorySlots.forM (walkCategory img policy (protocolFuel img) hasClassProperties)).run s =
              .ok ((), s') →
          Visits s s' (walkRecordsRead img policy (protocolFuel img) protocolSlots classSlots
            categorySlots hasClassProperties s)) ∧
    (∀ fuel address s name, s.protocolNames[address]? = some name →
      (protocolAt img policy fuel address).run s = .ok (.ok name, s)) :=
  ⟨protocolAt_protocolFuel_add img policy, recordsRead_visits img policy (protocolFuel img),
    fun _ _ _ _ _ _ ran kept => recordsRead_disjoint img policy ran kept,
    fun s => walkSteps_cached img policy s (protocolFuel img),
    walkSteps_visits img policy (protocolFuel img),
    fun _ _ _ _ cached => run_protocolAt_of_cached img policy cached _⟩

end Metadata

end ObjcImage
