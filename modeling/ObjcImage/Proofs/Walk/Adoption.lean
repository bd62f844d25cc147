import Mathlib
import ObjcImage.Proofs.Walk.Invariant
import ObjcImage.Proofs.Walk.Policy
import ObjcImage.Proofs.MachO.Translate

set_option autoImplicit false

/-!
How deep protocols adopt one another, and how often their records are read. A name is cached
before the adopted protocols are resolved, so each level of adoption caches one more mapped address
and adoption goes no deeper than there are mapped addresses.
-/

namespace ObjcImage

namespace Metadata

section Calls

variable {α β γ : Type} {resolve : Nat → Walking α}

def callsOn (resolve : Nat → Walking α) (addresses : List Nat) : Walking Unit :=
  addresses.forM fun address => resolve address >>= fun _ => pure ()

theorem callsOn_append (resolve : Nat → Walking α) (first rest : List Nat) :
    callsOn resolve (first ++ rest) = callsOn resolve first >>= fun _ => callsOn resolve rest :=
  List.forM_append

/-- Reading an entity with `x` changes the walk's state, or faults, as resolving `addresses` in
turn does, whatever it notes and yields. -/
def Calls (resolve : Nat → Walking α) (x : EntityReading β) (addresses : List Nat) : Prop :=
  ∀ n s, ((x.run n).run s).map Prod.snd = ((callsOn resolve addresses).run s).map Prod.snd

theorem map_snd_bind {x : Walking β} {f : β → Walking γ} {c d : Walking Unit} {s : Walker}
    (first : (x.run s).map Prod.snd = (c.run s).map Prod.snd)
    (rest : ∀ b t, ((f b).run t).map Prod.snd = (d.run t).map Prod.snd) :
    ((x >>= f).run s).map Prod.snd = ((c >>= fun _ => d).run s).map Prod.snd := by
  rw [StateT.run_bind, StateT.run_bind]
  -- both first steps fault alike, or both end in the same state
  cases ran : x.run s with
  | error e =>
    cases ran' : c.run s with
    | error e' => rw [ran, ran'] at first; exact first
    | ok q => rw [ran, ran'] at first; cases first
  | ok p =>
    cases ran' : c.run s with
    | error e' => rw [ran, ran'] at first; cases first
    | ok q =>
      rw [ran, ran'] at first
      have same : p.2 = q.2 := Except.ok.inj first
      show ((f p.1).run p.2).map Prod.snd = (d.run q.2).map Prod.snd
      rw [same]
      exact rest p.1 q.2

theorem Calls.pure (b : β) : Calls resolve (Pure.pure b : EntityReading β) [] := fun _ _ => rfl

theorem Calls.reading (r : Reading β) : Calls resolve (reading r) [] := fun _ _ => rfl

theorem Calls.note (d : Diagnostic) : Calls resolve (note d : EntityReading Unit) [] :=
  fun _ _ => rfl

theorem Calls.get {f : Notes → EntityReading β} {addresses : List Nat}
    (rest : ∀ n, Calls resolve (f n) addresses) :
    Calls resolve (MonadState.get >>= f) addresses := fun n s => rest n n s

theorem Calls.bind {x : EntityReading β} {f : β → EntityReading γ} {first rest : List Nat}
    (calls₁ : Calls resolve x first) (calls₂ : ∀ b, Calls resolve (f b) rest) :
    Calls resolve (x >>= f) (first ++ rest) := by
  intro n s
  rw [StateT.run_bind, callsOn_append]
  exact map_snd_bind (calls₁ n s) fun p t => calls₂ p.1 p.2 t

theorem Calls.bind_nil {x : EntityReading β} {f : β → EntityReading γ} {rest : List Nat}
    (calls₁ : Calls resolve x []) (calls₂ : ∀ b, Calls resolve (f b) rest) :
    Calls resolve (x >>= f) rest :=
  Calls.bind calls₁ calls₂

theorem Calls.lift (address : Nat) : Calls resolve (StateT.lift (resolve address)) [address] := by
  intro n s
  simp only [callsOn, List.forM, StateT.run_lift, StateT.run_bind, StateT.run_pure]
  cases (resolve address).run s <;> rfl

theorem Calls.reading_bind {r : Reading β} {f : β → EntityReading γ} {b : β} {addresses : List Nat}
    (result : ∀ n, (r.run n).1 = b) (rest : Calls resolve (f b) addresses) :
    Calls resolve (Metadata.reading r >>= f) addresses := by
  intro n s
  have ran : (Metadata.reading r >>= f).run n = (f (r.run n).1).run (r.run n).2 := rfl
  rw [ran, result n]
  exact rest _ s

theorem Calls.filterMapM {l : List γ} {f : γ → EntityReading (Option β)} {target : γ → Option Nat}
    (each : ∀ c, Calls resolve (f c) (target c).toList) :
    Calls resolve (l.filterMapM f) (l.filterMap target) := by
  induction l with
  | nil => exact Calls.pure []
  | cons c l ih =>
    have split : (c :: l).filterMap target = (target c).toList ++ l.filterMap target := by
      cases found : target c <;> simp [found]
    rw [List.filterMapM_cons, split]
    refine Calls.bind (each c) fun b? => ?_
    cases b? with
    | none => exact ih
    | some b => simpa using Calls.bind ih fun bs => Calls.pure (b :: bs)

end Calls

section Agree

variable (img : MachImage) {α β γ : Type}

/-- From a state where `I` holds, `x` runs as `y` does, and it keeps `I`. -/
structure Agree (I : Walker → Prop) (x y : Walking α) : Prop where
  keeps : Preserves img I x
  same : ∀ s, I s → x.run s = y.run s

def EAgree (I : Walker → Prop) (x y : EntityReading α) : Prop :=
  ∀ n, Agree img I (x.run n) (y.run n)

variable {img} {I : Walker → Prop}

theorem Agree.bind {x y : Walking α} {f g : α → Walking β} (first : Agree img I x y)
    (rest : ∀ a, Agree img I (f a) (g a)) : Agree img I (x >>= f) (y >>= g) := by
  refine ⟨Preserves.bind first.keeps fun a => (rest a).keeps, fun s hs => ?_⟩
  rw [StateT.run_bind, StateT.run_bind, ← first.same s hs]
  cases ran : x.run s with
  | error e => rfl
  | ok p => exact (rest p.1).same p.2 ((first.keeps s hs).1 p.1 p.2 ran)

theorem EAgree.of_preserves {x : EntityReading α} (kept : EPreserves img I x) : EAgree img I x x :=
  fun n => ⟨kept n, fun _ _ => rfl⟩

theorem EAgree.bind {x y : EntityReading α} {f g : α → EntityReading β} (first : EAgree img I x y)
    (rest : ∀ a, EAgree img I (f a) (g a)) : EAgree img I (x >>= f) (y >>= g) := fun n => by
  rw [StateT.run_bind, StateT.run_bind]
  exact Agree.bind (first n) fun p => rest p.1 p.2

theorem EAgree.lift {x y : Walking α} (same : Agree img I x y) :
    EAgree img I (StateT.lift x) (StateT.lift y) :=
  fun n => ⟨EPreserves.lift same.keeps n, fun s hs => by
    simp only [StateT.run_lift, StateT.run_bind, same.same s hs]⟩

theorem EAgree.filterMapM {l : List γ} {f g : γ → EntityReading (Option β)}
    (each : ∀ c, EAgree img I (f c) (g c)) : EAgree img I (l.filterMapM f) (l.filterMapM g) := by
  induction l with
  | nil => exact EAgree.of_preserves (EPreserves.pure [])
  | cons c l ih =>
    rw [List.filterMapM_cons, List.filterMapM_cons]
    refine EAgree.bind (each c) fun b? => ?_
    cases b? with
    | none => exact ih
    | some b => exact EAgree.bind ih fun bs => EAgree.of_preserves (EPreserves.pure (b :: bs))

variable (policy : ListPolicy) {resolve resolve' : Nat → Walking (Except ImageError String)}
  (same : ∀ address, Agree img I (resolve address) (resolve' address))
include same

theorem protocolRefs_agree (value : SlotValue) :
    EAgree img I (protocolRefs img policy resolve value) (protocolRefs img policy resolve' value) := by
  unfold protocolRefs
  refine EAgree.bind (EAgree.of_preserves EPreserves.reading) fun list? => ?_
  cases list? with
  | none => exact EAgree.of_preserves (EPreserves.pure _)
  | some list =>
    dsimp only
    cases img.readWord list with
    | error e =>
      exact EAgree.of_preserves (EPreserves.bind EPreserves.note fun _ => EPreserves.pure _)
    | ok count =>
      -- the entries agree one by one; only those that hold an address resolve it
      refine EAgree.bind (EAgree.of_preserves EPreserves.reading) fun entries =>
        EAgree.filterMapM fun entry => ?_
      cases img.readPointer entry with
      | error e =>
        exact EAgree.of_preserves (EPreserves.bind EPreserves.note fun _ => EPreserves.pure _)
      | ok target =>
        cases target with
        | value address =>
          refine EAgree.bind (EAgree.lift (same address)) fun name => EAgree.of_preserves ?_
          cases name with
          | ok name => exact EPreserves.pure _
          | error e => exact EPreserves.bind EPreserves.note fun _ => EPreserves.pure _
        | bind symbol => exact EAgree.of_preserves (EPreserves.pure _)
        | null => exact EAgree.of_preserves (EPreserves.pure _)

theorem protocolBody_agree (address : Nat) (record : ProtocolRecord) (name : String) :
    EAgree img I (protocolBody img policy resolve address record name)
      (protocolBody img policy resolve' address record name) := fun n =>
  ⟨protocolBody_preserves policy (fun a => (same a).keeps) address record name n, fun s hs => by
    unfold protocolBody
    rw [StateT.run_bind, StateT.run_bind, StateT.run_bind, StateT.run_bind,
      ((protocolRefs_agree policy same record.protocols) n).same s hs]⟩

end Agree

section Adopted

variable (img : MachImage) (policy : ListPolicy)

def adopted : SlotValue → List Nat
  | .value list =>
    match img.readWord list with
    | .ok count =>
      let w := img.arch.pointerWidth
      ((listEntries img policy .protocol (list + w) (min count 0xffffffff) w).run {}).1.filterMap
        fun entry => match img.readPointer entry with
          | .ok (.value address) => some address
          | _ => none
    | .error _ => []
  | _ => []

variable (resolve : Nat → Walking (Except ImageError String))

theorem protocolRefs_calls (value : SlotValue) :
    Calls resolve (protocolRefs img policy resolve value) (adopted img policy value) := by
  unfold protocolRefs
  cases value with
  | value list =>
    refine Calls.reading_bind (b := some list) (fun _ => rfl) ?_
    dsimp only [adopted]
    cases img.readWord list with
    | error e => exact Calls.bind_nil (Calls.note _) fun _ => Calls.pure _
    | ok count =>
      refine Calls.reading_bind
        (fun n => by rw [Local.run_eq (listEntries_local img policy _ _ _ _) n]) ?_
      refine Calls.filterMapM fun entry => ?_
      cases img.readPointer entry with
      | error e => exact Calls.bind_nil (Calls.note _) fun _ => Calls.pure _
      | ok target =>
        cases target with
        | value address =>
          refine Calls.bind (Calls.lift address) fun name => ?_
          cases name with
          | ok name => exact Calls.pure _
          | error e => exact Calls.bind_nil (Calls.note _) fun _ => Calls.pure _
        | bind symbol => exact Calls.pure _
        | null => exact Calls.pure _
  | null => exact Calls.reading_bind (b := none) (fun _ => rfl) (Calls.pure _)
  | bind symbol => exact Calls.reading_bind (b := none) (fun _ => rfl) (Calls.pure _)

theorem protocolBody_calls (address : Nat) (record : ProtocolRecord) (name : String) :
    Calls resolve (protocolBody img policy resolve address record name)
      (adopted img policy record.protocols) := by
  unfold protocolBody
  rw [← List.append_nil (adopted img policy record.protocols)]
  refine Calls.bind (protocolRefs_calls img policy resolve record.protocols) fun _ => ?_
  -- the methods, properties and notes are read from the image alone
  refine Calls.bind_nil (Calls.reading _) fun _ => ?_
  refine Calls.bind_nil (Calls.reading _) fun _ => ?_
  dsimp only
  split
  next => exact Calls.bind_nil (Calls.reading _) fun _ => Calls.get fun _ => Calls.pure _
  next => exact Calls.bind_nil (Calls.pure _) fun _ => Calls.get fun _ => Calls.pure _

end Adopted

section Resolve

variable (img : MachImage) (policy : ListPolicy)

def protocolHead (address : Nat) : Except AddressFault (Except ImageError (ProtocolRecord × String)) :=
  (ProtocolRecord.read img address).map fun record? => do
    let record ← record?
    pure (record, ← img.readString record.name)

theorem run_protocolAt_zero (address : Nat) (s : Walker) :
    (protocolAt img policy 0 address).run s =
      .ok (match s.protocolNames[address]? with
        | some name => .ok name
        | none => .error (.unmapped address 0), s) := rfl

theorem run_protocolAt_succ (fuel address : Nat) (s : Walker) :
    (protocolAt img policy (fuel + 1) address).run s =
      match s.protocolNames[address]?, protocolHead img address with
      | some name, _ => .ok (.ok name, s)
      | none, .error f => .error f
      | none, .ok (.error e) => .ok (.error e, s)
      | none, .ok (.ok (record, name)) =>
        (((protocolBody img policy (protocolAt img policy fuel) address record name).run {}).run
            { s with protocolNames := s.protocolNames.insert address name }).map
          fun r => (.ok name, { r.2 with model := r.2.model.addProtocol r.1.1 }) := by
  rw [protocolAt]
  unfold protocolHead
  cases cached : s.protocolNames[address]? with
  | some name => simp [cached]; rfl
  | none =>
    cases read : ProtocolRecord.read img address with
    | error f => simp [cached]; rfl
    | ok record? =>
      cases record? with
      | error e => simp [cached]; rfl
      | ok record =>
        simp only [StateT.run_bind, StateT.run_get, pure_bind, cached, liftM, StateT.run_monadLift,
          monadLift_self]
        cases named : img.readString record.name <;>
          simp only [bind, Except.bind, Except.map, pure, Except.pure, named] <;> rfl

theorem run_protocolAt_of_cached {address : Nat} {s : Walker} {name : String}
    (cached : s.protocolNames[address]? = some name) :
    ∀ fuel, (protocolAt img policy fuel address).run s = .ok (.ok name, s)
  | 0 => by rw [run_protocolAt_zero, cached]
  | fuel + 1 => by rw [run_protocolAt_succ, cached]

end Resolve

section Depth

variable (img : MachImage) (policy : ListPolicy)

def Cached (s t : Walker) : Prop :=
  ∀ address ∈ s.protocolNames, address ∈ t.protocolNames

theorem cached_insert (s : Walker) (address : Nat) (name : String) :
    Cached s { s with protocolNames := s.protocolNames.insert address name } :=
  fun _ mem => Std.HashMap.mem_insert.2 (.inr mem)

theorem stable_cached (s : Walker) : Stable img (Cached s) :=
  ⟨fun _ _ _ _ _ _ kept => kept,
    fun t address _ name _ _ kept b mem => cached_insert t address name b (kept b mem),
    fun _ _ kept => kept⟩

def mappedAddresses : Finset Nat :=
  ((img.sections.filter fun s => !s.isZerofill).flatMap fun s => List.range' s.addr s.size).toFinset

def uncached (s : Walker) : Finset Nat :=
  (mappedAddresses img).filter fun address => address ∉ s.protocolNames

theorem card_mappedAddresses_lt : (mappedAddresses img).card < protocolFuel img := by
  unfold mappedAddresses protocolFuel
  calc _ ≤ ((img.sections.filter fun s => !s.isZerofill).flatMap
          fun s => List.range' s.addr s.size).length := List.toFinset_card_le _
    _ = ((img.sections.filter fun s => !s.isZerofill).map (·.size)).sum := by
      simp [List.length_flatMap]
    _ < _ := by rw [List.sum_eq_foldl]; omega

theorem mem_mappedAddresses {address size : Nat} {bytes : List UInt8}
    (translated : img.translate address size = .ok bytes) : address ∈ mappedAddresses img := by
  unfold MachImage.translate at translated
  cases found : img.fileOffset address size with
  | error e => simp [found, bind, Except.bind] at translated
  | ok offset =>
    obtain ⟨s, mapped, -⟩ := MachImage.fileOffset_eq_ok found
    obtain ⟨mem, backed, contains⟩ := MachImage.mappedSection?_eq_some mapped
    simp only [Section.contains, Bool.and_eq_true, decide_eq_true_eq] at contains
    simp only [mappedAddresses, List.mem_toFinset, List.mem_flatMap, List.mem_filter,
      List.mem_range'_1]
    exact ⟨s, ⟨mem, by simp [backed]⟩, contains.1, by omega⟩

theorem protocolHead_eq_ok_ok {address : Nat} {record : ProtocolRecord} {name : String}
    (head : protocolHead img address = .ok (.ok (record, name))) :
    ProtocolRecord.read img address = .ok (.ok record) ∧ img.readString record.name = .ok name := by
  unfold protocolHead at head
  cases read : ProtocolRecord.read img address with
  | error f => rw [read] at head; cases head
  | ok record? =>
    rw [read] at head
    obtain ⟨rfl, named⟩ := protocolHead_eq_ok (Except.ok.inj head)
    exact ⟨rfl, named⟩

theorem mem_mappedAddresses_of_head {address : Nat} {found : ProtocolRecord × String}
    (head : protocolHead img address = .ok (.ok found)) : address ∈ mappedAddresses img := by
  obtain ⟨read, -⟩ := protocolHead_eq_ok_ok img head
  -- the record's head was translated, so its first byte is mapped
  unfold ProtocolRecord.read at read
  cases readHead : ProtocolRecord.readHead img address with
  | error e => rw [readHead] at read; cases read
  | ok record =>
    obtain ⟨_, translated⟩ := ProtocolRecord.readHead_translate readHead
    exact mem_mappedAddresses img translated

theorem uncached_subset {s t : Walker} (kept : Cached s t) : uncached img t ⊆ uncached img s := by
  intro address
  simp only [uncached, Finset.mem_filter]
  exact fun ⟨mapped, missing⟩ => ⟨mapped, fun mem => missing (kept address mem)⟩

theorem card_uncached_insert_lt {s : Walker} {address : Nat} (name : String)
    (mapped : address ∈ mappedAddresses img) (missing : address ∉ s.protocolNames) :
    (uncached img { s with protocolNames := s.protocolNames.insert address name }).card <
      (uncached img s).card := by
  -- the address itself was uncached and is no longer
  refine Finset.card_lt_card ((Finset.ssubset_iff_of_subset
    (uncached_subset img (cached_insert s address name))).2 ⟨address, ?_, ?_⟩)
  · exact Finset.mem_filter.2 ⟨mapped, missing⟩
  · simp [uncached, Std.HashMap.mem_insert]

theorem stable_uncached_lt (bound : Nat) : Stable img fun t => (uncached img t).card < bound :=
  ⟨fun _ _ _ _ _ _ below => below,
    fun t address _ name _ _ below =>
      lt_of_le_of_lt (Finset.card_le_card (uncached_subset img (cached_insert t address name))) below,
    fun _ _ below => below⟩

/-- With more depth than mapped addresses left uncached, more depth changes nothing: every level
of adoption caches a mapped address that was not cached, so the bound is never reached. -/
theorem run_protocolAt_add_fuel : ∀ fuel extra address s, (uncached img s).card < fuel →
    (protocolAt img policy (fuel + extra) address).run s = (protocolAt img policy fuel address).run s
  | 0, _, _, _, short => absurd short (Nat.not_lt_zero _)
  | fuel + 1, extra, address, s, short => by
    rw [show fuel + 1 + extra = fuel + extra + 1 by omega, run_protocolAt_succ, run_protocolAt_succ]
    cases cached : s.protocolNames[address]? with
    | some name => rfl
    | none =>
      cases head : protocolHead img address with
      | error f => rfl
      | ok head? =>
        cases head? with
        | error e => rfl
        | ok found =>
          obtain ⟨record, name⟩ := found
          -- the adopted protocols are resolved from states with fewer mapped addresses uncached,
          -- where one level less is deep enough
          have fewer := card_uncached_insert_lt img name (mem_mappedAddresses_of_head img head)
            ((getElem?_eq_none_iff _ _).1 cached)
          have deeper : ∀ b, Agree img (fun t => (uncached img t).card < fuel)
              (protocolAt img policy (fuel + extra) b) (protocolAt img policy fuel b) := fun b =>
            ⟨protocolAt_preserves (stable_uncached_lt img fuel) policy _ b,
              fun t below => run_protocolAt_add_fuel fuel extra b t below⟩
          dsimp only
          rw [(protocolBody_agree policy deeper address record name {}).same _ (by omega)]

theorem protocolAt_protocolFuel_add (extra : Nat) :
    protocolAt img policy (protocolFuel img + extra) = protocolAt img policy (protocolFuel img) := by
  funext address
  refine StateT.ext fun s => run_protocolAt_add_fuel img policy _ extra address s ?_
  exact lt_of_le_of_lt (Finset.card_le_card (Finset.filter_subset _ _)) (card_mappedAddresses_lt img)

end Depth

section Reads

variable (img : MachImage) (policy : ListPolicy)

theorem Calls.run_eq_ok {α β : Type} {resolve : Nat → Walking α} {x : EntityReading β}
    {addresses : List Nat} (calls : Calls resolve x addresses) {n : Notes} {s t : Walker}
    {r : β × Notes} (ran : (x.run n).run s = .ok (r, t)) :
    (callsOn resolve addresses).run s = .ok ((), t) := by
  have same := calls n s
  rw [ran] at same
  cases resolved : (callsOn resolve addresses).run s with
  | error e => rw [resolved] at same; cases same
  | ok q => rw [resolved] at same; cases same; rfl

theorem run_callsOn_cons {α : Type} (call : Nat → Walking α) (address : Nat) (rest : List Nat)
    (s : Walker) :
    (callsOn call (address :: rest)).run s =
      match (call address).run s with
      | .ok (_, t) => (callsOn call rest).run t
      | .error e => .error e := by
  simp only [callsOn, List.forM, StateT.run_bind, StateT.run_pure]
  cases (call address).run s <;> rfl

def readsAlong {α : Type} (reads : Nat → Walker → List Nat) (call : Nat → Walking α) :
    List Nat → Walker → List Nat
  | [], _ => []
  | address :: rest, s =>
    reads address s ++ match (call address).run s with
      | .ok (_, t) => readsAlong reads call rest t
      | .error _ => []

/-- The records a call of `protocolAt` reads into the model, in the order it reads them: at an
address not cached whose record and name can be read, that record, then those that resolving the
protocols it adopts reads, each from the state the one before leaves. -/
def recordsRead : Nat → Nat → Walker → List Nat
  | 0, _, _ => []
  | fuel + 1, address, s =>
    match s.protocolNames[address]?, protocolHead img address with
    | none, .ok (.ok (record, name)) =>
      address :: readsAlong (recordsRead fuel) (protocolAt img policy fuel)
        (adopted img policy record.protocols)
        { s with protocolNames := s.protocolNames.insert address name }
    | _, _ => []

def Fresh (s : Walker) (reads : List Nat) : Prop :=
  reads.Nodup ∧ ∀ address ∈ reads, address ∉ s.protocolNames

/-- From `s` to `s'` the cache keeps every name it had, and the addresses it gains are exactly
`reads`, each read once. -/
structure Visits (s s' : Walker) (reads : List Nat) : Prop where
  fresh : Fresh s reads
  kept : Cached s s'
  cached : ∀ address ∈ reads, address ∈ s'.protocolNames
  covers : ∀ address ∈ s'.protocolNames, address ∉ s.protocolNames → address ∈ reads

theorem fresh_nil (s : Walker) : Fresh s [] := ⟨List.nodup_nil, fun _ mem => absurd mem List.not_mem_nil⟩

theorem Visits.refl (s : Walker) : Visits s s [] :=
  ⟨fresh_nil s, fun _ mem => mem, fun _ mem => absurd mem List.not_mem_nil,
    fun _ mem missing => absurd mem missing⟩

theorem Visits.cache {s : Walker} {address : Nat} (name : String)
    (missing : address ∉ s.protocolNames) :
    Visits s { s with protocolNames := s.protocolNames.insert address name } [address] := by
  refine ⟨⟨List.nodup_singleton address, fun b mem => ?_⟩, cached_insert s address name,
    fun b mem => ?_, fun b mem old => ?_⟩
  · rw [List.mem_singleton] at mem
    exact mem ▸ missing
  · rw [List.mem_singleton] at mem
    simp [mem, Std.HashMap.mem_insert]
  · rcases Std.HashMap.mem_insert.1 mem with same | held
    · simpa using (beq_iff_eq.1 same).symm
    · exact absurd held old

theorem Visits.addProtocol {s t : Walker} {reads : List Nat} (visit : Visits s t reads)
    (p : Protocol) : Visits s { t with model := t.model.addProtocol p } reads :=
  ⟨visit.fresh, visit.kept, visit.cached, visit.covers⟩

theorem Fresh.append {s t : Walker} {first rest : List Nat} (visit : Visits s t first)
    (fresh : Fresh t rest) : Fresh s (first ++ rest) := by
  refine ⟨List.nodup_append.2 ⟨visit.fresh.1, fresh.1, fun a before b after same => ?_⟩,
    fun b mem => ?_⟩
  · exact fresh.2 b after (same ▸ visit.cached a before)
  · rcases List.mem_append.1 mem with before | after
    · exact visit.fresh.2 b before
    · exact fun held => fresh.2 b after (visit.kept b held)

theorem Visits.append {s t u : Walker} {first rest : List Nat} (visit : Visits s t first)
    (visit' : Visits t u rest) : Visits s u (first ++ rest) := by
  refine ⟨Fresh.append visit visit'.fresh, fun b held => visit'.kept b (visit.kept b held),
    fun b mem => ?_, fun b mem old => ?_⟩
  · rcases List.mem_append.1 mem with before | after
    · exact visit'.kept b (visit.cached b before)
    · exact visit'.cached b after
  · -- an address cached on the way was cached by the first visit or by the second
    by_cases midway : b ∈ t.protocolNames
    · exact List.mem_append_left rest (visit.covers b midway old)
    · exact List.mem_append_right first (visit'.covers b mem midway)

theorem readsAlong_visits {α : Type} {reads : Nat → Walker → List Nat} {call : Nat → Walking α}
    (each : ∀ address s, Fresh s (reads address s) ∧
      ∀ v s', (call address).run s = .ok (v, s') → Visits s s' (reads address s)) :
    ∀ addresses s, Fresh s (readsAlong reads call addresses s) ∧
      ∀ s', (callsOn call addresses).run s = .ok ((), s') →
        Visits s s' (readsAlong reads call addresses s)
  | [], s => ⟨fresh_nil s, fun s' ran => by cases ran; exact Visits.refl s⟩
  | address :: rest, s => by
    obtain ⟨fresh, visits⟩ := each address s
    rw [readsAlong, run_callsOn_cons]
    cases ran : (call address).run s with
    | error e => exact ⟨by simpa using fresh, fun s' faulted => by cases faulted⟩
    | ok p =>
      obtain ⟨v, t⟩ := p
      have first := visits v t ran
      obtain ⟨fresh', visits'⟩ := readsAlong_visits each rest t
      exact ⟨Fresh.append first fresh', fun s' ran' => Visits.append first (visits' s' ran')⟩

theorem recordsRead_visits : ∀ fuel address s,
    Fresh s (recordsRead img policy fuel address s) ∧
      ∀ v s', (protocolAt img policy fuel address).run s = .ok (v, s') →
        Visits s s' (recordsRead img policy fuel address s)
  | 0, address, s => ⟨fresh_nil s, fun v s' ran => by
      rw [run_protocolAt_zero] at ran
      cases ran
      exact Visits.refl s⟩
  | fuel + 1, address, s => by
    rw [recordsRead, run_protocolAt_succ]
    cases cached : s.protocolNames[address]? with
    | some name => exact ⟨fresh_nil s, fun v s' ran => by cases ran; exact Visits.refl s⟩
    | none =>
      cases head : protocolHead img address with
      | error f => exact ⟨fresh_nil s, fun v s' ran => by cases ran⟩
      | ok head? =>
        cases head? with
        | error e => exact ⟨fresh_nil s, fun v s' ran => by cases ran; exact Visits.refl s⟩
        | ok found =>
          obtain ⟨record, name⟩ := found
          dsimp only
          have named := Visits.cache name ((getElem?_eq_none_iff _ _).1 cached)
          -- the protocols it adopts are resolved in turn, each with one level less
          obtain ⟨fresh, visits⟩ := readsAlong_visits (recordsRead_visits fuel)
            (adopted img policy record.protocols)
            { s with protocolNames := s.protocolNames.insert address name }
          refine ⟨Fresh.append named fresh, fun v s' ran => ?_⟩
          cases body : ((protocolBody img policy (protocolAt img policy fuel) address record
              name).run {}).run { s with protocolNames := s.protocolNames.insert address name } with
          | error e => rw [body] at ran; cases ran
          | ok r =>
            rw [body] at ran
            cases ran
            -- the body ends where resolving the adopted protocols does
            exact Visits.append named ((visits r.2 (Calls.run_eq_ok
              (protocolBody_calls img policy _ address record name) body)).addProtocol r.1.1)

theorem recordsRead_disjoint {fuel fuel' address address' : Nat} {s s' t : Walker}
    {v : Except ImageError String} (ran : (protocolAt img policy fuel address).run s = .ok (v, s'))
    (kept : Cached s' t) :
    (recordsRead img policy fuel address s).Disjoint (recordsRead img policy fuel' address' t) :=
  fun b before after =>
    (recordsRead_visits img policy fuel' address' t).1.2 b after
      (kept b (((recordsRead_visits img policy fuel address s).2 v s' ran).cached b before))

theorem walkSteps_cached (s : Walker) (fuel : Nat)
    (protocolSlots classSlots categorySlots : List (Nat × Except ImageError SlotValue))
    (hasClassProperties : Bool) :
    Preserves img (Cached s) (do
      protocolSlots.forM (walkProtocol img policy fuel)
      classSlots.forM (walkClass img policy fuel)
      categorySlots.forM (walkCategory img policy fuel hasClassProperties)) :=
  walkSteps_preserves policy (stable_cached img s).nameClass
    (protocolAt_preserves (stable_cached img s) policy fuel) (fun _ _ kept => kept)
    (fun _ _ _ kept => kept) (fun _ _ kept => kept) (fun _ _ kept => kept)
    protocolSlots classSlots categorySlots hasClassProperties

end Reads

end Metadata

end ObjcImage
