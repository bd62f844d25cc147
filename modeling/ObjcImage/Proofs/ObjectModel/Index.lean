import Mathlib
import ObjcImage.Runtime.Model
import ObjcImage.Proofs.Walk.Invariant

set_option autoImplicit false

/-!
The object model as a store built by calls. Every call keeps the name indexes in step with the
lists, and protocols are kept one per name: the first complete definition, or else the first.
-/

namespace ObjcImage

inductive ModelCall where
  | pushClass (c : ObjcClass)
  | pushCategory (c : Category)
  | addProtocol (p : Protocol)
  | pushDiagnostic (d : Diagnostic)

namespace ModelCall

def pushedClass? : ModelCall → Option ObjcClass
  | pushClass c => some c
  | pushCategory _ | addProtocol _ | pushDiagnostic _ => none

def addedProtocol? : ModelCall → Option Protocol
  | addProtocol p => some p
  | pushClass _ | pushCategory _ | pushDiagnostic _ => none

end ModelCall

namespace ObjectModel

def perform (m : ObjectModel) : ModelCall → ObjectModel
  | .pushClass c => m.pushClass c
  | .pushCategory c => m.pushCategory c
  | .addProtocol p => m.addProtocol p
  | .pushDiagnostic d => m.pushDiagnostic d

def replay (m : ObjectModel) (calls : List ModelCall) : ObjectModel := calls.foldl perform m

end ObjectModel

namespace Protocol

def insertInto (p : Protocol) : List Protocol → List Protocol
  | [] => [p]
  | q :: qs =>
    if q.name == p.name then (if !q.complete && p.complete then p :: qs else q :: qs)
    else q :: p.insertInto qs

theorem insertInto_of_findIdx?_eq_none {p : Protocol} {ps : List Protocol}
    (absent : ps.findIdx? (·.name == p.name) = none) : p.insertInto ps = ps ++ [p] := by
  induction ps with
  | nil => rfl
  | cons q qs ih =>
    have other : (q.name == p.name) = false := List.findIdx?_eq_none_iff.1 absent q List.mem_cons_self
    have rest : qs.findIdx? (·.name == p.name) = none := by
      simpa [List.findIdx?_cons, other] using absent
    rw [insertInto, if_neg (by simp [other]), ih rest, List.cons_append]

theorem insertInto_of_findIdx?_eq_some {p : Protocol} {ps : List Protocol} {i : Nat}
    (found : ps.findIdx? (·.name == p.name) = some i) :
    p.insertInto ps = if (ps[i]?.any (!·.complete)) && p.complete then ps.set i p else ps := by
  induction ps generalizing i with
  | nil => simp at found
  | cons q qs ih =>
    by_cases same : q.name = p.name
    next =>
      -- the first entry holds the name, so the index is 0
      have zero : i = 0 := by simpa [List.findIdx?_cons, same] using found.symm
      subst zero
      rw [insertInto, if_pos (by simpa using same)]
      simp only [List.getElem?_cons_zero, Option.any_some, List.set_cons_zero]
    next =>
      -- the name is further on: the index counts the head
      simp only [List.findIdx?_cons, beq_iff_eq, same, if_false, Option.map_eq_some_iff] at found
      obtain ⟨j, rest, rfl⟩ := found
      rw [insertInto, if_neg (by simpa using same), ih rest]
      simp only [List.getElem?_cons_succ, List.set_cons_succ]
      split <;> rfl

/-- Of the definitions `added` in order, the one that stands for the name `n`: the first complete
one, or else the first one. -/
def chosen (added : List Protocol) (n : String) : Option Protocol :=
  let named := added.filter (·.name == n)
  (named.find? (·.complete)).or named.head?

def preferred (earlier later : Protocol) : Protocol :=
  if !earlier.complete && later.complete then later else earlier

theorem map_name_insertInto (p : Protocol) (ps : List Protocol) :
    (p.insertInto ps).map (·.name) =
      ps.map (·.name) ++ if p.name ∈ ps.map (·.name) then [] else [p.name] := by
  induction ps with
  | nil => simp [insertInto]
  | cons q qs ih =>
    by_cases same : q.name = p.name
    next =>
      -- `q` holds the name: it stays or gives way to `p` in its place
      rw [insertInto, if_pos (by simpa using same)]
      split <;> simp [same]
    next =>
      have other : p.name ≠ q.name := Ne.symm same
      simp [insertInto, same, ih, other]

theorem find?_insertInto_of_ne {p : Protocol} {ps : List Protocol} {n : String}
    (other : p.name ≠ n) : (p.insertInto ps).find? (·.name == n) = ps.find? (·.name == n) := by
  induction ps with
  | nil => simp [insertInto, other]
  | cons q qs ih =>
    by_cases same : q.name = p.name
    next =>
      have : q.name ≠ n := same ▸ other
      rw [insertInto, if_pos (by simpa using same)]
      split <;> simp [this, other]
    next => rw [insertInto, if_neg (by simpa using same), List.find?_cons, List.find?_cons, ih]

theorem find?_insertInto_self (p : Protocol) (ps : List Protocol) :
    (p.insertInto ps).find? (·.name == p.name) =
      some ((ps.find? (·.name == p.name)).elim p fun q => preferred q p) := by
  induction ps with
  | nil => simp [insertInto]
  | cons q qs ih =>
    by_cases same : q.name = p.name
    next =>
      have head : (q :: qs).find? (·.name == p.name) = some q := by simp [same]
      rw [insertInto, if_pos (by simpa using same), head]
      by_cases swap : (!q.complete && p.complete) = true
      next =>
        rw [if_pos swap]
        simp only [Option.elim, preferred, if_pos swap]
        simp
      next =>
        rw [if_neg swap]
        simp only [Option.elim, preferred, if_neg swap]
        simp [same]
    next => simp [insertInto, same, ih]

theorem chosen_append_of_ne {added : List Protocol} {p : Protocol} {n : String}
    (other : p.name ≠ n) : chosen (added ++ [p]) n = chosen added n := by
  simp [chosen, List.filter_append, other]

theorem chosen_append_self (added : List Protocol) (p : Protocol) :
    chosen (added ++ [p]) p.name = some ((chosen added p.name).elim p fun q => preferred q p) := by
  simp only [chosen, List.filter_append, List.filter_singleton, beq_self_eq_true, cond_true,
    List.find?_append]
  generalize added.filter (·.name == p.name) = named
  cases firstComplete : named.find? (·.complete) with
  | some r =>
    -- a complete definition came before `p`, and it stays
    have : r.complete = true := by simpa using List.find?_some firstComplete
    simp [preferred, this]
  | none =>
    -- none came complete, so the first stays unless `p` is complete
    cases named with
    | nil => cases complete : p.complete <;> simp [complete]
    | cons q qs =>
      have : q.complete = false := by simpa using List.find?_eq_none.1 firstComplete q (by simp)
      cases complete : p.complete <;> simp [preferred, this, complete]

/-- The protocols `ps` of a model record the definitions `added` to it, in order: one entry per
name, in order of first arrival, each the definition that `chosen` picks. -/
structure Indexed (ps added : List Protocol) : Prop where
  names : ps.map (·.name) = (added.map (·.name)).eraseDups
  nodup : (ps.map (·.name)).Nodup
  find : ∀ n, ps.find? (·.name == n) = chosen added n

theorem indexed_nil : Indexed [] [] :=
  ⟨rfl, List.nodup_nil, fun _ => rfl⟩

theorem Indexed.insertInto {ps added : List Protocol} (indexed : Indexed ps added) (p : Protocol) :
    Indexed (p.insertInto ps) (added ++ [p]) := by
  have known : p.name ∈ ps.map (·.name) ↔ p.name ∈ added.map (·.name) := by
    rw [indexed.names, List.mem_eraseDups]
  constructor
  next =>
    rw [map_name_insertInto, List.map_append, List.eraseDups_append, ← indexed.names]
    by_cases seen : p.name ∈ added.map (·.name)
    next =>
      have gone : ([p].map (·.name)).removeAll (added.map (·.name)) = [] := by
        simpa [List.removeAll] using seen
      rw [if_pos (known.2 seen), gone, List.eraseDups_nil]
    next =>
      have kept : ([p].map (·.name)).removeAll (added.map (·.name)) = [p.name] := by
        simpa [List.removeAll] using seen
      rw [if_neg (mt known.1 seen), kept]
      simp [List.eraseDups_cons]
  next =>
    rw [map_name_insertInto]
    split
    next => simpa using indexed.nodup
    next fresh => exact indexed.nodup.append (List.nodup_singleton _) (by simpa using fresh)
  next =>
    intro n
    by_cases same : p.name = n
    next =>
      subst same
      rw [find?_insertInto_self, chosen_append_self, indexed.find]
    next => rw [find?_insertInto_of_ne same, chosen_append_of_ne same, indexed.find]

theorem chosen_isSome_iff (added : List Protocol) (n : String) :
    (chosen added n).isSome ↔ ∃ p ∈ added, p.name = n := by
  cases named : added.filter (·.name == n) with
  | nil =>
    have absent := List.filter_eq_nil_iff.1 named
    simp only [chosen, named, List.find?_nil, List.head?_nil, Option.or_none, Option.isSome_none,
      Bool.false_eq_true, false_iff, not_exists, not_and]
    intro p mem same
    exact absent p mem (by simp [same])
  | cons q qs =>
    have present : q ∈ added ∧ q.name = n := by
      simpa using (List.mem_filter.1 (named ▸ List.mem_cons_self : q ∈ added.filter (·.name == n)))
    cases (q :: qs).find? (·.complete) <;> simpa [chosen, named] using ⟨q, present⟩

end Protocol

namespace ObjectModel

/-- The indexes are in step with the lists: each name is bound to the position of the first entry
of that name, and to nothing when no entry has it. -/
structure Consistent (m : ObjectModel) : Prop where
  classes : ∀ n, m.classIndex.lookup n = m.classes.findIdx? (·.name == n)
  protocols : ∀ n, m.protocolIndex.lookup n = m.protocols.findIdx? (·.name == n)

section Consistent

variable {m : ObjectModel}

theorem mem_addProtocol {p q : Protocol} (mem : q ∈ (m.addProtocol p).protocols) :
    q ∈ m.protocols ∨ q = p := by
  simp only [addProtocol] at mem
  cases known : m.protocolIndex.lookup p.name with
  | none =>
    simp only [known, List.mem_append, List.mem_singleton] at mem
    exact mem
  | some i =>
    simp only [known] at mem
    split at mem
    next => exact List.mem_or_eq_of_mem_set mem
    next => exact .inl mem

theorem Consistent.findClass?_eq (consistent : m.Consistent) (n : String) :
    m.findClass? n = m.classes.find? (·.name == n) := by
  rw [findClass?, consistent.classes, List.find?_eq_bind_findIdx?_getElem?]

theorem Consistent.findProtocol?_eq (consistent : m.Consistent) (n : String) :
    m.findProtocol? n = m.protocols.find? (·.name == n) := by
  rw [findProtocol?, consistent.protocols, List.find?_eq_bind_findIdx?_getElem?]

theorem lookup_cons_fresh {α : Type} {name : α → String} {index : List (String × Nat)} {l : List α}
    {a : α} (agree : ∀ n, index.lookup n = l.findIdx? (name · == n))
    (fresh : l.findIdx? (name · == name a) = none) (n : String) :
    ((name a, l.length) :: index).lookup n = (l ++ [a]).findIdx? (name · == n) := by
  rw [List.findIdx?_append, List.lookup_cons, agree]
  by_cases same : n = name a
  next =>
    subst same
    simp [fresh]
  next =>
    have other : (name a == n) = false := beq_false_of_ne (Ne.symm same)
    simp [beq_false_of_ne same, other]

theorem Consistent.pushClass (consistent : m.Consistent) (c : ObjcClass) : (m.pushClass c).Consistent := by
  refine ⟨fun n => ?_, consistent.protocols⟩
  cases known : m.classIndex.lookup c.name with
  | none =>
    have fresh : m.classes.findIdx? (·.name == c.name) = none := by rw [← consistent.classes, known]
    simpa [ObjectModel.pushClass, known] using lookup_cons_fresh consistent.classes fresh n
  | some i =>
    -- the name already has its first class, so the pushed one is never the first of its name
    have seen : (m.classes.findIdx? (·.name == c.name)).isSome := by rw [← consistent.classes, known]; rfl
    simp only [ObjectModel.pushClass, known, List.findIdx?_append, ← consistent.classes]
    by_cases same : c.name = n
    next =>
      subst same
      rw [consistent.classes] at known ⊢
      simp [known]
    next => simp [same]

theorem Consistent.pushCategory (consistent : m.Consistent) (c : Category) :
    (m.pushCategory c).Consistent :=
  ⟨consistent.classes, consistent.protocols⟩

theorem Consistent.pushDiagnostic (consistent : m.Consistent) (d : Diagnostic) :
    (m.pushDiagnostic d).Consistent :=
  ⟨consistent.classes, consistent.protocols⟩

theorem addProtocol_protocols (consistent : m.Consistent) (p : Protocol) :
    (m.addProtocol p).protocols = p.insertInto m.protocols := by
  have agree := consistent.protocols p.name
  cases found : m.protocols.findIdx? (·.name == p.name) with
  | none =>
    rw [found] at agree
    simp only [addProtocol, agree]
    exact (Protocol.insertInto_of_findIdx?_eq_none found).symm
  | some i =>
    rw [found] at agree
    simp only [addProtocol, agree]
    exact (Protocol.insertInto_of_findIdx?_eq_some found).symm

theorem findIdx?_set_same_name {ps : List Protocol} {i : Nat} {p : Protocol}
    (found : ps.findIdx? (·.name == p.name) = some i) (n : String) :
    (ps.set i p).findIdx? (·.name == n) = ps.findIdx? (·.name == n) := by
  obtain ⟨within, named, -⟩ := List.findIdx?_eq_some_iff_getElem.1 found
  have atI : (ps.map (·.name))[i]? = some p.name := by simp [within, by simpa using named]
  have names : (ps.set i p).map (·.name) = ps.map (·.name) := by
    rw [List.map_set]
    apply List.ext_getElem?
    intro j
    rw [List.getElem?_set]
    by_cases same : i = j
    next =>
      subst same
      rw [atI]
      simp [within]
    next => rw [if_neg same]
  have search : ∀ l : List Protocol, l.findIdx? (·.name == n) = (l.map (·.name)).findIdx? (· == n) :=
    fun l => by rw [List.findIdx?_map]; rfl
  rw [search, names, ← search]

theorem Consistent.addProtocol (consistent : m.Consistent) (p : Protocol) :
    (m.addProtocol p).Consistent := by
  refine ⟨consistent.classes, fun n => ?_⟩
  have agree := consistent.protocols p.name
  cases found : m.protocols.findIdx? (·.name == p.name) with
  | none =>
    rw [found] at agree
    simpa [ObjectModel.addProtocol, agree] using lookup_cons_fresh consistent.protocols found n
  | some i =>
    -- the index is kept, and a replacement goes where the name already was
    rw [found] at agree
    simp only [ObjectModel.addProtocol, agree, consistent.protocols n]
    split
    next => rw [findIdx?_set_same_name found]
    next => rfl

theorem Consistent.perform (consistent : m.Consistent) : ∀ call, (m.perform call).Consistent
  | .pushClass c => consistent.pushClass c
  | .pushCategory c => consistent.pushCategory c
  | .addProtocol p => consistent.addProtocol p
  | .pushDiagnostic d => consistent.pushDiagnostic d

theorem Consistent.replay (consistent : m.Consistent) (calls : List ModelCall) :
    (m.replay calls).Consistent := by
  induction calls generalizing m with
  | nil => exact consistent
  | cons call calls ih => exact ih (consistent.perform call)

end Consistent

theorem consistent_empty (arch : Architecture) : ({ arch } : ObjectModel).Consistent :=
  ⟨fun _ => rfl, fun _ => rfl⟩

theorem replay_classes (m : ObjectModel) (calls : List ModelCall) :
    (m.replay calls).classes = m.classes ++ calls.filterMap ModelCall.pushedClass? := by
  induction calls generalizing m with
  | nil => simp [replay]
  | cons call calls ih =>
    cases call <;> simp [replay, perform, pushClass, pushCategory, addProtocol, pushDiagnostic,
      ModelCall.pushedClass?, List.filterMap_cons] at ih ⊢ <;> simp [ih]

theorem replay_protocols {m : ObjectModel} {added : List Protocol} (consistent : m.Consistent)
    (indexed : Protocol.Indexed m.protocols added) (calls : List ModelCall) :
    Protocol.Indexed (m.replay calls).protocols (added ++ calls.filterMap ModelCall.addedProtocol?) := by
  induction calls generalizing m added with
  | nil => simpa [replay] using indexed
  | cons call calls ih =>
    -- each call keeps the index; only adding a protocol extends its history
    cases call with
    | addProtocol p =>
      have inserted := addProtocol_protocols consistent p ▸ indexed.insertInto p
      have next := ih (consistent.addProtocol p) inserted
      simpa [replay, perform, ModelCall.addedProtocol?, List.filterMap_cons] using next
    | pushClass c =>
      simpa [replay, perform, ModelCall.addedProtocol?, List.filterMap_cons] using
        ih (consistent.pushClass c) indexed
    | pushCategory c =>
      simpa [replay, perform, ModelCall.addedProtocol?, List.filterMap_cons] using
        ih (consistent.pushCategory c) indexed
    | pushDiagnostic d =>
      simpa [replay, perform, ModelCall.addedProtocol?, List.filterMap_cons] using
        ih (consistent.pushDiagnostic d) indexed

/-- After any sequence of calls on an empty model: both indexes are in step with their lists; the
protocols have distinct names, in the order in which each name was first added; the protocol of a
name exists exactly when one of that name was added, and it is the first complete definition of
that name, or the first one when none was complete; the classes are the pushed classes, and the
class of a name is the first pushed one. -/
theorem replay_index (arch : Architecture) (calls : List ModelCall) :
    let m := ObjectModel.replay { arch } calls
    let added := calls.filterMap ModelCall.addedProtocol?
    let pushed := calls.filterMap ModelCall.pushedClass?
    (∀ n, m.classIndex.lookup n = m.classes.findIdx? (·.name == n)) ∧
      (∀ n, m.protocolIndex.lookup n = m.protocols.findIdx? (·.name == n)) ∧
      (m.protocols.map (·.name)).Nodup ∧
      m.protocols.map (·.name) = (added.map (·.name)).eraseDups ∧
      (∀ n, (m.findProtocol? n).isSome ↔ ∃ p ∈ added, p.name = n) ∧
      (∀ n, m.findProtocol? n = Protocol.chosen added n) ∧
      m.classes = pushed ∧
      ∀ n, m.findClass? n = pushed.find? (·.name == n) := by
  intro m added pushed
  have consistent : m.Consistent := (consistent_empty arch).replay calls
  have indexed : Protocol.Indexed m.protocols added := by
    simpa using replay_protocols (consistent_empty arch) Protocol.indexed_nil calls
  have classes : m.classes = pushed := by simpa using replay_classes { arch } calls
  have found : ∀ n, m.findProtocol? n = Protocol.chosen added n := fun n => by
    rw [consistent.findProtocol?_eq, indexed.find]
  refine ⟨consistent.classes, consistent.protocols, indexed.nodup, indexed.names, fun n => ?_, found,
    classes, fun n => ?_⟩
  · rw [found, Protocol.chosen_isSome_iff]
  · rw [consistent.findClass?_eq, classes]

end ObjectModel

section Walk

open Metadata

theorem initialModel_consistent (img : MachImage) : (initialModel img).Consistent := by
  unfold initialModel
  dsimp only
  split <;> split <;> (try split) <;> exact ⟨fun _ => rfl, fun _ => rfl⟩

theorem walk_consistent {img : MachImage} {policy : ListPolicy} {m : ObjectModel}
    (walked : walk img policy = .ok (.ok m)) : m.Consistent := by
  unfold walk at walked
  split at walked
  next => cases walked
  next protocols classes categories _ =>
    dsimp only at walked
    generalize ranEq : StateT.run _ _ = ran at walked
    cases ran with
    | error f => cases walked
    | ok result =>
      obtain ⟨_, s⟩ := result
      simp only [Except.map, Except.ok.injEq] at walked
      subst walked
      -- every change a step makes to the model is one of the four calls
      have stable : Stable img fun s => s.model.Consistent :=
        ⟨fun _ _ _ _ _ _ kept => kept, fun _ _ _ _ _ _ kept => kept, fun _ p kept => kept.addProtocol p⟩
      have steps := walkSteps_preserves policy stable.nameClass
        (protocolAt_preserves stable policy (protocolFuel img)) (fun _ d kept => kept.pushDiagnostic d)
        (fun _ _ _ kept => kept.addProtocol _) (fun _ c kept => kept.pushClass c)
        (fun _ c kept => kept.pushCategory c) protocols classes categories
        ((initialModel img).imageInfo.any (·.hasCategoryClassProperties))
      exact (steps _ (initialModel_consistent img)).1 _ s ranEq

end Walk

end ObjcImage
