import Mathlib
import ObjcImage.Runtime.Walk

set_option autoImplicit false

/-!
What reading a list of an entity notes, and how the list policy changes what it reads. A list
reading looks at no selector of the notes but those of its own scope.
-/

namespace ObjcImage

namespace Notes

def append (n k : Notes) : Notes := ⟨n.diagnostics ++ k.diagnostics, n.selectors ++ k.selectors⟩

@[simp] theorem append_empty (n : Notes) : n.append {} = n := by simp [append]
@[simp] theorem empty_append (k : Notes) : ({} : Notes).append k = k := by simp [append]
theorem append_assoc (n k l : Notes) : (n.append k).append l = n.append (k.append l) := by simp [append]

end Notes

namespace Reading

variable {α β : Type}

/-- The reading `r` looks at no selector of the notes but those of `scope`, and adds none but
those: after notes with no selector of `scope` it runs as it runs without them, leaving them in
front of what it notes. A scope of `none` is a reading that never looks at selectors. -/
def Local (scope : Option Bool) (r : Reading α) : Prop :=
  (∀ n k : Notes, (∀ p ∈ n.selectors, some p.2 ≠ scope) → r.run (n.append k) = ((r.run k).1, n.append (r.run k).2)) ∧
    ∀ k : Notes, ∃ added, (r.run k).2.selectors = k.selectors ++ added ∧ ∀ p ∈ added, some p.2 = scope

variable {scope : Option Bool}

theorem run_bind (x : Reading α) (f : α → Reading β) (n : Notes) :
    (x >>= f).run n = (f (x.run n).1).run (x.run n).2 := rfl

@[simp] theorem run_pure (a : α) (n : Notes) : (Pure.pure a : Reading α).run n = (a, n) := rfl

@[simp] theorem run_note (d : Diagnostic) (n : Notes) :
    (note d : Reading Unit).run n = ((), { n with diagnostics := n.diagnostics ++ [d] }) := rfl

@[simp] theorem run_modify (g : Notes → Notes) (n : Notes) :
    (modify g : Reading Unit).run n = ((), g n) := rfl

theorem Local.pure (a : α) : Local scope (Pure.pure a : Reading α) :=
  ⟨fun _ _ _ => rfl, fun k => ⟨[], by simp only [run_pure, List.append_nil], by simp⟩⟩

theorem Local.bind {x : Reading α} {f : α → Reading β} (first : Local scope x)
    (rest : ∀ a, Local scope (f a)) : Local scope (x >>= f) := by
  constructor
  · intro n k fresh
    have step₁ := first.1 n k fresh
    have step₂ := (rest (x.run k).1).1 n (x.run k).2 fresh
    simp only [StateT.run_bind] at step₁ step₂ ⊢
    rw [step₁]
    exact step₂
  · intro k
    obtain ⟨added₁, sel₁, scope₁⟩ := first.2 k
    obtain ⟨added₂, sel₂, scope₂⟩ := (rest (x.run k).1).2 (x.run k).2
    refine ⟨added₁ ++ added₂, ?_, ?_⟩
    · simp only [StateT.run_bind]
      show ((f (x.run k).1).run (x.run k).2).2.selectors = _
      rw [sel₂, sel₁, List.append_assoc]
    · intro p mem
      rcases List.mem_append.1 mem with mem | mem
      · exact scope₁ p mem
      · exact scope₂ p mem

theorem Local.note (d : Diagnostic) : Local scope (note d : Reading Unit) :=
  ⟨fun n k _ => by simp only [run_note, Notes.append, List.append_assoc],
    fun k => ⟨[], by simp only [run_note, List.append_nil], by simp⟩⟩

theorem Local.addSelector (selector : String) (isClass : Bool) :
    Local (some isClass)
      (modify fun n : Notes => { n with selectors := n.selectors ++ [(selector, isClass)] }) :=
  ⟨fun n k _ => by simp only [run_modify, Notes.append, List.append_assoc],
    fun k => ⟨[(selector, isClass)], by simp only [run_modify], by simp⟩⟩

theorem Local.mono {r : Reading α} (local_ : Local none r) : Local scope r := by
  refine ⟨fun n k _ => local_.1 n k fun p _ => by simp, fun k => ?_⟩
  obtain ⟨added, sel, none_⟩ := local_.2 k
  refine ⟨added, sel, fun p mem => ?_⟩
  cases none_ p mem

theorem Local.filterMapM {l : List α} {f : α → Reading (Option β)} (each : ∀ a ∈ l, Local scope (f a)) :
    Local scope (l.filterMapM f) := by
  induction l with
  | nil => exact Local.pure []
  | cons a l ih =>
    rw [List.filterMapM_cons]
    refine Local.bind (each a List.mem_cons_self) fun b? => ?_
    have rest := ih fun b mem => each b (List.mem_cons_of_mem a mem)
    cases b? with
    | none => exact rest
    | some b => exact Local.bind rest fun bs => Local.pure (b :: bs)

theorem Local.foldlM {l : List α} {f : β → α → Reading β} (each : ∀ b, ∀ a ∈ l, Local scope (f b a)) (init : β) :
    Local scope (l.foldlM f init) := by
  induction l generalizing init with
  | nil => exact Local.pure init
  | cons a l ih =>
    rw [List.foldlM_cons]
    exact Local.bind (each init a List.mem_cons_self) fun b =>
      ih (fun b' a' mem => each b' a' (List.mem_cons_of_mem a mem)) b

theorem Local.map {r : Reading α} (g : α → β) (local_ : Local scope r) : Local scope (g <$> r) := by
  refine ⟨fun n k fresh => ?_, fun k => ?_⟩
  · simp only [StateT.run_map, local_.1 n k fresh]
    rfl
  · obtain ⟨added, sel, inScope⟩ := local_.2 k
    exact ⟨added, sel, inScope⟩

theorem Local.get_bind {c : Bool} {f : Notes → Reading α} (each : ∀ n, Local (some c) (f n))
    (sees : ∀ n k : Notes, (∀ p ∈ n.selectors, some p.2 ≠ some c) → f (n.append k) = f k) :
    Local (some c) (get >>= f) := by
  refine ⟨fun n k fresh => ?_, fun k => (each k).2 k⟩
  show (f (n.append k)).run (n.append k) = (((f k).run k).1, n.append ((f k).run k).2)
  rw [sees n k fresh]
  exact (each k).1 n k fresh

end Reading

namespace Metadata

open Reading

variable (img : MachImage) (policy : ListPolicy)

theorem listAddress_local (value : SlotValue) : Local none (listAddress value) := by
  cases value with
  | value address => exact Local.pure _
  | null => exact Local.pure _
  | bind symbol => exact Local.bind (Local.note _) fun _ => Local.pure _

theorem listEntries_local (list : ListKind) (first count entsize : Nat) :
    Local none (listEntries img policy list first count entsize) := by
  unfold listEntries
  dsimp only
  split
  next =>
    refine Local.bind (Local.note _) fun _ => ?_
    split
    next => exact Local.pure _
    next => exact Local.pure _
  next => exact Local.pure _

theorem methodOf_local (selector : String) (encoding : Except ImageError String) (isClass : Bool)
    (imp : Option Nat) (entry : Nat) : Local none (methodOf selector encoding isClass imp entry) := by
  unfold methodOf
  split
  next => exact Local.bind (Local.note _) fun _ => Local.pure _
  next =>
    split
    next => exact Local.pure _
    next => exact Local.bind (Local.note _) fun _ => Local.pure _

theorem readMethod_local (small isClass : Bool) (extended : Option Nat) (index entry : Nat) :
    Local (some isClass) (readMethod img small isClass extended index entry) := by
  unfold readMethod
  split
  next => exact Local.bind (Local.note _) fun _ => Local.pure _
  next raw _ =>
    split
    next => exact Local.bind (Local.note _) fun _ => Local.pure _
    next selector _ =>
      dsimp only
      refine Local.get_bind (fun n => ?_) fun n k fresh => ?_
      · split
        next => exact Local.bind (Local.note _) fun _ => Local.pure _
        next =>
          exact Local.bind (Local.addSelector _ _) fun _ => Local.map _ (methodOf_local _ _ _ _ _).mono
      · -- the selector's own scope is all the duplicate check looks at
        have unseen : (selector, isClass) ∉ n.selectors := fun mem => fresh _ mem rfl
        have same : (n.append k).selectors.contains (selector, isClass) =
            k.selectors.contains (selector, isClass) := by
          simp [Notes.append, unseen]
        simp only [same]

theorem methodList_local (value : SlotValue) (isClass : Bool) (extended : Option Nat) :
    Local (some isClass) (methodList img policy value isClass extended) := by
  unfold methodList
  refine Local.bind (listAddress_local value).mono fun list? => ?_
  split
  next list =>
    split
    next => exact Local.bind (Local.note _) fun _ => Local.pure _
    next header _ =>
      dsimp only
      split
      next => exact Local.bind (Local.note _) fun _ => Local.pure _
      next =>
        refine Local.bind (listEntries_local img policy _ _ _ _).mono fun entries => ?_
        exact Local.bind (Local.filterMapM fun _ _ => readMethod_local img _ _ _ _ _) fun _ => Local.pure _
  next => exact Local.pure _

theorem readIvar_local (previous : Option Nat) (entry : Nat) :
    Local none (readIvar img previous entry) := by
  unfold readIvar
  split
  next => exact Local.bind (Local.note _) fun _ => Local.pure _
  next raw _ =>
    split
    next => exact Local.bind (Local.note _) fun _ => Local.pure _
    next name _ =>
      -- each join point of the reading is local; the branches before it only note
      extract_lets afterEncoding
      have encodingLocal : ∀ encoding, Local none (afterEncoding encoding) := by
        intro encoding
        simp -zeta only [afterEncoding]
        extract_lets afterOffset
        have offsetLocal : ∀ offset, Local none (afterOffset offset) := by
          intro offset
          simp -zeta only [afterOffset]
          extract_lets afterType afterOrder
          have typeLocal : ∀ t, Local none (afterType t) := fun _ => Local.pure _
          have orderLocal : ∀ u, Local none (afterOrder u) := by
            intro u
            simp -zeta only [afterOrder]
            split
            next => exact Local.bind (Local.pure _) typeLocal
            next => exact Local.bind (Local.note _) fun _ => Local.bind (Local.pure _) typeLocal
          split
          next =>
            split
            next =>
              split
              next => exact Local.bind (Local.note _) orderLocal
              next => exact orderLocal ()
            next => exact orderLocal ()
          next => exact orderLocal ()
        split
        next =>
          split
          next => exact Local.bind (Local.pure _) offsetLocal
          next => exact Local.bind (Local.note _) fun _ => Local.bind (Local.pure _) offsetLocal
        next => exact Local.bind (Local.pure _) offsetLocal
      split
      next => exact Local.bind (Local.pure _) encodingLocal
      next =>
        split
        next => exact Local.bind (Local.pure _) encodingLocal
        next => exact Local.bind (Local.note _) fun _ => Local.bind (Local.pure _) encodingLocal

theorem ivarList_local (value : SlotValue) : Local none (ivarList img policy value) := by
  unfold ivarList
  refine Local.bind (listAddress_local value) fun list? => ?_
  split
  next list =>
    split
    next => exact Local.bind (Local.note _) fun _ => Local.pure _
    next header _ =>
      split
      next => exact Local.bind (Local.note _) fun _ => Local.pure _
      next =>
        refine Local.bind (listEntries_local img policy _ _ _ _) fun entries => ?_
        refine Local.foldlM (fun ivars entry _ => ?_) []
        refine Local.bind (readIvar_local img _ _) fun ivar? => ?_
        split
        next => exact Local.pure _
        next => exact Local.pure _
  next => exact Local.pure _

theorem propertyList_local (value : SlotValue) (isClass : Bool) :
    Local none (propertyList img policy value isClass) := by
  unfold propertyList
  refine Local.bind (listAddress_local value) fun list? => ?_
  split
  next list =>
    split
    next => exact Local.bind (Local.note _) fun _ => Local.pure _
    next header _ =>
      dsimp only
      split
      next => exact Local.bind (Local.note _) fun _ => Local.pure _
      next =>
        refine Local.bind (listEntries_local img policy _ _ _ _) fun entries => ?_
        refine Local.filterMapM fun entry _ => ?_
        split
        next =>
          split
          next => exact Local.bind (Local.note _) fun _ => Local.pure _
          next => exact Local.pure _
        next => exact Local.bind (Local.note _) fun _ => Local.pure _
  next => exact Local.pure _

/-- A list read under the strict policy against the same list read under salvage: the same, or
empty with a note among `diagnostics` that a list of that kind was cut short. -/
def ListAgrees {α : Type} (kind : ListKind) (diagnostics : List Diagnostic) (strict salvage : List α) :
    Prop :=
  strict = salvage ∨ strict = [] ∧
    ∃ address declared readable, ⟨address, .truncatedList kind declared readable .strict⟩ ∈ diagnostics

theorem ListAgrees.mono {α : Type} {kind : ListKind} {ds ds' : List Diagnostic} {strict salvage : List α}
    (agrees : ListAgrees kind ds strict salvage) (sub : ∀ d ∈ ds, d ∈ ds') :
    ListAgrees kind ds' strict salvage := by
  rcases agrees with same | ⟨empty, address, declared, readable, noted⟩
  · exact .inl same
  · exact .inr ⟨empty, address, declared, readable, sub _ noted⟩

section Policies

variable (list : ListKind) (first count entsize : Nat)

theorem listEntries_of_not_lt (whole : ¬ mappedRun img first entsize 0 count < count) :
    listEntries img policy list first count entsize =
      Pure.pure ((List.range (mappedRun img first entsize 0 count)).map fun i => first + i * entsize) := by
  simp only [listEntries, whole, if_false]

theorem run_listEntries_strict_of_lt (cut : mappedRun img first entsize 0 count < count) (n : Notes) :
    (listEntries img .strict list first count entsize).run n =
      ([], { n with diagnostics := n.diagnostics ++
        [⟨some first, .truncatedList list count (mappedRun img first entsize 0 count) .strict⟩] }) := by
  simp only [listEntries, cut, if_true]
  rfl

theorem listEntries_bind_agrees {β γ : Type} (g : List Nat → Reading β) (out : β → List γ) {b : β}
    (nothing : ∀ n, (g []).run n = (b, n)) (empty : out b = []) (n : Notes) :
    ListAgrees list ((listEntries img .strict list first count entsize >>= g).run n).2.diagnostics
      (out ((listEntries img .strict list first count entsize >>= g).run n).1)
      (out ((listEntries img .salvage list first count entsize >>= g).run n).1) := by
  by_cases cut : mappedRun img first entsize 0 count < count
  · right
    rw [run_bind, run_listEntries_strict_of_lt img list _ _ _ cut, nothing]
    exact ⟨empty, _, _, _, List.mem_append_right _ (List.mem_singleton_self _)⟩
  · left
    rw [listEntries_of_not_lt img .strict list _ _ _ cut, listEntries_of_not_lt img .salvage list _ _ _ cut]

end Policies

theorem methodList_policies (value : SlotValue) (isClass : Bool) (extended : Option Nat) (n : Notes) :
    ListAgrees .method ((methodList img .strict value isClass extended).run n).2.diagnostics
      ((methodList img .strict value isClass extended).run n).1.1
      ((methodList img .salvage value isClass extended).run n).1.1 := by
  unfold methodList
  rw [run_bind, run_bind]
  -- the list's address and header are read alike under both policies
  generalize (listAddress value).run n = located
  obtain ⟨list?, n₁⟩ := located
  cases list? with
  | none => exact .inl rfl
  | some list =>
    dsimp only
    cases ListHeader.read img list with
    | error e => exact .inl rfl
    | ok header =>
      dsimp only
      by_cases small : header.entsize < methodEntrySize img.arch.pointerWidth header.isSmall
      · simp only [small, if_true]
        exact .inl rfl
      · simp only [small, if_false]
        exact listEntries_bind_agrees img .method _ _ _ _ Prod.fst (by intro; rfl) (by rfl) n₁

theorem ivarList_policies (value : SlotValue) (n : Notes) :
    ListAgrees .ivar ((ivarList img .strict value).run n).2.diagnostics
      ((ivarList img .strict value).run n).1 ((ivarList img .salvage value).run n).1 := by
  unfold ivarList
  rw [run_bind, run_bind]
  generalize (listAddress value).run n = located
  obtain ⟨list?, n₁⟩ := located
  cases list? with
  | none => exact .inl rfl
  | some list =>
    dsimp only
    cases ListHeader.read img list with
    | error e => exact .inl rfl
    | ok header =>
      dsimp only
      by_cases small : header.entsize < ivarEntrySize img.arch.pointerWidth
      · simp only [small, if_true]
        exact .inl rfl
      · simp only [small, if_false]
        exact listEntries_bind_agrees img .ivar _ _ _ _ id (by intro; rfl) (by rfl) n₁

theorem propertyList_policies (value : SlotValue) (isClass : Bool) (n : Notes) :
    ListAgrees .property ((propertyList img .strict value isClass).run n).2.diagnostics
      ((propertyList img .strict value isClass).run n).1
      ((propertyList img .salvage value isClass).run n).1 := by
  unfold propertyList
  rw [run_bind, run_bind]
  generalize (listAddress value).run n = located
  obtain ⟨list?, n₁⟩ := located
  cases list? with
  | none => exact .inl rfl
  | some list =>
    dsimp only
    cases ListHeader.read img list with
    | error e => exact .inl rfl
    | ok header =>
      dsimp only
      by_cases small : header.entsize < propertyEntrySize img.arch.pointerWidth
      · simp only [small, if_true]
        exact .inl rfl
      · simp only [small, if_false]
        exact listEntries_bind_agrees img .property _ _ _ _ id (by intro; rfl) (by rfl) n₁

end Metadata

end ObjcImage
