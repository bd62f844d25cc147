import Mathlib
import ObjcImage.Proofs.Walk.EntitySelectors

set_option autoImplicit false

/-!
Notes that instance variables are out of order. Each ivar kept is compared with the one kept before
it, not the entry read before it; a 32-bit image gets no such note.
-/

namespace ObjcImage

namespace DiagnosticKind

def isIvarOrder : DiagnosticKind → Bool
  | .ivarOrder .. => true
  | _ => false

end DiagnosticKind

def Diagnostic.OrderFree (d : Diagnostic) : Prop := d.kind.isIvarOrder = false

theorem Diagnostic.orderFree_of_isListNote {d : Diagnostic} (listed : d.kind.isListNote = true) :
    d.OrderFree := by
  obtain ⟨_, kind⟩ := d
  cases kind <;> simp_all [DiagnosticKind.isListNote, Diagnostic.OrderFree, DiagnosticKind.isIvarOrder]

def ivarOrderKinds (ds : List Diagnostic) : List DiagnosticKind :=
  (ds.filter (·.kind.isIvarOrder)).map (·.kind)

@[simp] theorem ivarOrderKinds_append (ds ds' : List Diagnostic) :
    ivarOrderKinds (ds ++ ds') = ivarOrderKinds ds ++ ivarOrderKinds ds' := by
  simp [ivarOrderKinds]

theorem ivarOrderKinds_eq_nil {ds : List Diagnostic} (free : ∀ d ∈ ds, d.OrderFree) :
    ivarOrderKinds ds = [] := by
  simp only [ivarOrderKinds, List.map_eq_nil_iff, List.filter_eq_nil_iff]
  intro d mem
  have noOrder : d.kind.isIvarOrder = false := free d mem
  simp [noOrder]

namespace Ivar

def orderNote (ivar : Ivar) (previous : Nat) : Option DiagnosticKind :=
  if ivar.offset < previous then some (.ivarOrder ivar.name ivar.offset previous) else none

end Ivar

def ivarDescents (ivars : List Ivar) : List DiagnosticKind :=
  (ivars.zip ivars.tail).filterMap fun pair => pair.2.orderNote pair.1.offset

def orderNotesOf (is64 : Bool) (ivars : List Ivar) : List DiagnosticKind :=
  if is64 then ivarDescents ivars else []

def orderNotesFor (is64 : Bool) (previous : Option Nat) (read : Option Ivar) : List DiagnosticKind :=
  if is64 then (read.bind fun ivar => previous.bind ivar.orderNote).toList else []

theorem ivarDescents_cons_cons (a b : Ivar) (rest : List Ivar) :
    ivarDescents (a :: b :: rest) = (b.orderNote a.offset).toList ++ ivarDescents (b :: rest) := by
  cases noted : b.orderNote a.offset <;> simp [ivarDescents, noted]

theorem ivarDescents_concat : ∀ (kept : List Ivar) (ivar : Ivar),
    ivarDescents (kept ++ [ivar]) =
      ivarDescents kept ++ ((kept.getLast?.map (·.offset)).bind ivar.orderNote).toList
  | [], ivar => by simp [ivarDescents]
  | [a], ivar => by cases noted : ivar.orderNote a.offset <;> simp [ivarDescents, noted]
  | a :: b :: rest, ivar => by
    have later := ivarDescents_concat (b :: rest) ivar
    rw [List.cons_append, List.cons_append, ivarDescents_cons_cons, ← List.cons_append, later,
      ivarDescents_cons_cons, List.getLast?_cons_cons, List.append_assoc]

theorem orderNotesOf_concat (is64 : Bool) (kept : List Ivar) (ivar : Ivar) :
    orderNotesOf is64 (kept ++ [ivar]) =
      orderNotesOf is64 kept ++ orderNotesFor is64 (kept.getLast?.map (·.offset)) (some ivar) := by
  cases is64 <;> simp [orderNotesOf, orderNotesFor, ivarDescents_concat]

namespace Reading

variable {α β : Type}

/-- Reading by `r` only adds notes after those it starts from, and what it yields and the kinds of
the ivar order notes among those it adds satisfy `P`. -/
def OrderNotes (P : α → List DiagnosticKind → Prop) (r : Reading α) : Prop :=
  ∀ n : Notes, ∃ ds, (r.run n).2.diagnostics = n.diagnostics ++ ds ∧
    P (r.run n).1 (ivarOrderKinds ds)

section Rules

variable {P : β → List DiagnosticKind → Prop}

theorem OrderNotes.pure {a : β} (holds : P a []) : OrderNotes P (Pure.pure a : Reading β) :=
  fun _ => ⟨[], (List.append_nil _).symm, holds⟩

theorem OrderNotes.mono {P' : β → List DiagnosticKind → Prop} {r : Reading β}
    (spec : OrderNotes P r) (weaker : ∀ b os, P b os → P' b os) : OrderNotes P' r := by
  intro n
  obtain ⟨ds, noted, holds⟩ := spec n
  exact ⟨ds, noted, weaker _ _ holds⟩

theorem OrderNotes.bind {Q : α → List DiagnosticKind → Prop} {x : Reading α} {f : α → Reading β}
    (first : OrderNotes Q x)
    (rest : ∀ a os, Q a os → OrderNotes (fun b os' => P b (os ++ os')) (f a)) :
    OrderNotes P (x >>= f) := by
  intro n
  obtain ⟨ds₁, noted₁, holds₁⟩ := first n
  obtain ⟨ds₂, noted₂, holds₂⟩ := rest _ _ holds₁ (x.run n).2
  refine ⟨ds₁ ++ ds₂, ?_, ?_⟩
  · rw [run_bind, noted₂, noted₁, List.append_assoc]
  · rw [run_bind, ivarOrderKinds_append]
    exact holds₂

theorem OrderNotes.of_notesOnly {r : Reading β} (free : NotesOnly Diagnostic.OrderFree r) :
    OrderNotes (fun _ os => os = []) r := by
  intro n
  obtain ⟨ds, noted, holds⟩ := free n
  exact ⟨ds, noted, ivarOrderKinds_eq_nil holds⟩

theorem OrderNotes.free_bind {x : Reading α} {f : α → Reading β}
    (free : NotesOnly Diagnostic.OrderFree x) (rest : ∀ a, OrderNotes P (f a)) :
    OrderNotes P (x >>= f) :=
  OrderNotes.bind (OrderNotes.of_notesOnly free) fun a os quiet => by
    subst quiet
    simpa using rest a

theorem OrderNotes.note (d : Diagnostic) :
    OrderNotes (fun _ os => os = ivarOrderKinds [d]) (note d : Reading Unit) :=
  fun n => ⟨[d], by simp, rfl⟩

theorem OrderNotes.foldlM {γ : Type} (calls : γ → List DiagnosticKind) {l : List α}
    {f : γ → α → Reading γ} (step : ∀ b a, OrderNotes (fun b' os => calls b' = calls b ++ os) (f b a))
    (init : γ) : OrderNotes (fun b os => calls b = calls init ++ os) (l.foldlM f init) := by
  induction l generalizing init with
  | nil => exact OrderNotes.pure (by simp)
  | cons a l ih =>
    rw [List.foldlM_cons]
    refine OrderNotes.bind (step init a) fun b os grown => (ih b).mono fun b' os' later => ?_
    rw [later, grown, List.append_assoc]

end Rules

theorem OrderNotes.run_empty {P : β → List DiagnosticKind → Prop} {r : Reading β}
    (spec : OrderNotes P r) : P (r.run {}).1 (ivarOrderKinds (r.run {}).2.diagnostics) := by
  obtain ⟨ds, noted, holds⟩ := spec {}
  rw [noted]
  simpa using holds

end Reading

namespace Metadata

open Reading

variable (img : MachImage) (policy : ListPolicy)

/-! ### Lists other than ivar lists -/

theorem readMethod_orderFree (small isClass : Bool) (extended : Option Nat) (index entry : Nat) :
    NotesOnly Diagnostic.OrderFree (readMethod img small isClass extended index entry) := by
  unfold readMethod
  split
  next => exact NotesOnly.bind (NotesOnly.note rfl) fun _ => NotesOnly.pure _
  next raw _ =>
    split
    next => exact NotesOnly.bind (NotesOnly.note rfl) fun _ => NotesOnly.pure _
    next selector _ =>
      refine NotesOnly.get_bind fun n => ?_
      split
      next => exact NotesOnly.bind (NotesOnly.note rfl) fun _ => NotesOnly.pure _
      next =>
        refine NotesOnly.bind (NotesOnly.addSelector _) fun _ => NotesOnly.map _ ?_
        exact methodOf_notesOnly (fun _ => Diagnostic.orderFree_of_isListNote) _ _ _ _ _

theorem methodList_orderFree (value : SlotValue) (isClass : Bool) (extended : Option Nat) :
    NotesOnly Diagnostic.OrderFree (methodList img policy value isClass extended) := by
  unfold methodList
  refine NotesOnly.bind (listAddress_notesOnly (fun _ => Diagnostic.orderFree_of_isListNote) value)
    fun list? => ?_
  split
  next list =>
    split
    next => exact NotesOnly.bind (NotesOnly.note rfl) fun _ => NotesOnly.pure _
    next header _ =>
      dsimp only
      split
      next => exact NotesOnly.bind (NotesOnly.note rfl) fun _ => NotesOnly.pure _
      next =>
        refine NotesOnly.bind (listEntries_notesOnly img policy
          (fun _ => Diagnostic.orderFree_of_isListNote) _ _ _ _) fun entries => ?_
        refine NotesOnly.bind (NotesOnly.filterMapM fun pair _ => ?_) fun _ => NotesOnly.pure _
        obtain ⟨entry, index⟩ := pair
        exact readMethod_orderFree img _ _ _ _ _
  next => exact NotesOnly.pure _

theorem metaclassPart_orderFree (address : Nat) (record : ClassRecord) :
    NotesOnly Diagnostic.OrderFree (metaclassPart img policy address record) := by
  unfold metaclassPart
  split
  next metaData _ =>
    refine NotesOnly.bind (methodList_orderFree img policy _ _ _) fun listed => ?_
    obtain ⟨methods, _⟩ := listed
    exact NotesOnly.bind (propertyList_notesOnly img policy
      (fun _ => Diagnostic.orderFree_of_isListNote) _ _) fun _ => NotesOnly.pure _
  next => exact NotesOnly.pure _
  next => exact NotesOnly.bind (NotesOnly.note rfl) fun _ => NotesOnly.pure _

/-! ### Ivar lists -/

theorem readIvar_orderNotes (previous : Option Nat) (entry : Nat) :
    OrderNotes (fun read os => os = orderNotesFor img.arch.is64 previous read)
      (readIvar img previous entry) := by
  unfold readIvar
  split
  next =>
    exact OrderNotes.free_bind (NotesOnly.note rfl) fun _ => OrderNotes.pure (by simp [orderNotesFor])
  next raw _ =>
    split
    next =>
      exact OrderNotes.free_bind (NotesOnly.note rfl) fun _ => OrderNotes.pure (by simp [orderNotesFor])
    next name _ =>
      -- the join points after the type string and after the offset, as in `readIvar_local`
      extract_lets afterEncoding
      have encodingOrders : ∀ encoding, OrderNotes
          (fun read os => os = orderNotesFor img.arch.is64 previous read) (afterEncoding encoding) := by
        intro encoding
        simp -zeta only [afterEncoding]
        extract_lets afterOffset
        have offsetOrders : ∀ offset, OrderNotes
            (fun read os => os = orderNotesFor img.arch.is64 previous read) (afterOffset offset) := by
          intro offset
          simp -zeta only [afterOffset]
          extract_lets afterType afterOrder
          -- past the comparison, the reading notes no order and yields an ivar of that name and offset
          have made : ∀ u, OrderNotes (fun read os => os = [] ∧
              ∃ ivar, read = some ivar ∧ ivar.name = name ∧ ivar.offset = offset) (afterOrder u) := by
            intro u
            simp -zeta only [afterOrder]
            split
            next => exact OrderNotes.free_bind (NotesOnly.pure _) fun _ =>
              OrderNotes.pure ⟨rfl, _, rfl, rfl, rfl⟩
            next => exact OrderNotes.free_bind (NotesOnly.note rfl) fun _ =>
              OrderNotes.free_bind (NotesOnly.pure _) fun _ => OrderNotes.pure ⟨rfl, _, rfl, rfl, rfl⟩
          split
          next wide =>
            split
            next prev _ =>
              split
              next below =>
                refine OrderNotes.bind (OrderNotes.note _) fun _ os noted => (made ()).mono ?_
                rintro read os' ⟨quiet, ivar, rfl, named, placed⟩
                simp [noted, quiet, orderNotesFor, wide, Ivar.orderNote, named, placed, below,
                  ivarOrderKinds, DiagnosticKind.isIvarOrder]
              next above =>
                refine (made ()).mono ?_
                rintro read os ⟨quiet, ivar, rfl, -, placed⟩
                simp [quiet, orderNotesFor, wide, Ivar.orderNote, placed, above]
            next first =>
              refine (made ()).mono ?_
              rintro read os ⟨quiet, ivar, rfl, -, -⟩
              cases previous with
              | none => simp [quiet, orderNotesFor]
              | some prev => exact absurd rfl (first prev)
          next narrow =>
            refine (made ()).mono ?_
            rintro read os ⟨quiet, ivar, rfl, -, -⟩
            simp [quiet, orderNotesFor, narrow]
        split
        next =>
          split
          next => exact OrderNotes.free_bind (NotesOnly.pure _) offsetOrders
          next => exact OrderNotes.free_bind (NotesOnly.note rfl) fun _ =>
            OrderNotes.free_bind (NotesOnly.pure _) offsetOrders
        next => exact OrderNotes.free_bind (NotesOnly.pure _) offsetOrders
      split
      next => exact OrderNotes.free_bind (NotesOnly.pure _) encodingOrders
      next =>
        split
        next => exact OrderNotes.free_bind (NotesOnly.pure _) encodingOrders
        next => exact OrderNotes.free_bind (NotesOnly.note rfl) fun _ =>
          OrderNotes.free_bind (NotesOnly.pure _) encodingOrders

/-- Reading an ivar list notes exactly the order notes its ivars call for. The fold's invariant is
that the notes so far are those the ivars kept so far call for, each ivar compared with the last
one kept. -/
theorem ivarList_orderNotes (value : SlotValue) :
    OrderNotes (fun ivars os => os = orderNotesOf img.arch.is64 ivars) (ivarList img policy value) := by
  unfold ivarList
  refine OrderNotes.free_bind (listAddress_notesOnly (fun _ => Diagnostic.orderFree_of_isListNote)
    value) fun list? => ?_
  split
  next list =>
    split
    next => exact OrderNotes.free_bind (NotesOnly.note rfl) fun _ =>
      OrderNotes.pure (by simp [orderNotesOf, ivarDescents])
    next header _ =>
      split
      next => exact OrderNotes.free_bind (NotesOnly.note rfl) fun _ =>
        OrderNotes.pure (by simp [orderNotesOf, ivarDescents])
      next =>
        refine OrderNotes.free_bind (listEntries_notesOnly img policy
          (fun _ => Diagnostic.orderFree_of_isListNote) _ _ _ _) fun entries => ?_
        refine (OrderNotes.foldlM (orderNotesOf img.arch.is64) (fun kept entry => ?_) []).mono ?_
        · refine OrderNotes.bind (readIvar_orderNotes img _ _) fun read os noted => ?_
          split
          next ivar => exact OrderNotes.pure (by simp [noted, orderNotesOf_concat])
          next => exact OrderNotes.pure (by simp [noted, orderNotesFor])
        · intro ivars os called
          have empty : orderNotesOf img.arch.is64 [] = [] := by simp [orderNotesOf, ivarDescents]
          rw [empty, List.nil_append] at called
          exact called.symm
  next => exact OrderNotes.pure (by simp [orderNotesOf, ivarDescents])

theorem classOfRecord_orderNotes (address : Nat) (record : ClassRecord) (data : ClassData)
    (name : String) :
    ivarOrderKinds (classOfRecord img policy address record data name).diagnostics =
      orderNotesOf img.arch.is64 (classOfRecord img policy address record data name).ivars := by
  have free : ∀ {β : Type} {r : Reading β}, NotesOnly Diagnostic.OrderFree r →
      ivarOrderKinds (r.run {}).2.diagnostics = [] := fun free =>
    (OrderNotes.of_notesOnly free).run_empty
  have instances := free (methodList_orderFree img policy data.baseMethods false none)
  have protocols := free (protocolRefsReading_notesOnly img policy
    (fun _ => Diagnostic.orderFree_of_isListNote) data.baseProtocols)
  have properties := free (propertyList_notesOnly img policy
    (fun _ => Diagnostic.orderFree_of_isListNote) data.baseProperties false)
  have metaclass := free (metaclassPart_orderFree img policy address record)
  have ivars := (ivarList_orderNotes img policy data.ivars).run_empty
  simp only [classOfRecord, ivarOrderKinds_append, instances, protocols, properties, metaclass,
    ← ivars, List.nil_append, List.append_nil]

theorem classAt_orderNotes (slot : Nat) :
    ivarOrderKinds (classAt img policy slot).diagnostics =
      orderNotesOf img.arch.is64 (classAt img policy slot).ivars := by
  have placeholder : ∀ address d, d.kind.isIvarOrder = false →
      ivarOrderKinds (ObjcClass.placeholderAt address d).diagnostics =
        orderNotesOf img.arch.is64 (ObjcClass.placeholderAt address d).ivars := by
    intro address d invalid
    simp [ObjcClass.placeholderAt, ivarOrderKinds, invalid, orderNotesOf, ivarDescents]
  unfold classAt EntityView.entityFor
  split
  next address _ =>
    split
    next c read =>
      unfold classRead at read
      cases head : classHead img address with
      | error e => simp [head, Except.map] at read
      | ok parts =>
        obtain ⟨record, data, name⟩ := parts
        simp only [head, Except.map, Except.ok.injEq] at read
        subst read
        exact classOfRecord_orderNotes img policy address record data name
    next => exact placeholder _ _ rfl
  next => exact placeholder _ _ rfl

end Metadata

open Metadata in
/-- Ivar order notes follow the ivars kept. When the walk of an image yields a model, the ivar
order notes of each of its classes are, one for one and in order, the positions of its ivar list
where an ivar lies at a lower offset than the ivar before it in the list, each naming that ivar,
its offset and the offset before; on a 32-bit image no class has any. The list holds only the
entries whose record and name could be read, and an ivar whose offset cannot be read lies at 0. -/
theorem walk_ivar_order_notes {img : MachImage} {policy : ListPolicy} {m : ObjectModel}
    (walked : walk img policy = .ok (.ok m)) :
    ∀ c ∈ m.classes, ivarOrderKinds c.diagnostics =
      if img.arch.is64 then ivarDescents c.ivars else [] := by
  intro c mem
  rw [(walk_entities_eq walked).1] at mem
  obtain ⟨slot, -, rfl⟩ := List.mem_map.1 mem
  exact classAt_orderNotes img policy slot

namespace Metadata

theorem walk_classSampleImage_ivars {wide : Bool} {m : ObjectModel}
    (walked : walk (classSampleImage wide) .strict = .ok (.ok m)) :
    m.classes.map (fun c => c.ivars.map (·.offset)) = [[8, 4]] := by
  rw [walk_classSampleImage_classes walked]
  simp only [List.map_cons, List.map_nil, classAt, EntityView.entityFor, classRead, classHead,
    ClassRecord.read, ClassData.read, dataAddress, MachImage.readString, classOfRecord, ivarList,
    IvarEntry.read, readIvar, classSampleImage_readPointer, MachImage.readWord, MachImage.readU32,
    MachImage.readUInt, Source.readWord, MachImage.readCString, MachImage.translate, Source.slice_eq_take_drop]
  cases wide <;> decide +kernel

end Metadata

open Metadata in
/-- The class of the sample has two ivars that descend: in the 64-bit image the walk notes the
descent once, in the 32-bit image not at all. -/
theorem walk_ivar_order_notes_classSample :
    ∃ m₆₄ m₃₂, walk (classSampleImage true) .strict = .ok (.ok m₆₄) ∧
      walk (classSampleImage false) .strict = .ok (.ok m₃₂) ∧
      m₆₄.classes.map (fun c => c.ivars.map (·.offset)) = [[8, 4]] ∧
      m₃₂.classes.map (fun c => c.ivars.map (·.offset)) = [[8, 4]] ∧
      (∀ c ∈ m₆₄.classes, ivarOrderKinds c.diagnostics =
        if (classSampleImage true).arch.is64 then ivarDescents c.ivars else []) ∧
      ∀ c ∈ m₃₂.classes, ivarOrderKinds c.diagnostics =
        if (classSampleImage false).arch.is64 then ivarDescents c.ivars else [] := by
  obtain ⟨m₆₄, wide⟩ := walk_classSampleImage true .strict
  obtain ⟨m₃₂, narrow⟩ := walk_classSampleImage false .strict
  exact ⟨m₆₄, m₃₂, wide, narrow, walk_classSampleImage_ivars wide, walk_classSampleImage_ivars narrow,
    walk_ivar_order_notes wide, walk_ivar_order_notes narrow⟩

end ObjcImage
