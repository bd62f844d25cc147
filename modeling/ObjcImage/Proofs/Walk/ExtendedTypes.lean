import Mathlib
import ObjcImage.Proofs.Walk.Selectors

set_option autoImplicit false

/-!
Extended method types of a protocol: one array of type strings runs across its four method lists,
and the walk keeps a cursor into it. A cursor past the last 64-bit address ends the extended types
with one note.
-/

namespace ObjcImage

namespace MachImage

def extendedTypesAt (img : MachImage) (slot : Nat) : Option String :=
  if slot < Nat.pow 2 64 then (img.readPointer slot >>= img.readString).toOption else none

end MachImage

def ProtocolRecord.methodLists (record : ProtocolRecord) : List SlotValue :=
  [record.instanceMethods, record.classMethods, record.optionalInstanceMethods,
    record.optionalClassMethods]

namespace Metadata

open Reading

section Entries

variable (img : MachImage) (policy : ListPolicy)

theorem mappedRun_le (first entsize : Nat) : ∀ i n, mappedRun img first entsize i n ≤ i + n
  | i, 0 => by simp [mappedRun]
  | i, n + 1 => by
    unfold mappedRun
    split
    next => have := mappedRun_le first entsize (i + 1) n; omega
    next => omega

theorem listEntries_run (kind : ListKind) (first count entsize : Nat) (n : Notes) :
    ((listEntries img policy kind first count entsize).run n).1 = [] ∨
      ((listEntries img policy kind first count entsize).run n).1 =
        (List.range (mappedRun img first entsize 0 count)).map fun i => first + i * entsize := by
  by_cases cut : mappedRun img first entsize 0 count < count
  · cases policy with
    | strict => exact .inl (by rw [run_listEntries_strict_of_lt img kind first count entsize cut])
    | salvage => exact .inr (by simp [listEntries, cut, map_id])
  · exact .inr (by rw [listEntries_of_not_lt img policy kind first count entsize cut]; rfl)

theorem listEntries_zipIdx {kind : ListKind} {first count entsize : Nat} {n : Notes}
    {entry index : Nat}
    (mem : (entry, index) ∈ ((listEntries img policy kind first count entsize).run n).1.zipIdx) :
    index < count ∧ entry = first + index * entsize := by
  rw [List.mem_zipIdx_iff_getElem?] at mem
  rcases listEntries_run img policy kind first count entsize n with none_ | entries
  · simp [none_] at mem
  · rw [entries, List.getElem?_map] at mem
    by_cases within : index < mappedRun img first entsize 0 count
    · have bound := mappedRun_le img first entsize 0 count
      rw [List.getElem?_range within, Option.map_some, Option.some.injEq] at mem
      exact ⟨by omega, mem.symm⟩
    · rw [List.getElem?_eq_none (by simpa using within)] at mem
      cases mem

theorem mem_methodTrace {value : SlotValue} {isClass : Bool} {extended : Option Nat}
    {entry : Nat} {m : Method} (mem : (entry, m) ∈ methodTrace img policy value isClass extended) :
    ∃ list header index, value = .value list ∧ ListHeader.read img list = .ok header ∧
      index < header.count ∧ entry = list + ListHeader.size + index * header.entsize ∧
      ((readMethod img header.isSmall isClass extended index entry).run {}).1 = some m := by
  unfold methodTrace at mem
  split at mem
  next list =>
    split at mem
    next header read =>
      split at mem
      next => cases mem
      next =>
        obtain ⟨⟨entry', index⟩, listed, read'⟩ := List.mem_filterMap.1 mem
        obtain ⟨m', readM, same⟩ := Option.map_eq_some_iff.1 read'
        obtain ⟨rfl, rfl⟩ := Prod.mk.inj same
        obtain ⟨within, at_⟩ := listEntries_zipIdx img policy listed
        exact ⟨list, header, index, rfl, read, within, at_, readM⟩
    next => cases mem
  next => cases mem

theorem methodOf_fields (selector : String) (encoding : Except ImageError String) (isClass : Bool)
    (imp : Option Nat) (entry : Nat) (n : Notes) :
    ((methodOf selector encoding isClass imp entry).run n).1.selector = selector ∧
      ((methodOf selector encoding isClass imp entry).run n).1.encoding = encoding.toOption.getD "" := by
  unfold methodOf
  split
  next => exact ⟨rfl, rfl⟩
  next => split <;> exact ⟨rfl, rfl⟩

theorem readMethod_some {small isClass : Bool} {extended : Option Nat} {index entry : Nat}
    {n : Notes} {m : Method} (read : ((readMethod img small isClass extended index entry).run n).1 = some m) :
    ∃ raw, MethodEntry.read img entry small = .ok raw ∧ (raw.name >>= img.readCString) = .ok m.selector ∧
      m.encoding = (extended.bind fun base => img.extendedTypesAt (base + index * img.arch.pointerWidth)).getD
        ((raw.types >>= img.readCString).toOption.getD "") := by
  unfold readMethod at read
  split at read
  next => cases read
  next raw entryRead =>
    split at read
    next => cases read
    next selector named =>
      extract_lets extendedTypes encoding at read
      rw [run_bind] at read
      split at read
      next => simp at read
      next =>
        -- the method is the one `methodOf` makes, whatever notes it makes it from
        rw [run_bind] at read
        simp only [run_modify, StateT.run_map, map_id, Option.some.injEq] at read
        subst read
        refine ⟨raw, entryRead, ?_, ?_⟩
        · rw [(methodOf_fields selector encoding isClass raw.imp entry _).1]
          exact named
        rw [(methodOf_fields selector encoding isClass raw.imp entry _).2]
        simp only [encoding, extendedTypes, MachImage.extendedTypesAt]
        cases extended.bind _ <;> rfl

theorem keptAfter_sublist (seen : List (String × Bool)) (ms : List Method) :
    (keptAfter seen ms).Sublist ms := by
  induction ms generalizing seen with
  | nil => simp [keptAfter]
  | cons m ms ih =>
    by_cases taken : m.key ∈ seen
    · simpa [keptAfter, taken] using (ih seen).cons m
    · simpa [keptAfter, taken] using (ih (seen ++ [m.key])).cons_cons m

def TypesFrom (value : SlotValue) (slotOf : Nat → Option Nat) (methods : List Method) : Prop :=
  ∀ m ∈ methods, ∃ list header index raw, value = .value list ∧
    ListHeader.read img list = .ok header ∧ index < header.count ∧
    MethodEntry.read img (list + ListHeader.size + index * header.entsize) header.isSmall = .ok raw ∧
    (raw.name >>= img.readCString) = .ok m.selector ∧
    m.encoding = ((slotOf index).bind img.extendedTypesAt).getD
      ((raw.types >>= img.readCString).toOption.getD "")

theorem methodList_typesFrom (value : SlotValue) (isClass : Bool) (extended : Option Nat)
    (n : Notes) :
    TypesFrom img value (fun index => extended.map (· + index * img.arch.pointerWidth))
      ((methodList img policy value isClass extended).run n).1.1 := by
  intro m kept
  -- a kept method is one of the list's trace
  rw [(methodList_dedupRun img policy value isClass extended n).kept] at kept
  obtain ⟨⟨entry, m'⟩, traced, rfl⟩ := List.mem_map.1 ((keptAfter_sublist _ _).subset kept)
  obtain ⟨list, header, index, listed, headed, within, rfl, read⟩ := mem_methodTrace img policy traced
  obtain ⟨raw, entryRead, named, typed⟩ := readMethod_some img read
  refine ⟨list, header, index, raw, listed, headed, within, entryRead, named, ?_⟩
  rw [typed, Option.bind_map]
  rfl

theorem methodList_valid (value : SlotValue) (isClass : Bool) (extended : Option Nat) :
    NotesOnly (fun d => d.kind.isInvalidRecord = false) (methodList img policy value isClass extended) := by
  have plain : ∀ d : Diagnostic, d.Plain → d.kind.isInvalidRecord = false := fun _ plain => plain.2
  unfold methodList
  refine NotesOnly.bind ((listAddress_plain value).mono plain) fun list? => ?_
  split
  next list =>
    split
    next => exact NotesOnly.bind (NotesOnly.note rfl) fun _ => NotesOnly.pure _
    next header _ =>
      dsimp only
      split
      next => exact NotesOnly.bind (NotesOnly.note rfl) fun _ => NotesOnly.pure _
      next =>
        refine NotesOnly.bind ((listEntries_plain img policy _ _ _ _).mono plain) fun entries => ?_
        refine NotesOnly.bind (NotesOnly.filterMapM fun x _ => ?_) fun _ => NotesOnly.pure _
        -- an entry either notes a repeat, or what it reads from no notes, which is plain
        intro n
        rw [(readMethod_dedups img _ _ _ _ _).run n]
        have quiet := (readMethod_dedups img header.isSmall isClass extended x.2 x.1).plain
        generalize (readMethod img header.isSmall isClass extended x.2 x.1).run {} = alone at quiet
        obtain ⟨_ | m, k⟩ := alone
        · exact ⟨k.diagnostics, rfl, fun d mem => plain d (quiet d mem)⟩
        · by_cases taken : m.key ∈ n.selectors
          · exact ⟨[duplicateNote x.1 m], by simp [taken], by simp [duplicateNote, DiagnosticKind.isInvalidRecord]⟩
          · exact ⟨k.diagnostics, by simp [taken, Notes.append], fun d mem => plain d (quiet d mem)⟩
  next => exact NotesOnly.pure _

theorem readMethod_congr {small isClass : Bool} {extended extended' : Option Nat} {index entry : Nat}
    (same : (extended.bind fun base => img.extendedTypesAt (base + index * img.arch.pointerWidth)) =
      extended'.bind fun base => img.extendedTypesAt (base + index * img.arch.pointerWidth)) :
    readMethod img small isClass extended index entry = readMethod img small isClass extended' index entry := by
  unfold readMethod
  simp only [MachImage.extendedTypesAt] at same
  rw [same]

theorem methodList_congr {value : SlotValue} {isClass : Bool} {extended extended' : Option Nat}
    (same : ∀ index, (extended.bind fun base => img.extendedTypesAt (base + index * img.arch.pointerWidth)) =
      extended'.bind fun base => img.extendedTypesAt (base + index * img.arch.pointerWidth)) :
    methodList img policy value isClass extended = methodList img policy value isClass extended' := by
  unfold methodList
  simp only [readMethod_congr img (same _)]

def declaredCount (value : SlotValue) : Nat :=
  match value with
  | .value list =>
    match ListHeader.read img list with
    | .ok header => header.count
    | .error _ => 0
  | _ => 0

theorem methodList_declared (value : SlotValue) (isClass : Bool) (extended : Option Nat) (n : Notes) :
    ((methodList img policy value isClass extended).run n).1.2 = declaredCount img value := by
  unfold methodList declaredCount
  cases value with
  | null => rfl
  | bind symbol => rfl
  | value list =>
    simp only [listAddress, pure_bind]
    cases ListHeader.read img list with
    | error e => rfl
    | ok header =>
      dsimp only
      split
      next => rfl
      next =>
        rw [run_bind, run_bind]
        rfl

end Entries

/-! ### The cursor into the extended type strings -/

/-- Where the extended type strings of the next method list start, after a list that declares
`declared` entries and whose own start at `extended`: nowhere, once past the address space. -/
def advanceExtended (w declared : Nat) : Option Nat → Option Nat
  | some base => if base + declared * w < Nat.pow 2 64 then some (base + declared * w) else none
  | none => none

def overflowNote (protocol base : Nat) : Diagnostic :=
  ⟨some protocol, .invalidRecord base "extended method types run past the end of the address space"⟩

def overflowNotes (protocol w declared : Nat) : Option Nat → List Diagnostic
  | some base =>
    if base + declared * w < Nat.pow 2 64 then [] else [overflowNote protocol base]
  | none => []

def overflowAlong (protocol w : Nat) : Option Nat → List Nat → List Diagnostic
  | _, [] => []
  | extended, d :: rest =>
    overflowNotes protocol w d extended ++ overflowAlong protocol w (advanceExtended w d extended) rest

theorem overflowAlong_none (protocol w : Nat) : ∀ declared, overflowAlong protocol w none declared = []
  | [] => rfl
  | _ :: rest => by simp [overflowAlong, overflowNotes, advanceExtended, overflowAlong_none protocol w rest]

theorem overflowAlong_some (protocol w : Nat) : ∀ (declared : List Nat) (E : Nat),
    (overflowAlong protocol w (some E) declared = [] ∧
      (declared = [] ∨ E + declared.sum * w < Nat.pow 2 64)) ∨
    ∃ k < declared.length, (k = 0 ∨ E + (declared.take k).sum * w < Nat.pow 2 64) ∧
      Nat.pow 2 64 ≤ E + (declared.take (k + 1)).sum * w ∧
      overflowAlong protocol w (some E) declared = [overflowNote protocol (E + (declared.take k).sum * w)]
  | [], E => .inl ⟨rfl, .inl rfl⟩
  | d :: rest, E => by
    by_cases fits : E + d * w < Nat.pow 2 64
    · -- this list's strings fit: the rest go on from the next list's start
      have moved : overflowAlong protocol w (some E) (d :: rest) =
          overflowAlong protocol w (some (E + d * w)) rest := by
        simp [overflowAlong, overflowNotes, advanceExtended, fits]
      rcases overflowAlong_some protocol w rest (E + d * w) with ⟨quiet, fit⟩ | ⟨k, within, valid, past, noted⟩
      · refine .inl ⟨moved.trans quiet, .inr ?_⟩
        rcases fit with rfl | fit
        · simpa using fits
        · simp only [List.sum_cons, Nat.add_mul]
          omega
      · refine .inr ⟨k + 1, by simpa using within, .inr ?_, ?_, ?_⟩
        · simp only [List.take_succ_cons, List.sum_cons, Nat.add_mul]
          rcases valid with rfl | valid
          · simpa using fits
          · omega
        · simp only [List.take_succ_cons, List.sum_cons, Nat.add_mul]
          omega
        · simp only [moved, noted, List.take_succ_cons, List.sum_cons, Nat.add_mul, Nat.add_assoc]
    · -- this list's strings run past: one note at its start, and the cursor is gone
      refine .inr ⟨0, by simp, .inl rfl, by simpa using fits, ?_⟩
      simp [overflowAlong, overflowNotes, advanceExtended, fits, overflowAlong_none, overflowNote]

section Along

variable (img : MachImage) (policy : ListPolicy)

theorem methodListAlong_run (protocol : Nat) (extended : Option Nat) (value : SlotValue)
    (isClass : Bool) (n : Notes) :
    (methodListAlong img policy protocol extended value isClass).run n =
      ((((methodList img policy value isClass extended).run n).1.1,
          advanceExtended img.arch.pointerWidth (declaredCount img value) extended),
        { ((methodList img policy value isClass extended).run n).2 with
          diagnostics := ((methodList img policy value isClass extended).run n).2.diagnostics ++
            overflowNotes protocol img.arch.pointerWidth (declaredCount img value) extended }) := by
  have declared := methodList_declared img policy value isClass extended n
  unfold methodListAlong
  rw [run_bind]
  generalize (methodList img policy value isClass extended).run n = read at declared ⊢
  obtain ⟨⟨methods, _⟩, n₁⟩ := read
  dsimp only at declared ⊢
  subst declared
  cases extended with
  | none =>
    simp only [advanceExtended, overflowNotes, List.append_nil]
    rfl
  | some base =>
    by_cases fits : base + declaredCount img value * img.arch.pointerWidth < Nat.pow 2 64
    · simp only [advanceExtended, overflowNotes, fits, if_true, List.append_nil]
      rfl
    · simp only [advanceExtended, overflowNotes, fits, if_false]
      rfl

end Along

/-- The cursor `c` into the extended type strings that start at `start`, after lists that declare
`D` entries: at `D` slots past the start, or gone once that lies past the address space; and
gone all along when there are none. -/
def CursorAt (w D : Nat) : Option Nat → Option Nat → Prop
  | some start, some base => base = start + D * w
  | some start, none => Nat.pow 2 64 ≤ start + D * w
  | none, c => c = none

namespace CursorAt

variable {w D : Nat} {start c : Option Nat}

theorem zero (start : Option Nat) : CursorAt w 0 start start := by
  cases start <;> simp [CursorAt]

theorem advance (at_ : CursorAt w D start c) (d : Nat) :
    CursorAt w (D + d) start (advanceExtended w d c) := by
  rcases start with _ | start
  · simp only [CursorAt] at at_
    simp [at_, advanceExtended, CursorAt]
  rcases c with _ | base
  · simp only [CursorAt] at at_ ⊢
    show Nat.pow 2 64 ≤ start + (D + d) * w
    rw [Nat.add_mul]
    omega
  · simp only [CursorAt] at at_
    subst at_
    by_cases fits : start + D * w + d * w < Nat.pow 2 64
    · simp only [advanceExtended, fits, if_true, CursorAt]
      rw [Nat.add_mul, Nat.add_assoc]
    · simp only [advanceExtended, fits, if_false, CursorAt]
      rw [Nat.add_mul]
      omega

theorem types_eq (img : MachImage) (at_ : CursorAt img.arch.pointerWidth D start c) (index : Nat) :
    (c.bind fun base => img.extendedTypesAt (base + index * img.arch.pointerWidth)) =
      (start.map (· + D * img.arch.pointerWidth)).bind fun base =>
        img.extendedTypesAt (base + index * img.arch.pointerWidth) := by
  rcases start with _ | start
  · simp only [CursorAt] at at_
    simp [at_]
  rcases c with _ | base
  · simp only [CursorAt] at at_
    have past : ¬ start + D * img.arch.pointerWidth + index * img.arch.pointerWidth < Nat.pow 2 64 := by
      omega
    simp [MachImage.extendedTypesAt, past]
  · simp only [CursorAt] at at_
    simp [at_]

end CursorAt

section Protocol

variable (img : MachImage) (policy : ListPolicy)

def declaredBefore (record : ProtocolRecord) (k : Nat) : Nat :=
  ((record.methodLists.take k).map (declaredCount img)).sum

def extendedStart (record : ProtocolRecord) (k : Nat) : Option Nat :=
  (record.extendedMethodTypes.bind SlotValue.address?).map
    (· + declaredBefore img record k * img.arch.pointerWidth)

def ListStep (n : Notes) (value : SlotValue) (isClass : Bool) (extended : Option Nat)
    (methods : List Method) (extra : List Diagnostic) (n' : Notes) : Prop :=
  methods = ((methodList img policy value isClass extended).run n).1.1 ∧
    n' = { ((methodList img policy value isClass extended).run n).2 with
      diagnostics := ((methodList img policy value isClass extended).run n).2.diagnostics ++ extra }

theorem protocolMethods_steps (address : Nat) (record : ProtocolRecord) (n : Notes) :
    let read := (protocolMethods img policy address record).run n
    ∃ o₀ o₁ o₂ o₃ n₁ n₂ n₃,
      o₀ ++ o₁ ++ o₂ ++ o₃ = overflowAlong address img.arch.pointerWidth
        (record.extendedMethodTypes.bind SlotValue.address?) (record.methodLists.map (declaredCount img)) ∧
      ListStep img policy n record.instanceMethods false (extendedStart img record 0) read.1.1 o₀ n₁ ∧
      ListStep img policy n₁ record.classMethods true (extendedStart img record 1) read.1.2.1 o₁ n₂ ∧
      ListStep img policy n₂ record.optionalInstanceMethods false (extendedStart img record 2)
        read.1.2.2.1 o₂ n₃ ∧
      ListStep img policy n₃ record.optionalClassMethods true (extendedStart img record 3)
        read.1.2.2.2 o₃ read.2 := by
  dsimp only
  -- the cursor after each list is where the lists before it put it
  have at₀ : CursorAt img.arch.pointerWidth (declaredBefore img record 0)
      (record.extendedMethodTypes.bind SlotValue.address?)
      (record.extendedMethodTypes.bind SlotValue.address?) := CursorAt.zero _
  have at₁ := at₀.advance (declaredCount img record.instanceMethods)
  have at₂ := at₁.advance (declaredCount img record.classMethods)
  have at₃ := at₂.advance (declaredCount img record.optionalInstanceMethods)
  have counted : ∀ k value, record.methodLists[k]? = some value →
      declaredBefore img record k + declaredCount img value = declaredBefore img record (k + 1) := by
    intro k value listed
    simp [declaredBefore, List.take_add_one, listed]
  rw [counted 0 _ rfl] at at₁
  rw [counted 0 _ rfl, counted 1 _ rfl] at at₂
  rw [counted 0 _ rfl, counted 1 _ rfl, counted 2 _ rfl] at at₃
  -- so each list is read as from its own start
  have reads : ∀ {k : Nat} {c : Option Nat},
      CursorAt img.arch.pointerWidth (declaredBefore img record k)
        (record.extendedMethodTypes.bind SlotValue.address?) c →
      ∀ value isClass, methodList img policy value isClass c =
        methodList img policy value isClass (extendedStart img record k) :=
    fun at_ _ _ => methodList_congr img policy (at_.types_eq img)
  -- one list at a time: a `simp` through the whole reading leaves a proof the kernel checks slowly
  unfold protocolMethods
  rw [run_bind, methodListAlong_run]
  dsimp only
  rw [run_bind, methodListAlong_run]
  dsimp only
  rw [run_bind, methodListAlong_run]
  dsimp only
  rw [run_bind, methodListAlong_run]
  dsimp only
  rw [reads at₀, reads at₁, reads at₂, reads at₃]
  refine ⟨_, _, _, _, _, _, _, ?_, ⟨rfl, rfl⟩, ⟨rfl, rfl⟩, ⟨rfl, rfl⟩, ⟨rfl, rfl⟩⟩
  simp [overflowAlong, ProtocolRecord.methodLists]

theorem filter_overflowAlong (protocol w : Nat) : ∀ (extended : Option Nat) (declared : List Nat),
    (overflowAlong protocol w extended declared).filter (·.kind.isInvalidRecord) =
      overflowAlong protocol w extended declared
  | _, [] => rfl
  | extended, d :: rest => by
    have notes : (overflowNotes protocol w d extended).filter (·.kind.isInvalidRecord) =
        overflowNotes protocol w d extended := by
      cases extended with
      | none => rfl
      | some base =>
        by_cases fits : base + d * w < Nat.pow 2 64
        · simp [overflowNotes, fits]
        · simp [overflowNotes, fits, overflowNote, DiagnosticKind.isInvalidRecord]
    simp only [overflowAlong, List.filter_append, notes, filter_overflowAlong protocol w _ rest]

theorem ListStep.invalid {n n' : Notes} {value : SlotValue} {isClass : Bool} {extended : Option Nat}
    {methods : List Method} {extra : List Diagnostic}
    (step : ListStep img policy n value isClass extended methods extra n') :
    n'.diagnostics.filter (·.kind.isInvalidRecord) =
      n.diagnostics.filter (·.kind.isInvalidRecord) ++ extra.filter (·.kind.isInvalidRecord) := by
  obtain ⟨ds, noted, valid⟩ := methodList_valid img policy value isClass extended n
  rw [step.2]
  simpa [noted] using valid

theorem extendedStart_slot (record : ProtocolRecord) (k index : Nat) :
    (extendedStart img record k).map (· + index * img.arch.pointerWidth) =
      (record.extendedMethodTypes.bind SlotValue.address?).map
        fun E => E + (declaredBefore img record k + index) * img.arch.pointerWidth := by
  simp [extendedStart, Option.map_map, Function.comp_def, Nat.add_mul, Nat.add_assoc]

theorem declaredBefore_le (record : ProtocolRecord) (k : Nat) :
    declaredBefore img record k ≤ declaredBefore img record 4 := by
  have split := List.sum_take_add_sum_drop (record.methodLists.map (declaredCount img)) k
  have whole : declaredBefore img record 4 = (record.methodLists.map (declaredCount img)).sum := by
    simp [declaredBefore, ProtocolRecord.methodLists]
  simp only [declaredBefore, List.map_take] at whole ⊢
  omega

/-- The notes `ds` about a protocol's extended type strings, when the protocol at `address` has
them: none while the strings of every list end in the address space; else one, at the start of
the list whose strings run past it, which begins in it or is the first list. -/
def OverflowNoted (address : Nat) (record : ProtocolRecord) (ds : List Diagnostic) : Prop :=
  match record.extendedMethodTypes.bind SlotValue.address? with
  | none => ds = []
  | some E =>
    if E + declaredBefore img record 4 * img.arch.pointerWidth < Nat.pow 2 64 then ds = []
    else ∃ k < 4,
      (k = 0 ∨ E + declaredBefore img record k * img.arch.pointerWidth < Nat.pow 2 64) ∧
      Nat.pow 2 64 ≤ E + declaredBefore img record (k + 1) * img.arch.pointerWidth ∧
      ds = [overflowNote address (E + declaredBefore img record k * img.arch.pointerWidth)]

theorem overflowNoted_methodLists (address : Nat) (record : ProtocolRecord) :
    OverflowNoted img address record (overflowAlong address img.arch.pointerWidth
      (record.extendedMethodTypes.bind SlotValue.address?) (record.methodLists.map (declaredCount img))) := by
  have total : (record.methodLists.map (declaredCount img)).sum = declaredBefore img record 4 := by
    simp [declaredBefore, ProtocolRecord.methodLists]
  have before : ∀ k, ((record.methodLists.map (declaredCount img)).take k).sum =
      declaredBefore img record k := by
    intro k
    simp [declaredBefore]
  unfold OverflowNoted
  cases record.extendedMethodTypes.bind SlotValue.address? with
  | none => exact overflowAlong_none _ _ _
  | some E =>
    dsimp only
    rcases overflowAlong_some address img.arch.pointerWidth (record.methodLists.map (declaredCount img)) E with
      ⟨quiet, fit⟩ | ⟨k, within, valid, past, once⟩
    · -- nothing noted: the strings of every list end in the address space
      have fits : E + declaredBefore img record 4 * img.arch.pointerWidth < Nat.pow 2 64 := by
        rcases fit with empty | fit
        · simp [ProtocolRecord.methodLists] at empty
        · rwa [total] at fit
      simpa [fits] using quiet
    · -- one note: past the address space from the `k`-th list on
      have past' : Nat.pow 2 64 ≤ E + declaredBefore img record (k + 1) * img.arch.pointerWidth := by
        rwa [before] at past
      have runs : ¬ E + declaredBefore img record 4 * img.arch.pointerWidth < Nat.pow 2 64 := by
        have := Nat.mul_le_mul_right img.arch.pointerWidth (declaredBefore_le img record (k + 1))
        omega
      simp only [runs, if_false]
      refine ⟨k, by simpa [ProtocolRecord.methodLists] using within, by rwa [before] at valid, past', ?_⟩
      rw [once, before]

theorem protocolMethods_invalid (address : Nat) (record : ProtocolRecord) (n : Notes) :
    ((protocolMethods img policy address record).run n).2.diagnostics.filter (·.kind.isInvalidRecord) =
      n.diagnostics.filter (·.kind.isInvalidRecord) ++ overflowAlong address img.arch.pointerWidth
        (record.extendedMethodTypes.bind SlotValue.address?) (record.methodLists.map (declaredCount img)) := by
  obtain ⟨o₀, o₁, o₂, o₃, n₁, n₂, n₃, overflow, step₀, step₁, step₂, step₃⟩ :=
    protocolMethods_steps img policy address record n
  rw [step₃.invalid, step₂.invalid, step₁.invalid, step₀.invalid, ← filter_overflowAlong, ← overflow]
  simp

/-- The extended type strings of a protocol record run across its four method lists: the method
that the `index`-th entry of the `k`-th list reads to takes the type string at the slot
`E + (D_k + index) * w` when that slot and its string can be read, and its entry's own otherwise,
where `E` is where the strings start and `D_k` counts the entries the lists before it declare,
whether or not they are read. When the strings run past the address space, the reading notes
one invalid record, at the start of the list they run past it from. -/
theorem protocolMethods_extendedTypes (address : Nat) (record : ProtocolRecord) (n : Notes) :
    let read := (protocolMethods img policy address record).run n
    let slot := fun k index => (record.extendedMethodTypes.bind SlotValue.address?).map
      fun E => E + (declaredBefore img record k + index) * img.arch.pointerWidth
    (TypesFrom img record.instanceMethods (slot 0) read.1.1 ∧
      TypesFrom img record.classMethods (slot 1) read.1.2.1 ∧
      TypesFrom img record.optionalInstanceMethods (slot 2) read.1.2.2.1 ∧
      TypesFrom img record.optionalClassMethods (slot 3) read.1.2.2.2) ∧
    ∃ ds, read.2.diagnostics.filter (·.kind.isInvalidRecord) =
        n.diagnostics.filter (·.kind.isInvalidRecord) ++ ds ∧ OverflowNoted img address record ds := by
  -- the statement's names unfolded, so that the kernel meets the reading in one form only
  dsimp only
  obtain ⟨_, _, _, _, _, _, _, _, step₀, step₁, step₂, step₃⟩ :=
    protocolMethods_steps img policy address record n
  -- each list is read from its own start
  have listed : ∀ {k value isClass m methods extra m'},
      ListStep img policy m value isClass (extendedStart img record k) methods extra m' →
      TypesFrom img value (fun index => (record.extendedMethodTypes.bind SlotValue.address?).map
        fun E => E + (declaredBefore img record k + index) * img.arch.pointerWidth) methods := by
    intro k value isClass m methods extra m' step
    have types := methodList_typesFrom img policy value isClass (extendedStart img record k) m
    simp only [extendedStart_slot] at types
    rw [step.1]
    exact types
  exact ⟨⟨listed step₀, listed step₁, listed step₂, listed step₃⟩, _,
    protocolMethods_invalid img policy address record n, overflowNoted_methodLists img address record⟩

end Protocol

end Metadata

end ObjcImage
