import Mathlib
import ObjcImage.Proofs.Walk.Policy

set_option autoImplicit false

/-!
Selectors of an entity, first one wins: a method whose selector and scope are taken is dropped with
one note.
-/

namespace ObjcImage

namespace DiagnosticKind

def isDuplicate : DiagnosticKind → Bool
  | .duplicateSelector .. => true
  | _ => false

def isInvalidRecord : DiagnosticKind → Bool
  | .invalidRecord .. => true
  | _ => false

def isListNote : DiagnosticKind → Bool
  | .image _ | .truncatedList .. | .badEntrySize .. | .encoding _ | .unsupported _ => true
  | _ => false

end DiagnosticKind

def Diagnostic.Plain (d : Diagnostic) : Prop :=
  d.kind.isDuplicate = false ∧ d.kind.isInvalidRecord = false

def Notes.Quiet (k : Notes) : Prop :=
  k.selectors = [] ∧ k.diagnostics.filter (·.kind.isDuplicate) = []

theorem Diagnostic.plain_of_isListNote {d : Diagnostic} (listed : d.kind.isListNote = true) :
    d.Plain := by
  obtain ⟨_, kind⟩ := d
  cases kind <;> simp_all [DiagnosticKind.isListNote, Diagnostic.Plain, DiagnosticKind.isDuplicate,
    DiagnosticKind.isInvalidRecord]

theorem Notes.quiet_of_plain {k : Notes} (selectors : k.selectors = [])
    (plain : ∀ d ∈ k.diagnostics, d.Plain) : k.Quiet :=
  ⟨selectors, List.filter_eq_nil_iff.2 fun d mem => by simp [(plain d mem).1]⟩

namespace Reading

variable {α β : Type}

def NotesOnly (Q : Diagnostic → Prop) (r : Reading α) : Prop :=
  ∀ n : Notes, ∃ ds, (r.run n).2.diagnostics = n.diagnostics ++ ds ∧ ∀ d ∈ ds, Q d

variable {Q : Diagnostic → Prop}

theorem map_id (g : α → β) (a : α) : (g <$> (a : Id α) : Id β) = (g a : Id β) := rfl

theorem NotesOnly.pure (a : α) : NotesOnly Q (Pure.pure a : Reading α) :=
  fun n => ⟨[], (List.append_nil _).symm, by simp⟩

theorem NotesOnly.bind {x : Reading α} {f : α → Reading β} (first : NotesOnly Q x)
    (rest : ∀ a, NotesOnly Q (f a)) : NotesOnly Q (x >>= f) := by
  intro n
  obtain ⟨ds₁, noted₁, holds₁⟩ := first n
  obtain ⟨ds₂, noted₂, holds₂⟩ := rest (x.run n).1 (x.run n).2
  refine ⟨ds₁ ++ ds₂, ?_, fun d mem => ?_⟩
  · rw [run_bind, noted₂, noted₁, List.append_assoc]
  · rcases List.mem_append.1 mem with mem | mem
    · exact holds₁ d mem
    · exact holds₂ d mem

theorem NotesOnly.note {d : Diagnostic} (holds : Q d) : NotesOnly Q (note d : Reading Unit) :=
  fun n => ⟨[d], by simp, by simpa using holds⟩

theorem NotesOnly.addSelector (key : String × Bool) :
    NotesOnly Q (modify fun n : Notes => { n with selectors := n.selectors ++ [key] }) :=
  fun n => ⟨[], (List.append_nil _).symm, by simp⟩

theorem NotesOnly.get_bind {f : Notes → Reading α} (each : ∀ n, NotesOnly Q (f n)) :
    NotesOnly Q (get >>= f) :=
  fun n => each n n

theorem NotesOnly.map {r : Reading α} (g : α → β) (only : NotesOnly Q r) : NotesOnly Q (g <$> r) := by
  intro n
  obtain ⟨ds, noted, holds⟩ := only n
  exact ⟨ds, noted, holds⟩

theorem NotesOnly.mono {Q' : Diagnostic → Prop} {r : Reading α} (only : NotesOnly Q r)
    (weaker : ∀ d, Q d → Q' d) : NotesOnly Q' r := by
  intro n
  obtain ⟨ds, noted, holds⟩ := only n
  exact ⟨ds, noted, fun d mem => weaker d (holds d mem)⟩

theorem NotesOnly.filterMapM {l : List α} {f : α → Reading (Option β)}
    (each : ∀ a ∈ l, NotesOnly Q (f a)) : NotesOnly Q (l.filterMapM f) := by
  induction l with
  | nil => exact NotesOnly.pure []
  | cons a l ih =>
    rw [List.filterMapM_cons]
    refine NotesOnly.bind (each a List.mem_cons_self) fun b? => ?_
    have rest := ih fun b mem => each b (List.mem_cons_of_mem a mem)
    cases b? with
    | none => exact rest
    | some b => exact NotesOnly.bind rest fun bs => NotesOnly.pure (b :: bs)

theorem NotesOnly.foldlM {l : List α} {f : β → α → Reading β}
    (each : ∀ b, ∀ a ∈ l, NotesOnly Q (f b a)) (init : β) : NotesOnly Q (l.foldlM f init) := by
  induction l generalizing init with
  | nil => exact NotesOnly.pure init
  | cons a l ih =>
    rw [List.foldlM_cons]
    exact NotesOnly.bind (each init a List.mem_cons_self) fun b =>
      ih (fun b' a' mem => each b' a' (List.mem_cons_of_mem a mem)) b

end Reading

namespace Metadata

open Reading

section ListNotes

/-! What a list reader notes: list notes only, so any property that every list note has. -/

variable (img : MachImage) (policy : ListPolicy) {Q : Diagnostic → Prop}
  (listed : ∀ d : Diagnostic, d.kind.isListNote = true → Q d)

include listed

theorem listAddress_notesOnly (value : SlotValue) : NotesOnly Q (listAddress value) := by
  cases value with
  | value address => exact NotesOnly.pure _
  | null => exact NotesOnly.pure _
  | bind symbol => exact NotesOnly.bind (NotesOnly.note (listed _ rfl)) fun _ => NotesOnly.pure _

theorem listEntries_notesOnly (list : ListKind) (first count entsize : Nat) :
    NotesOnly Q (listEntries img policy list first count entsize) := by
  unfold listEntries
  dsimp only
  split
  next =>
    refine NotesOnly.bind (NotesOnly.note (listed _ rfl)) fun _ => ?_
    split
    next => exact NotesOnly.pure _
    next => exact NotesOnly.pure _
  next => exact NotesOnly.pure _

theorem methodOf_notesOnly (selector : String) (encoding : Except ImageError String) (isClass : Bool)
    (imp : Option Nat) (entry : Nat) :
    NotesOnly Q (methodOf selector encoding isClass imp entry) := by
  unfold methodOf
  split
  next => exact NotesOnly.bind (NotesOnly.note (listed _ rfl)) fun _ => NotesOnly.pure _
  next =>
    split
    next => exact NotesOnly.pure _
    next => exact NotesOnly.bind (NotesOnly.note (listed _ rfl)) fun _ => NotesOnly.pure _

theorem propertyList_notesOnly (value : SlotValue) (isClass : Bool) :
    NotesOnly Q (propertyList img policy value isClass) := by
  unfold propertyList
  refine NotesOnly.bind (listAddress_notesOnly listed value) fun list? => ?_
  split
  next list =>
    split
    next => exact NotesOnly.bind (NotesOnly.note (listed _ rfl)) fun _ => NotesOnly.pure _
    next header _ =>
      dsimp only
      split
      next => exact NotesOnly.bind (NotesOnly.note (listed _ rfl)) fun _ => NotesOnly.pure _
      next =>
        refine NotesOnly.bind (listEntries_notesOnly img policy listed _ _ _ _) fun entries => ?_
        refine NotesOnly.filterMapM fun entry _ => ?_
        split
        next =>
          split
          next => exact NotesOnly.bind (NotesOnly.note (listed _ rfl)) fun _ => NotesOnly.pure _
          next => exact NotesOnly.pure _
        next => exact NotesOnly.bind (NotesOnly.note (listed _ rfl)) fun _ => NotesOnly.pure _
  next => exact NotesOnly.pure _

theorem protocolRefsReading_notesOnly (value : SlotValue) :
    NotesOnly Q (protocolRefsReading img policy value) := by
  unfold protocolRefsReading
  refine NotesOnly.bind (listAddress_notesOnly listed value) fun list? => ?_
  split
  next list =>
    split
    next => exact NotesOnly.bind (NotesOnly.note (listed _ rfl)) fun _ => NotesOnly.pure _
    next count _ =>
      refine NotesOnly.bind (listEntries_notesOnly img policy listed _ _ _ _) fun entries => ?_
      refine NotesOnly.filterMapM fun entry _ => ?_
      split
      next address _ =>
        split
        next => exact NotesOnly.pure _
        next => exact NotesOnly.bind (NotesOnly.note (listed _ rfl)) fun _ => NotesOnly.pure _
      next => exact NotesOnly.pure _
      next => exact NotesOnly.pure _
      next => exact NotesOnly.bind (NotesOnly.note (listed _ rfl)) fun _ => NotesOnly.pure _
  next => exact NotesOnly.pure _

end ListNotes

section Plain

variable (img : MachImage) (policy : ListPolicy)

theorem listAddress_plain (value : SlotValue) : NotesOnly Diagnostic.Plain (listAddress value) :=
  listAddress_notesOnly (fun _ => Diagnostic.plain_of_isListNote) value

theorem listEntries_plain (list : ListKind) (first count entsize : Nat) :
    NotesOnly Diagnostic.Plain (listEntries img policy list first count entsize) :=
  listEntries_notesOnly img policy (fun _ => Diagnostic.plain_of_isListNote) list first count entsize

theorem methodOf_plain (selector : String) (encoding : Except ImageError String) (isClass : Bool)
    (imp : Option Nat) (entry : Nat) :
    NotesOnly Diagnostic.Plain (methodOf selector encoding isClass imp entry) :=
  methodOf_notesOnly (fun _ => Diagnostic.plain_of_isListNote) selector encoding isClass imp entry

theorem readIvar_plain (previous : Option Nat) (entry : Nat) :
    NotesOnly Diagnostic.Plain (readIvar img previous entry) := by
  unfold readIvar
  split
  next => exact NotesOnly.bind (NotesOnly.note ⟨rfl, rfl⟩) fun _ => NotesOnly.pure _
  next raw _ =>
    split
    next => exact NotesOnly.bind (NotesOnly.note ⟨rfl, rfl⟩) fun _ => NotesOnly.pure _
    next name _ =>
      -- as for `readIvar_local`, one join point after each optional note
      extract_lets afterEncoding
      have encodingPlain : ∀ encoding, NotesOnly Diagnostic.Plain (afterEncoding encoding) := by
        intro encoding
        simp -zeta only [afterEncoding]
        extract_lets afterOffset
        have offsetPlain : ∀ offset, NotesOnly Diagnostic.Plain (afterOffset offset) := by
          intro offset
          simp -zeta only [afterOffset]
          extract_lets afterType afterOrder
          have typePlain : ∀ t, NotesOnly Diagnostic.Plain (afterType t) := fun _ => NotesOnly.pure _
          have orderPlain : ∀ u, NotesOnly Diagnostic.Plain (afterOrder u) := by
            intro u
            simp -zeta only [afterOrder]
            split
            next => exact NotesOnly.bind (NotesOnly.pure _) typePlain
            next =>
              exact NotesOnly.bind (NotesOnly.note ⟨rfl, rfl⟩) fun _ => NotesOnly.bind (NotesOnly.pure _) typePlain
          split
          next =>
            split
            next =>
              split
              next => exact NotesOnly.bind (NotesOnly.note ⟨rfl, rfl⟩) orderPlain
              next => exact orderPlain ()
            next => exact orderPlain ()
          next => exact orderPlain ()
        split
        next =>
          split
          next => exact NotesOnly.bind (NotesOnly.pure _) offsetPlain
          next =>
            exact NotesOnly.bind (NotesOnly.note ⟨rfl, rfl⟩) fun _ => NotesOnly.bind (NotesOnly.pure _) offsetPlain
        next => exact NotesOnly.bind (NotesOnly.pure _) offsetPlain
      split
      next => exact NotesOnly.bind (NotesOnly.pure _) encodingPlain
      next =>
        split
        next => exact NotesOnly.bind (NotesOnly.pure _) encodingPlain
        next =>
          exact NotesOnly.bind (NotesOnly.note ⟨rfl, rfl⟩) fun _ => NotesOnly.bind (NotesOnly.pure _) encodingPlain

theorem ivarList_plain (value : SlotValue) : NotesOnly Diagnostic.Plain (ivarList img policy value) := by
  unfold ivarList
  refine NotesOnly.bind (listAddress_plain value) fun list? => ?_
  split
  next list =>
    split
    next => exact NotesOnly.bind (NotesOnly.note ⟨rfl, rfl⟩) fun _ => NotesOnly.pure _
    next header _ =>
      split
      next => exact NotesOnly.bind (NotesOnly.note ⟨rfl, rfl⟩) fun _ => NotesOnly.pure _
      next =>
        refine NotesOnly.bind (listEntries_plain img policy _ _ _ _) fun entries => ?_
        refine NotesOnly.foldlM (fun ivars entry _ => ?_) []
        refine NotesOnly.bind (readIvar_plain img _ _) fun ivar? => ?_
        split
        next => exact NotesOnly.pure _
        next => exact NotesOnly.pure _
  next => exact NotesOnly.pure _

theorem propertyList_plain (value : SlotValue) (isClass : Bool) :
    NotesOnly Diagnostic.Plain (propertyList img policy value isClass) :=
  propertyList_notesOnly img policy (fun _ => Diagnostic.plain_of_isListNote) value isClass

theorem protocolRefsReading_plain (value : SlotValue) :
    NotesOnly Diagnostic.Plain (protocolRefsReading img policy value) :=
  protocolRefsReading_notesOnly img policy (fun _ => Diagnostic.plain_of_isListNote) value

end Plain

end Metadata

namespace Method

def key (m : Method) : String × Bool := (m.selector, m.isClass)

def sameKey (a b : Method) : Bool := a.key == b.key

end Method

namespace Metadata

open Reading

def duplicateNote (entry : Nat) (m : Method) : Diagnostic :=
  ⟨some entry, .duplicateSelector m.selector m.isClass⟩

/-- How reading one method entry meets the selectors already taken: from any notes it does what it
does from none, unless the method it gives takes a selector taken in its scope, when it drops the
method and notes the repeat instead. From none it notes only plain diagnostics and takes the
selector of the method it gives. -/
structure Dedups (entry : Nat) (r : Reading (Option Method)) : Prop where
  run : ∀ n : Notes, r.run n =
    match r.run {} with
    | (some m, k) =>
      if m.key ∈ n.selectors then (none, { n with diagnostics := n.diagnostics ++ [duplicateNote entry m] })
      else (some m, n.append k)
    | (none, k) => (none, n.append k)
  selectors : (r.run {}).2.selectors = ((r.run {}).1.map Method.key).toList
  plain : ∀ d ∈ (r.run {}).2.diagnostics, d.Plain

section Entries

variable (img : MachImage) (policy : ListPolicy)

theorem methodOf_key (selector : String) (encoding : Except ImageError String) (isClass : Bool)
    (imp : Option Nat) (entry : Nat) (n : Notes) :
    ((methodOf selector encoding isClass imp entry).run n).1.key = (selector, isClass) := by
  unfold methodOf
  split
  next => rfl
  next => split <;> rfl

theorem Dedups.skip (entry : Nat) (d : Diagnostic) (plain : d.Plain) :
    Dedups entry (do note d; return none) where
  run n := by
    show (none, { n with diagnostics := n.diagnostics ++ [d] }) = (none, n.append ⟨[d], []⟩)
    simp [Notes.append]
  selectors := rfl
  plain := by
    show ∀ x ∈ [d], x.Plain
    simpa using plain

theorem readMethod_dedups (small isClass : Bool) (extended : Option Nat) (index entry : Nat) :
    Dedups entry (readMethod img small isClass extended index entry) := by
  unfold readMethod
  split
  next => exact Dedups.skip entry _ ⟨rfl, rfl⟩
  next raw _ =>
    split
    next => exact Dedups.skip entry _ ⟨rfl, rfl⟩
    next selector _ =>
      extract_lets extendedTypes encoding
      -- the method is made the same from any notes, and notes only after them
      have made := fun n => Local.run_eq (methodOf_local selector encoding isClass raw.imp entry) n
      have key := methodOf_key selector encoding isClass raw.imp entry {}
      obtain ⟨added, kept, none_⟩ := (methodOf_local selector encoding isClass raw.imp entry).2 {}
      obtain ⟨ds, noted, plain⟩ := methodOf_plain selector encoding isClass raw.imp entry {}
      generalize (methodOf selector encoding isClass raw.imp entry).run {} = alone at made key kept noted
      obtain ⟨m, k⟩ := alone
      dsimp only at made key kept noted
      have noSelectors : k.selectors = [] := by
        cases added with
        | nil => simpa using kept
        | cons p _ => exact absurd (none_ p List.mem_cons_self) (by simp)
      refine ⟨fun n => ?_, ?_, ?_⟩
      · by_cases taken : (selector, isClass) ∈ n.selectors
        · have named : m.selector = selector ∧ m.isClass = isClass := by simpa [Method.key] using key
          simp [taken, key, made, Notes.append, duplicateNote, map_id, named]
        · simp [taken, key, made, Notes.append, map_id]
      · simp [made, key, Notes.append, noSelectors, map_id]
      · simpa [made, Notes.append, noted, map_id] using plain

/-! ### A run of entries, first one wins -/

def keptAfter : List (String × Bool) → List Method → List Method
  | _, [] => []
  | seen, m :: rest =>
    if m.key ∈ seen then keptAfter seen rest else m :: keptAfter (seen ++ [m.key]) rest

def repeatsAfter : List (String × Bool) → List (Nat × Method) → List (Nat × Method)
  | _, [] => []
  | seen, x :: rest =>
    if x.2.key ∈ seen then x :: repeatsAfter seen rest else repeatsAfter (seen ++ [x.2.key]) rest

section Kept

variable (seen : List (String × Bool))

theorem keptAfter_append (ms ms' : List Method) :
    keptAfter seen (ms ++ ms') =
      keptAfter seen ms ++ keptAfter (seen ++ (keptAfter seen ms).map Method.key) ms' := by
  induction ms generalizing seen with
  | nil => simp [keptAfter]
  | cons m ms ih =>
    by_cases taken : m.key ∈ seen
    · simp [keptAfter, taken, ih]
    · simp [keptAfter, taken, ih]

theorem repeatsAfter_append (trace trace' : List (Nat × Method)) :
    repeatsAfter seen (trace ++ trace') = repeatsAfter seen trace ++
      repeatsAfter (seen ++ (keptAfter seen (trace.map (·.2))).map Method.key) trace' := by
  induction trace generalizing seen with
  | nil => simp [repeatsAfter, keptAfter]
  | cons x trace ih =>
    by_cases taken : x.2.key ∈ seen
    · simp [repeatsAfter, keptAfter, taken, ih]
    · simp [repeatsAfter, keptAfter, taken, ih]

theorem keptAfter_eq_eraseDupsBy (ms : List Method) :
    keptAfter seen ms = (ms.filter fun m => m.key ∉ seen).eraseDupsBy Method.sameKey := by
  induction ms generalizing seen with
  | nil => rfl
  | cons m ms ih =>
    by_cases taken : m.key ∈ seen
    · simp [keptAfter, taken, ih]
    · -- the methods after `m` are kept as if `m`'s selector and scope had been taken before
      rw [keptAfter, if_neg taken, ih, List.filter_cons_of_pos (by simpa using taken),
        List.eraseDupsBy_cons, List.filter_filter]
      congr 2
      refine List.filter_congr fun b _ => ?_
      simp [Method.sameKey, and_comm]

theorem key_not_mem_of_mem_keptAfter {ms : List Method} {m : Method} (kept : m ∈ keptAfter seen ms) :
    m.key ∉ seen := by
  induction ms generalizing seen with
  | nil => simp [keptAfter] at kept
  | cons m' ms ih =>
    by_cases taken : m'.key ∈ seen
    · simp only [keptAfter, taken, if_true] at kept
      exact ih seen kept
    · simp only [keptAfter, taken, if_false, List.mem_cons] at kept
      rcases kept with rfl | kept
      · exact taken
      · exact fun mem => ih _ kept (List.mem_append_left _ mem)

theorem nodup_keptAfter (ms : List Method) : ((keptAfter seen ms).map Method.key).Nodup := by
  induction ms generalizing seen with
  | nil => simp [keptAfter]
  | cons m ms ih =>
    by_cases taken : m.key ∈ seen
    · simpa [keptAfter, taken] using ih seen
    · -- what comes after `m` avoids `m`'s selector and scope, which it sees as taken
      have later : ∀ m' ∈ keptAfter (seen ++ [m.key]) ms, m'.key ≠ m.key := fun m' kept same =>
        key_not_mem_of_mem_keptAfter _ kept (by simp [same])
      simp only [keptAfter, taken, if_false, List.map_cons, List.nodup_cons, List.mem_map]
      exact ⟨fun ⟨m', kept, same⟩ => later m' kept same, ih _⟩

end Kept

theorem Local.run_of_fresh {α : Type} {scope : Option Bool} {r : Reading α} (local_ : Local scope r)
    {n : Notes} (fresh : ∀ p ∈ n.selectors, some p.2 ≠ scope) :
    r.run n = ((r.run {}).1, n.append (r.run {}).2) := by
  simpa using local_.1 n {} fresh

/-- What reading the entries of `trace` in order, from the notes `n` to the notes `n'`, does with
selectors: it keeps `methods`, the first of each selector and scope not taken before; the kept
methods take their selectors; every other method leaves one duplicate note, and nothing else it
notes says that a selector repeats. -/
structure DedupRun (n : Notes) (trace : List (Nat × Method)) (methods : List Method) (n' : Notes) :
    Prop where
  kept : methods = keptAfter n.selectors (trace.map (·.2))
  selectors : n'.selectors = n.selectors ++ methods.map Method.key
  duplicates : n'.diagnostics.filter (·.kind.isDuplicate) =
    n.diagnostics.filter (·.kind.isDuplicate) ++
      (repeatsAfter n.selectors trace).map fun x => duplicateNote x.1 x.2

namespace DedupRun

theorem nil (n : Notes) : DedupRun n [] [] n :=
  ⟨rfl, by simp, by simp [repeatsAfter]⟩

section Steps

variable {n n₁ n' k : Notes} {trace trace' : List (Nat × Method)} {methods methods' : List Method}

-- notes that take no selector and say no selector repeats, before or after a run, leave it as it is
theorem quiet_before (quiet : k.Quiet) (run : DedupRun (n.append k) trace methods n') :
    DedupRun n trace methods n' := by
  have same : (n.append k).selectors = n.selectors := by simp [Notes.append, quiet.1]
  refine ⟨same ▸ run.kept, same ▸ run.selectors, ?_⟩
  rw [run.duplicates, same]
  simp [Notes.append, quiet.2]

theorem quiet_after (run : DedupRun n trace methods n') (quiet : k.Quiet) :
    DedupRun n trace methods (n'.append k) := by
  refine ⟨run.kept, by simp [Notes.append, quiet.1, run.selectors], ?_⟩
  simp [Notes.append, quiet.2, run.duplicates]

theorem noted (run : DedupRun n trace methods n') {d : Diagnostic} (other : d.kind.isDuplicate = false) :
    DedupRun n trace methods { n' with diagnostics := n'.diagnostics ++ [d] } := by
  simpa [Notes.append] using run.quiet_after (k := ⟨[d], []⟩) ⟨rfl, by simp [other]⟩

theorem append (first : DedupRun n trace methods n₁) (second : DedupRun n₁ trace' methods' n') :
    DedupRun n (trace ++ trace') (methods ++ methods') n' := by
  -- the second run starts from the selectors the first one took
  have taken : n₁.selectors = n.selectors ++ (keptAfter n.selectors (trace.map (·.2))).map Method.key := by
    rw [first.selectors, first.kept]
  refine ⟨?_, ?_, ?_⟩
  · rw [List.map_append, keptAfter_append, ← taken, ← second.kept, ← first.kept]
  · simp [second.selectors, first.selectors]
  · rw [second.duplicates, first.duplicates, repeatsAfter_append, ← taken]
    simp

theorem taken (entry : Nat) {m : Method} (taken : m.key ∈ n.selectors)
    (run : DedupRun { n with diagnostics := n.diagnostics ++ [duplicateNote entry m] } trace methods n') :
    DedupRun n ((entry, m) :: trace) methods n' := by
  refine ⟨?_, run.selectors, ?_⟩
  · simp [run.kept, keptAfter, taken]
  · rw [run.duplicates]
    simp [repeatsAfter, taken, duplicateNote, DiagnosticKind.isDuplicate]

theorem fresh (entry : Nat) {m : Method} (fresh : m.key ∉ n.selectors)
    (selectors : k.selectors = [m.key]) (plain : ∀ d ∈ k.diagnostics, d.Plain)
    (run : DedupRun (n.append k) trace methods n') :
    DedupRun n ((entry, m) :: trace) (m :: methods) n' := by
  have taking : (n.append k).selectors = n.selectors ++ [m.key] := by simp [Notes.append, selectors]
  have quiet : k.diagnostics.filter (·.kind.isDuplicate) = [] :=
    (Notes.quiet_of_plain (k := ⟨k.diagnostics, []⟩) rfl plain).2
  refine ⟨?_, ?_, ?_⟩
  · simp [run.kept, keptAfter, fresh, taking]
  · simp [run.selectors, taking]
  · rw [run.duplicates, taking]
    simp [Notes.append, quiet, repeatsAfter, fresh]

theorem then_local {α : Type} {r : Reading α} {scope : Option Bool} {methodsOf : α → List Method}
    (first : DedupRun n trace methods n₁) (local_ : Local scope r)
    (fresh : ∀ p ∈ n₁.selectors, some p.2 ≠ scope)
    (second : ∀ n, DedupRun n trace' (methodsOf (r.run n).1) (r.run n).2) :
    DedupRun n (trace ++ trace') (methods ++ methodsOf (r.run {}).1) (n₁.append (r.run {}).2) := by
  have run := second n₁
  rw [Local.run_of_fresh local_ fresh] at run
  exact first.append run

end Steps

end DedupRun

theorem dedupRun_filterMapM {α : Type} (step : α → Reading (Option Method)) (entry : α → Nat)
    (each : ∀ x, Dedups (entry x) (step x)) :
    ∀ (l : List α) (n : Notes), DedupRun n (l.filterMap fun x => ((step x).run {}).1.map (entry x, ·))
      ((l.filterMapM step).run n).1 ((l.filterMapM step).run n).2
  | [], n => DedupRun.nil n
  | x :: l, n => by
    have rest := dedupRun_filterMapM step entry each l
    have selectors := (each x).selectors
    have plain := (each x).plain
    rw [List.filterMapM_cons, run_bind, (each x).run n, List.filterMap_cons]
    generalize (step x).run {} = alone at selectors plain ⊢
    obtain ⟨_ | m, k⟩ := alone
    · exact DedupRun.quiet_before (Notes.quiet_of_plain (by simpa using selectors) plain) (rest _)
    · by_cases taken : m.key ∈ n.selectors
      · simpa [taken] using DedupRun.taken (entry x) taken (rest _)
      · simpa [taken, map_id] using DedupRun.fresh (entry x) taken (by simpa using selectors) plain (rest _)

theorem quiet_run {α : Type} {r : Reading α} (local_ : Local none r)
    (plain : NotesOnly Diagnostic.Plain r) : (r.run {}).2.Quiet := by
  obtain ⟨added, selectors, none_⟩ := local_.2 {}
  obtain ⟨ds, noted, plain⟩ := plain {}
  have noSelectors : added = [] := List.eq_nil_iff_forall_not_mem.2 fun p mem => by simpa using none_ p mem
  exact Notes.quiet_of_plain (by simpa [noSelectors] using selectors) (by simpa [noted] using plain)

def methodTrace (value : SlotValue) (isClass : Bool) (extended : Option Nat) : List (Nat × Method) :=
  match value with
  | .value list =>
    match ListHeader.read img list with
    | .ok header =>
      if header.entsize < methodEntrySize img.arch.pointerWidth header.isSmall then []
      else
        let entries :=
          (listEntries img policy .method (list + ListHeader.size) header.count header.entsize).run {}
        entries.1.zipIdx.filterMap fun (entry, index) =>
          ((readMethod img header.isSmall isClass extended index entry).run {}).1.map (entry, ·)
    | .error _ => []
  | _ => []

theorem methodList_dedupRun (value : SlotValue) (isClass : Bool) (extended : Option Nat) (n : Notes) :
    DedupRun n (methodTrace img policy value isClass extended)
      ((methodList img policy value isClass extended).run n).1.1
      ((methodList img policy value isClass extended).run n).2 := by
  unfold methodList methodTrace
  cases value with
  | null => exact DedupRun.nil n
  | bind symbol => exact (DedupRun.nil n).noted (by rfl)
  | value list =>
    simp only [listAddress, pure_bind]
    cases ListHeader.read img list with
    | error e => exact (DedupRun.nil n).noted (by rfl)
    | ok header =>
      dsimp only
      split
      next => exact (DedupRun.nil n).noted (by rfl)
      next =>
        -- the entries are the same from any notes, and their notes are quiet
        have entries := listEntries_local img policy .method (list + ListHeader.size) header.count header.entsize
        rw [run_bind, Local.run_eq entries n, run_bind]
        refine DedupRun.quiet_before (quiet_run entries (listEntries_plain img policy _ _ _ _)) ?_
        exact dedupRun_filterMapM _ Prod.fst (fun x => readMethod_dedups img _ _ _ _ _) _ _

end Entries

/-- An entity keeps, of the entries that its method lists read to in order, the first method of
each selector and scope, so that no two of its methods share them, and notes every other entry
once as a duplicate. -/
structure FirstWins (trace : List (Nat × Method)) (methods : List Method)
    (diagnostics : List Diagnostic) : Prop where
  kept : methods = (trace.map (·.2)).eraseDupsBy Method.sameKey
  distinct : (methods.map Method.key).Nodup
  duplicates : diagnostics.filter (·.kind.isDuplicate) =
    (repeatsAfter [] trace).map fun x => duplicateNote x.1 x.2

theorem DedupRun.firstWins {n n' : Notes} {trace : List (Nat × Method)} {methods : List Method}
    (run : DedupRun n trace methods n') (quiet : n.Quiet) : FirstWins trace methods n'.diagnostics := by
  have kept : methods = keptAfter [] (trace.map (·.2)) := by rw [run.kept, quiet.1]
  refine ⟨by simp [kept, keptAfter_eq_eraseDupsBy], kept ▸ nodup_keptAfter [] _, ?_⟩
  rw [run.duplicates, quiet.1, quiet.2, List.nil_append]

section Entities

variable (img : MachImage) (policy : ListPolicy)

def metaclassTrace (address : Nat) (record : ClassRecord) : List (Nat × Method) :=
  match metaclassData img address record.isa with
  | .ok (some metaData) => methodTrace img policy metaData.baseMethods true none
  | _ => []

theorem metaclassPart_dedupRun (address : Nat) (record : ClassRecord) (n : Notes) :
    DedupRun n (metaclassTrace img policy address record)
      ((metaclassPart img policy address record).run n).1.1
      ((metaclassPart img policy address record).run n).2 := by
  unfold metaclassPart metaclassTrace
  rcases metaclassData img address record.isa with e | (_ | metaData)
  · exact (DedupRun.nil n).noted (by rfl)
  · exact DedupRun.nil n
  · have listed := methodList_dedupRun img policy metaData.baseMethods true none n
    have properties := propertyList_local img policy metaData.baseProperties true
    rw [run_bind]
    generalize (methodList img policy metaData.baseMethods true none).run n = read at listed
    obtain ⟨⟨methods, _⟩, n₁⟩ := read
    rw [run_bind, Local.run_eq properties]
    exact listed.quiet_after (quiet_run properties (propertyList_plain img policy _ _))

def classTrace (address : Nat) (record : ClassRecord) (data : ClassData) : List (Nat × Method) :=
  methodTrace img policy data.baseMethods false none ++ metaclassTrace img policy address record

def categoryTrace (record : CategoryRecord) : List (Nat × Method) :=
  methodTrace img policy record.instanceMethods false none ++
    methodTrace img policy record.classMethods true none

theorem classOfRecord_firstWins (address : Nat) (record : ClassRecord) (data : ClassData)
    (name : String) :
    FirstWins (classTrace img policy address record data)
      ((classOfRecord img policy address record data name).instanceMethods ++
        (classOfRecord img policy address record data name).classMethods)
      (classOfRecord img policy address record data name).diagnostics := by
  have instances := methodList_dedupRun img policy data.baseMethods false none {}
  have protocols := quiet_run (protocolRefsReading_local img policy data.baseProtocols)
    (protocolRefsReading_plain img policy _)
  have ivars := quiet_run (ivarList_local img policy data.ivars) (ivarList_plain img policy _)
  have properties := quiet_run (propertyList_local img policy data.baseProperties false)
    (propertyList_plain img policy _ _)
  -- the lists between the instance and the class methods say nothing of selectors
  have before := ((instances.quiet_after protocols).quiet_after ivars).quiet_after properties
  have whole := before.then_local (metaclassPart_local img policy address record) (fun p mem => ?_)
    (metaclassPart_dedupRun img policy address record)
  · simpa [classOfRecord, classTrace, Notes.append] using whole.firstWins ⟨rfl, rfl⟩
  · -- the selectors taken before the class methods are those of instance methods
    simp only [Notes.append, protocols.1, ivars.1, properties.1, List.append_nil] at mem
    exact Local.fresh_run (methodList_local img policy data.baseMethods false none) (by simp) p mem

theorem categoryOfRecord_firstWins (address : Nat) (record : CategoryRecord) (name : String) :
    FirstWins (categoryTrace img policy record)
      ((categoryOfRecord img policy address record name).instanceMethods ++
        (categoryOfRecord img policy address record name).classMethods)
      (categoryOfRecord img policy address record name).diagnostics := by
  have methods := (methodList_dedupRun img policy record.instanceMethods false none {}).then_local
    (methodList_local img policy record.classMethods true none)
    (Local.fresh_run (methodList_local img policy _ false none) (by simp))
    (methodList_dedupRun img policy record.classMethods true none)
  -- after both method lists, the category reads lists that say nothing of selectors
  have protocols := quiet_run (protocolRefsReading_local img policy record.protocols)
    (protocolRefsReading_plain img policy _)
  have properties := quiet_run (propertyList_local img policy record.instanceProperties false)
    (propertyList_plain img policy _ _)
  have classProperties := quiet_run (categoryClassProperties_local img policy record) (by
    unfold categoryClassProperties
    split
    next => exact propertyList_plain img policy _ _
    next => exact NotesOnly.pure _)
  have whole := ((methods.quiet_after protocols).quiet_after
    properties).quiet_after classProperties
  simpa [categoryOfRecord, categoryTrace, Notes.append] using whole.firstWins ⟨rfl, rfl⟩

end Entities

end Metadata

end ObjcImage
