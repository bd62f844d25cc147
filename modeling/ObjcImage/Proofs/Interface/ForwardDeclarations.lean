import Mathlib
import ObjcImage.Interface.Emit

set_option autoImplicit false

/-!
The forward declarations and typedefs of an emitted text say exactly what its declarations use.
Writing a type and collecting what it uses are two walks over the tree; every node the first
writes is one the second notes.
-/

namespace ObjcImage

namespace Declaration

def isBlock : TypeNode → Bool
  | .block _ => true
  | _ => false

mutual

def written (expandDepth : Nat) : TypeNode → Layout → List TypeNode
  | .block (some (ret :: args)), layout =>
    .block (some (ret :: args)) :: (written expandDepth ret layout ++ writtenArgs expandDepth true args)
  | .pointer target, layout => .pointer target :: written expandDepth target layout
  | .array count element, layout => .array count element :: written expandDepth element layout
  | .aggregate kind name fields, layout =>
    let expand := match fields, name with
      | none, _ => false
      | some _, none => true
      | some _, some _ => decide (0 < layout.level ∧ layout.level < expandDepth)
    .aggregate kind name fields :: writtenBody expandDepth fields layout expand
  | .modified m inner, layout => .modified m inner :: written expandDepth inner layout
  | t, _ => [t]

def writtenArgs (expandDepth : Nat) (first : Bool) : List TypeNode → List TypeNode
  | [] => []
  | t :: ts =>
    (if first && isBlock t then [] else written expandDepth t ⟨0, none⟩) ++
      writtenArgs expandDepth false ts

def writtenBody (expandDepth : Nat) :
    Option (List (Option String × TypeNode)) → Layout → Bool → List TypeNode
  | some fields, layout, true =>
    writtenMembers expandDepth ⟨layout.level + 1, layout.indent.map (· + 1)⟩ fields
  | _, _, _ => []

def writtenMembers (expandDepth : Nat) (inner : Layout) :
    List (Option String × TypeNode) → List TypeNode
  | [] => []
  | (_, t) :: fs => written expandDepth t inner ++ writtenMembers expandDepth inner fs

end

-- the block literal that starts a signature is not written, nor the body of a named struct
-- outside a definition
example : written 1 (.block (some [.primitive .void, .block none,
      .aggregate .struct (some "S") (some [(none, .object (some "A") [])])])) ⟨0, none⟩ =
    [.block (some [.primitive .void, .block none,
      .aggregate .struct (some "S") (some [(none, .object (some "A") [])])]),
      .primitive .void, .aggregate .struct (some "S") (some [(none, .object (some "A") [])])] := rfl

def writtenDefinition (expandDepth : Nat) (fields : List (Option String × TypeNode)) :
    List TypeNode :=
  writtenBody expandDepth (some fields) ⟨0, some 0⟩ true

theorem writtenBody_subset {expandDepth : Nat} {fields : List (Option String × TypeNode)}
    {layout : Layout} {expand : Bool} {nodes : List TypeNode}
    (members : writtenMembers expandDepth ⟨layout.level + 1, layout.indent.map (· + 1)⟩ fields ⊆ nodes) :
    writtenBody expandDepth (some fields) layout expand ⊆ nodes := by
  cases expand
  · simp [writtenBody]
  · exact members

end Declaration

namespace TypeNode

open Declaration

variable (expandDepth : Nat)

mutual

theorem written_subset_nodes : ∀ (t : TypeNode) (layout : Layout), written expandDepth t layout ⊆ t.nodes
  | .block (some (ret :: args)), layout => by
    have first := written_subset_nodes ret layout
    have rest := writtenArgs_subset_nodesAll true args
    simp only [written, nodes, nodesAll]
    exact List.cons_subset_cons _ (List.append_subset.2
      ⟨List.subset_append_of_subset_left _ first, List.subset_append_of_subset_right _ rest⟩)
  | .pointer target, layout => by
    simp only [written, nodes]
    exact List.cons_subset_cons _ (written_subset_nodes target layout)
  | .array count element, layout => by
    simp only [written, nodes]
    exact List.cons_subset_cons _ (written_subset_nodes element layout)
  | .aggregate kind name (some fields), layout => by
    have members := writtenMembers_subset_nodesOfFields ⟨layout.level + 1, layout.indent.map (· + 1)⟩ fields
    simp only [written, nodes]
    exact List.cons_subset_cons _ (writtenBody_subset members)
  | .modified m inner, layout => by
    simp only [written, nodes]
    exact List.cons_subset_cons _ (written_subset_nodes inner layout)
  | .aggregate kind name none, layout => by simp [written, writtenBody, nodes]
  | .block none, layout | .block (some []), layout | .primitive _, layout | .object _ _, layout
  | .functionPointer, layout | .bitfield _, layout | .unknown _, layout => by simp [written, nodes]

theorem writtenArgs_subset_nodesAll :
    ∀ (first : Bool) (ts : List TypeNode), writtenArgs expandDepth first ts ⊆ nodesAll ts
  | _, [] => by simp [writtenArgs]
  | first, t :: ts => by
    have head := written_subset_nodes t ⟨0, none⟩
    have rest := writtenArgs_subset_nodesAll false ts
    simp only [writtenArgs, nodesAll]
    refine List.append_subset.2 ⟨?_, List.subset_append_of_subset_right _ rest⟩
    -- a skipped block literal writes nothing
    split
    · exact List.nil_subset _
    · exact List.subset_append_of_subset_left _ head

theorem writtenMembers_subset_nodesOfFields (inner : Layout) :
    ∀ fields : List (Option String × TypeNode), writtenMembers expandDepth inner fields ⊆ nodesOfFields fields
  | [] => by simp [writtenMembers]
  | (_, t) :: fs => by
    have head := written_subset_nodes t inner
    have rest := writtenMembers_subset_nodesOfFields inner fs
    simp only [writtenMembers, nodesOfFields]
    exact List.append_subset.2
      ⟨List.subset_append_of_subset_left _ head, List.subset_append_of_subset_right _ rest⟩

end

theorem nodes_subset_of_mem_cons {t m : TypeNode} {rest : List TypeNode} (unfolded : t.nodes = t :: rest)
    (inner : ∀ {n : TypeNode}, n ∈ rest → n.nodes ⊆ rest) (mem : m ∈ t.nodes) : m.nodes ⊆ t.nodes := by
  rw [unfolded] at mem ⊢
  rcases List.mem_cons.1 mem with rfl | mem
  · rw [unfolded]
    exact List.Subset.refl _
  · exact List.subset_cons_of_subset _ (inner mem)

mutual

theorem nodes_subset_of_mem : ∀ (t : TypeNode) {m : TypeNode}, m ∈ t.nodes → m.nodes ⊆ t.nodes
  | .block (some types), _, mem => nodes_subset_of_mem_cons rfl (nodesAll_subset_of_mem types) mem
  | .pointer target, _, mem => nodes_subset_of_mem_cons rfl (nodes_subset_of_mem target) mem
  | .array _ element, _, mem => nodes_subset_of_mem_cons rfl (nodes_subset_of_mem element) mem
  | .aggregate _ _ (some fields), _, mem =>
    nodes_subset_of_mem_cons rfl (nodesOfFields_subset_of_mem fields) mem
  | .modified _ inner, _, mem => nodes_subset_of_mem_cons rfl (nodes_subset_of_mem inner) mem
  | .block none, m, mem | .aggregate _ _ none, m, mem | .primitive _, m, mem | .object _ _, m, mem
  | .functionPointer, m, mem | .bitfield _, m, mem | .unknown _, m, mem => by
    simp only [nodes, List.mem_singleton] at mem
    subst mem
    exact List.Subset.refl _

theorem nodesAll_subset_of_mem : ∀ (ts : List TypeNode) {m : TypeNode}, m ∈ nodesAll ts → m.nodes ⊆ nodesAll ts
  | [], m, mem => by simp [nodesAll] at mem
  | t :: ts, m, mem => by
    simp only [nodesAll, List.mem_append] at mem ⊢
    rcases mem with mem | mem
    · exact List.subset_append_of_subset_left _ (nodes_subset_of_mem t mem)
    · exact List.subset_append_of_subset_right _ (nodesAll_subset_of_mem ts mem)

theorem nodesOfFields_subset_of_mem :
    ∀ (fields : List (Option String × TypeNode)) {m : TypeNode}, m ∈ nodesOfFields fields →
      m.nodes ⊆ nodesOfFields fields
  | [], m, mem => by simp [nodesOfFields] at mem
  | (_, t) :: fs, m, mem => by
    simp only [nodesOfFields, List.mem_append] at mem ⊢
    rcases mem with mem | mem
    · exact List.subset_append_of_subset_left _ (nodes_subset_of_mem t mem)
    · exact List.subset_append_of_subset_right _ (nodesOfFields_subset_of_mem fs mem)

end

end TypeNode

theorem ClassRef.name?_eq_some_iff {r : ClassRef} {c : String} : r.name? = some c ↔ r = .named c := by
  cases r <;> simp [ClassRef.name?]

namespace Interface

/-! ### What noting a node records -/

namespace Usage

theorem note_classes (u : Usage) (t : TypeNode) (c : String) :
    c ∈ (u.note t).classes ↔ c ∈ u.classes ∨ ∃ ps, t = .object (some c) ps := by
  unfold note
  split <;> simp_all

theorem note_protocols (u : Usage) (t : TypeNode) (p : String) :
    p ∈ (u.note t).protocols ↔ p ∈ u.protocols ∨ ∃ c ps, t = .object c ps ∧ p ∈ ps := by
  unfold note
  split <;> simp_all

theorem note_functionPointer (u : Usage) (t : TypeNode) :
    (u.note t).functionPointer = true ↔ u.functionPointer = true ∨ t = .functionPointer := by
  unfold note
  split <;> simp_all

theorem note_block (u : Usage) (t : TypeNode) :
    (u.note t).block = true ↔ u.block = true ∨ t = .block none ∨ t = .block (some []) := by
  unfold note
  split <;> simp_all

theorem mem_keepFullest {b a : AggregateBody} {bodies : List AggregateBody}
    (mem : a ∈ keepFullest b bodies) : a = b ∨ a ∈ bodies := by
  induction bodies with
  | nil => simpa [keepFullest] using mem
  | cons c rest ih =>
    rw [keepFullest] at mem
    split at mem
    next =>
      rcases List.mem_cons.1 mem with same | other
      · split at same <;> simp [same]
      · exact .inr (List.mem_cons_of_mem c other)
    next =>
      rcases List.mem_cons.1 mem with same | other
      · exact .inr (same ▸ List.mem_cons_self)
      · exact (ih other).imp id (List.mem_cons_of_mem c)

theorem note_aggregates {u : Usage} {t : TypeNode} {b : AggregateBody} (mem : b ∈ (u.note t).aggregates) :
    b ∈ u.aggregates ∨ t = .aggregate b.kind (some b.name) (some b.fields) := by
  unfold note at mem
  -- only a named aggregate with a body changes the bodies
  split at mem
  case h_5 kind name fields =>
    rcases mem_keepFullest mem with rfl | old
    · exact .inr rfl
    · exact .inl old
  all_goals exact .inl mem

section Run

variable {P : Usage → Prop} {Q : TypeNode → Prop}

-- noting nodes one after another, as `Usage.of` does: what the result has, the start had or a node
-- gave, and conversely
theorem foldl_note_of (step : ∀ (u : Usage) (t : TypeNode), P (u.note t) → P u ∨ Q t) :
    ∀ (ns : List TypeNode) (u : Usage), P (ns.foldl note u) → P u ∨ ∃ n ∈ ns, Q n
  | [], _, holds => .inl holds
  | n :: ns, u, holds => by
    rcases foldl_note_of step ns (u.note n) holds with first | ⟨m, mem, q⟩
    · exact (step u n first).imp id fun q => ⟨n, List.mem_cons_self, q⟩
    · exact .inr ⟨m, List.mem_cons_of_mem n mem, q⟩

theorem foldl_note_of_gains (keeps : ∀ (u : Usage) (t : TypeNode), P u → P (u.note t))
    (gains : ∀ (u : Usage) (t : TypeNode), Q t → P (u.note t)) :
    ∀ (ns : List TypeNode) (u : Usage), (P u ∨ ∃ n ∈ ns, Q n) → P (ns.foldl note u)
  | [], _, holds => holds.resolve_right (by simp)
  | n :: ns, u, holds => by
    refine foldl_note_of_gains keeps gains ns (u.note n) ?_
    rcases holds with before | ⟨m, mem, q⟩
    · exact .inl (keeps u n before)
    · rcases List.mem_cons.1 mem with rfl | later
      · exact .inl (gains u m q)
      · exact .inr ⟨m, later, q⟩

theorem foldl_note_iff (step : ∀ (u : Usage) (t : TypeNode), P (u.note t) ↔ P u ∨ Q t)
    (ns : List TypeNode) (u : Usage) :
    P (ns.foldl note u) ↔ P u ∨ ∃ n ∈ ns, Q n :=
  ⟨foldl_note_of (fun u t => (step u t).1) ns u,
    foldl_note_of_gains (fun u t held => (step u t).2 (.inl held)) (fun u t q => (step u t).2 (.inr q)) ns u⟩

end Run

end Usage

theorem nodup_eraseDups {α : Type} [BEq α] [LawfulBEq α] : ∀ l : List α, l.eraseDups.Nodup
  | [] => List.nodup_nil
  | a :: as => by
    rw [List.eraseDups_cons]
    have rest := nodup_eraseDups (as.filter fun b => !b == a)
    refine List.nodup_cons.2 ⟨?_, rest⟩
    simp
termination_by l => l.length
decreasing_by
  simp only [List.length_cons]
  exact Nat.lt_succ_of_le (List.length_filter_le _ _)

theorem mem_sortedNames {names : List String} {n : String} : n ∈ sortedNames names ↔ n ∈ names := by
  simp [sortedNames, List.mem_mergeSort]

theorem nodup_sortedNames (names : List String) : (sortedNames names).Nodup :=
  nodup_eraseDups _

/-! ### What the selected entities use -/

namespace Selection

variable (s : Selection)

def typeNodes : List TypeNode := s.types.flatMap TypeNode.nodes

/-- The classes the selected entities use: as the class of an object type, as a superclass, or as
the class a category extends. -/
def UsesClass (c : String) : Prop :=
  (∃ ps, .object (some c) ps ∈ s.typeNodes) ∨ (∃ k ∈ s.classes, k.superclass = .named c) ∨
    ∃ k ∈ s.categories, k.extendedClass = .named c

/-- The protocols the selected entities use: in an object type, or in a list of adopted
protocols. -/
def UsesProtocol (p : String) : Prop :=
  (∃ c ps, .object c ps ∈ s.typeNodes ∧ p ∈ ps) ∨ (∃ q ∈ s.protocols, p ∈ q.protocols) ∨
    (∃ k ∈ s.classes, p ∈ k.protocols) ∨ ∃ k ∈ s.categories, p ∈ k.protocols

/-- The nodes written for the selected entities: of their types, at any layout, and of the
definitions of the aggregates they use. -/
def Writes (expandDepth : Nat) (n : TypeNode) : Prop :=
  (∃ t ∈ s.types, ∃ layout, n ∈ Declaration.written expandDepth t layout) ∨
    ∃ b ∈ (Usage.of s).aggregates, n ∈ Declaration.writtenDefinition expandDepth b.fields

variable {s}

theorem nodes_subset_typeNodes {m : TypeNode} (mem : m ∈ s.typeNodes) : m.nodes ⊆ s.typeNodes := by
  obtain ⟨t, typed, node⟩ := List.mem_flatMap.1 mem
  exact fun n inner => List.mem_flatMap.2 ⟨t, typed, TypeNode.nodes_subset_of_mem t node inner⟩

end Selection

/-! ### The forward declarations and typedefs -/

namespace Usage

variable (u : Usage) (s : Selection)

def forwardClasses : List String := u.classes.filter fun n => !(s.classes.any (·.name == n))

def forwardProtocols : List String := u.protocols.filter fun n => !(s.protocols.any (·.name == n))

def forwardLines : List String :=
  (if (u.forwardClasses s).isEmpty then [] else ["@class " ++ ", ".intercalate (u.forwardClasses s) ++ ";"]) ++
    (if (u.forwardProtocols s).isEmpty then []
    else ["@protocol " ++ ", ".intercalate (u.forwardProtocols s) ++ ";"])

def typedefLines : List String :=
  (if u.functionPointer then
    ["typedef void (*" ++ Declaration.unknownFunctionPointer ++ ")(void);"] else []) ++
  (if u.block then ["typedef void (^" ++ Declaration.unknownBlock ++ ")(void);"] else [])

theorem forwardDeclarations_eq : u.forwardDeclarations s = "\n".intercalate (u.forwardLines s) := rfl

theorem typedefs_eq : u.typedefs = "\n".intercalate u.typedefLines := rfl

variable {u s}

theorem mem_forwardClasses {c : String} :
    c ∈ u.forwardClasses s ↔ c ∈ u.classes ∧ c ∉ s.classes.map (·.name) := by
  simp [forwardClasses]

theorem mem_forwardProtocols {p : String} :
    p ∈ u.forwardProtocols s ↔ p ∈ u.protocols ∧ p ∉ s.protocols.map (·.name) := by
  simp [forwardProtocols]

variable (s)

theorem mem_of_classes (c : String) : c ∈ (Usage.of s).classes ↔ s.UsesClass c := by
  have noted := foldl_note_iff (P := fun u => c ∈ u.classes) (fun u t => note_classes u t c)
    s.typeNodes {}
  show c ∈ sortedNames ((s.typeNodes.foldl note {}).classes ++ _ ++ _) ↔ _
  rw [mem_sortedNames, List.mem_append, List.mem_append, noted]
  simp [Selection.UsesClass, List.mem_filterMap, ClassRef.name?_eq_some_iff, or_assoc]

theorem mem_of_protocols (p : String) : p ∈ (Usage.of s).protocols ↔ s.UsesProtocol p := by
  have noted := foldl_note_iff (P := fun u => p ∈ u.protocols) (fun u t => note_protocols u t p)
    s.typeNodes {}
  show p ∈ sortedNames ((s.typeNodes.foldl note {}).protocols ++ _ ++ _ ++ _) ↔ _
  rw [mem_sortedNames, List.mem_append, List.mem_append, List.mem_append, noted]
  simp [Selection.UsesProtocol, or_assoc]

theorem of_functionPointer :
    (Usage.of s).functionPointer = true ↔ .functionPointer ∈ s.typeNodes := by
  have noted := foldl_note_iff (P := fun u => u.functionPointer = true) note_functionPointer
    s.typeNodes {}
  show (s.typeNodes.foldl note {}).functionPointer = true ↔ _
  rw [noted]
  simp

theorem of_block :
    (Usage.of s).block = true ↔ .block none ∈ s.typeNodes ∨ .block (some []) ∈ s.typeNodes := by
  have noted := foldl_note_iff (P := fun u => u.block = true) note_block s.typeNodes {}
  show (s.typeNodes.foldl note {}).block = true ↔ _
  rw [noted]
  simp [and_or_left, exists_or]

variable {s}

theorem aggregate_mem_typeNodes {b : AggregateBody} (kept : b ∈ (Usage.of s).aggregates) :
    .aggregate b.kind (some b.name) (some b.fields) ∈ s.typeNodes := by
  have sorted : b ∈ (s.typeNodes.foldl note {}).aggregates :=
    List.mem_mergeSort.1 kept
  rcases foldl_note_of (P := fun u => b ∈ u.aggregates) (fun _ _ => note_aggregates) _ {} sorted
    with none | ⟨n, mem, rfl⟩
  · cases none
  · exact mem

end Usage

/-! ### Soundness and exactness -/

/-- What the forward declarations and typedefs of a selection say: every node written for the
selected entities is a node of their types; the `@class` line names exactly the classes they use
and do not select, and the `@protocol` line likewise the protocols, each once; and a typedef is
there exactly when a node of their types is written as its name. -/
structure ForwardExact (s : Selection) : Prop where
  written : ∀ expandDepth n, s.Writes expandDepth n → n ∈ s.typeNodes
  classes : ∀ c, c ∈ (Usage.of s).forwardClasses s ↔ s.UsesClass c ∧ c ∉ s.classes.map (·.name)
  protocols : ∀ p, p ∈ (Usage.of s).forwardProtocols s ↔
    s.UsesProtocol p ∧ p ∉ s.protocols.map (·.name)
  classes_nodup : ((Usage.of s).forwardClasses s).Nodup
  protocols_nodup : ((Usage.of s).forwardProtocols s).Nodup
  functionPointer : (Usage.of s).functionPointer = true ↔ .functionPointer ∈ s.typeNodes
  block : (Usage.of s).block = true ↔ .block none ∈ s.typeNodes ∨ .block (some []) ∈ s.typeNodes

theorem Selection.typeNodes_of_writes {s : Selection} {expandDepth : Nat} {n : TypeNode}
    (writes : s.Writes expandDepth n) : n ∈ s.typeNodes := by
  rcases writes with ⟨t, typed, layout, mem⟩ | ⟨b, kept, mem⟩
  · exact List.mem_flatMap.2 ⟨t, typed, TypeNode.written_subset_nodes expandDepth t layout mem⟩
  · -- a definition writes the members of a body that a selected type holds
    have members : n ∈ TypeNode.nodesOfFields b.fields :=
      Declaration.writtenBody_subset (TypeNode.writtenMembers_subset_nodesOfFields expandDepth _ b.fields) mem
    have inner : n ∈ (TypeNode.aggregate b.kind (some b.name) (some b.fields)).nodes := by
      simp only [TypeNode.nodes]
      exact List.mem_cons_of_mem _ members
    exact Selection.nodes_subset_typeNodes (Usage.aggregate_mem_typeNodes kept) inner

theorem forwardExact (s : Selection) : ForwardExact s where
  written _ _ writes := s.typeNodes_of_writes writes
  classes c := by rw [Usage.mem_forwardClasses, Usage.mem_of_classes]
  protocols p := by rw [Usage.mem_forwardProtocols, Usage.mem_of_protocols]
  classes_nodup := (nodup_sortedNames _).filter _
  protocols_nodup := (nodup_sortedNames _).filter _
  functionPointer := Usage.of_functionPointer s
  block := Usage.of_block s

theorem ForwardExact.class_declared {s : Selection} (exact : ForwardExact s) {expandDepth : Nat}
    {c : String} {ps : List String} (writes : s.Writes expandDepth (.object (some c) ps)) :
    c ∈ s.classes.map (·.name) ∨ c ∈ (Usage.of s).forwardClasses s := by
  by_cases selected : c ∈ s.classes.map (·.name)
  · exact .inl selected
  · exact .inr ((exact.classes c).2 ⟨.inl ⟨ps, exact.written _ _ writes⟩, selected⟩)

theorem ForwardExact.protocol_declared {s : Selection} (exact : ForwardExact s) {expandDepth : Nat}
    {c : Option String} {ps : List String} {p : String} (writes : s.Writes expandDepth (.object c ps))
    (listed : p ∈ ps) : p ∈ s.protocols.map (·.name) ∨ p ∈ (Usage.of s).forwardProtocols s := by
  by_cases selected : p ∈ s.protocols.map (·.name)
  · exact .inl selected
  · exact .inr ((exact.protocols p).2 ⟨.inl ⟨c, ps, exact.written _ _ writes, listed⟩, selected⟩)

end Interface

/-! ### The lines in the text -/

theorem mem_intersperse {α : Type} {x sep : α} : ∀ {l : List α}, x ∈ l → x ∈ l.intersperse sep
  | [], mem => absurd mem List.not_mem_nil
  | [_], mem => mem
  | y :: z :: rest, mem => by
    rw [List.intersperse_cons_cons]
    rcases List.mem_cons.1 mem with rfl | later
    · exact List.mem_cons_self
    · exact List.mem_cons_of_mem _ (List.mem_cons_of_mem _ (mem_intersperse later))

theorem infix_of_mem_intercalate {x sep : String} {l : List String} (mem : x ∈ l) :
    x.toList <:+: (sep.intercalate l).toList := by
  rw [String.toList_intercalate, List.intercalate]
  exact List.infix_of_mem_flatten (mem_intersperse (List.mem_map_of_mem mem))

open Interface in
theorem infix_emit_of_block (m : ObjectModel) (o : DumpOptions) {block x : String}
    (mem : block = (Usage.of (Selection.of m o)).forwardDeclarations (Selection.of m o) ∨
      block = (Usage.of (Selection.of m o)).typedefs)
    (inside : x.toList <:+: block.toList) : x.toList <:+: (emit m o).toList := by
  by_cases empty : block = ""
  · -- an empty block is left out, and so is all it holds
    subst empty
    have nothing : x = "" := by simpa using inside
    simp [nothing]
  · unfold emit
    dsimp only
    rw [String.toList_append]
    refine inside.trans ((infix_of_mem_intercalate ?_).trans (List.prefix_append _ _).isInfix)
    rcases mem with rfl | rfl <;> simp [empty]

open Interface in
/-- The forward declarations of an emitted text name exactly the classes and protocols its
declarations use and it does not declare, each once, and everything its declarations write of them
is used; the typedefs stand for exactly the unknown function pointers and blocks used; and the text
holds the `@class`, `@protocol` and typedef lines. -/
theorem emit_forward_declarations_exact (m : ObjectModel) (o : DumpOptions) :
    ForwardExact (Selection.of m o) ∧
      ∀ line ∈ (Usage.of (Selection.of m o)).forwardLines (Selection.of m o) ++
          (Usage.of (Selection.of m o)).typedefLines,
        line.toList <:+: (emit m o).toList := by
  refine ⟨forwardExact _, fun line mem => ?_⟩
  rcases List.mem_append.1 mem with forward | typedef
  · refine infix_emit_of_block m o (.inl rfl) ?_
    rw [Usage.forwardDeclarations_eq]
    exact infix_of_mem_intercalate forward
  · refine infix_emit_of_block m o (.inr rfl) ?_
    rw [Usage.typedefs_eq]
    exact infix_of_mem_intercalate typedef

end ObjcImage
