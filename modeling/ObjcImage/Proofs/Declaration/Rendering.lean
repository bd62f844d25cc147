import Mathlib
import ObjcImage.Proofs.Declaration.Expansion

set_option autoImplicit false

/-!
One pass of `render` that keeps, beside the text, the nodes and the aggregates it writes, proved
equal to `render`, `written` and `expansions`. It ties what the forward declarations and the
expansion depth are about to the text itself.
-/

namespace ObjcImage

namespace Declaration

/-- What one pass of `render` over a type gives: the text, the nodes written, and the aggregates
written with what encloses them. -/
structure Rendering where
  text : String
  nodes : List TypeNode
  aggregates : List Expansion

mutual

/-- `render`, keeping the nodes it writes and the aggregates it writes, each where it writes it. -/
def rendering (expandDepth : Nat) : TypeNode → String → Layout → List Enclosure → Rendering
  | .primitive .cString, d, _, _ => ⟨join "char" ("*" ++ d), [.primitive .cString], []⟩
  | .primitive .undefined, d, _, _ => ⟨join "__unknown_type /* ? */" d, [.primitive .undefined], []⟩
  | .primitive p, d, _, _ => ⟨join p.cName d, [.primitive p], []⟩
  | .object (some className) protocols, d, _, _ =>
    ⟨join (className ++ protocolList protocols) ("*" ++ d), [.object (some className) protocols], []⟩
  | .object none protocols, d, _, _ =>
    ⟨if protocols.isEmpty then join "id" d else join ("id " ++ protocolList protocols) d,
      [.object none protocols], []⟩
  | .block none, d, _, _ => ⟨join unknownBlock d, [.block none], []⟩
  | .block (some []), d, _, _ => ⟨join unknownBlock d, [.block (some [])], []⟩
  | .block (some (ret :: args)), d, layout, around =>
    let names := renderingArgs expandDepth true args around
    let r := rendering expandDepth ret
      ("(^" ++ d ++ ")(" ++ parameterList (names.map (·.text)) ++ ")") layout around
    ⟨r.text, .block (some (ret :: args)) :: (r.nodes ++ names.flatMap (·.nodes)),
      r.aggregates ++ names.flatMap (·.aggregates)⟩
  | .functionPointer, d, _, _ => ⟨join unknownFunctionPointer d, [.functionPointer], []⟩
  | .pointer target, d, layout, around =>
    let r := rendering expandDepth target (if isArray target then "(*" ++ d ++ ")" else "*" ++ d)
      layout around
    ⟨r.text, .pointer target :: r.nodes, r.aggregates⟩
  | .array count element, d, layout, around =>
    let r := rendering expandDepth element (d ++ "[" ++ toString count ++ "]") layout around
    ⟨r.text, .array count element :: r.nodes, r.aggregates⟩
  | .aggregate kind name fields, d, layout, around =>
    let spelled := spellsOut expandDepth name fields layout.level
    let body := renderingAggregate expandDepth kind name fields d layout spelled around
    ⟨body.text, .aggregate kind name fields :: body.nodes,
      ⟨kind, name, fields, around, spelled⟩ :: body.aggregates⟩
  | .bitfield width, d, _, _ => ⟨"unsigned int " ++ d ++ ":" ++ toString width, [.bitfield width], []⟩
  | .modified m inner, d, layout, around =>
    let r := rendering expandDepth inner d layout around
    ⟨m.keyword ++ " " ++ r.text, .modified m inner :: r.nodes, r.aggregates⟩
  | .unknown raw, d, _, _ =>
    ⟨join ("__unknown_type /* " ++ String.ofList (commentSafe raw.toList) ++ " */") d, [.unknown raw], []⟩

def renderingArgs (expandDepth : Nat) (first : Bool) : List TypeNode → List Enclosure → List Rendering
  | [], _ => []
  | t :: ts, around =>
    if first && isBlock t then renderingArgs expandDepth false ts around
    else rendering expandDepth t "" ⟨0, none⟩ (.arguments :: around) ::
      renderingArgs expandDepth false ts around

def renderingAggregate (expandDepth : Nat) (kind : AggregateKind) (name : Option String) :
    Option (List (Option String × TypeNode)) → String → Layout → Bool → List Enclosure → Rendering
  | some fields, d, layout, true, around =>
    let head := match name with
      | some n => kind.keyword ++ " " ++ n
      | none => kind.keyword
    let inner : Layout := ⟨layout.level + 1, layout.indent.map (· + 1)⟩
    let written := renderingMembers expandDepth inner 0 fields (.body :: around)
    let ms := written.map (·.text)
    let body := match layout.indent with
      | none =>
        if ms.isEmpty then head ++ " \x7b\x7d"
        else head ++ " \x7b " ++ " ".intercalate ms ++ " \x7d"
      | some n =>
        head ++ " \x7b\n" ++ String.join (ms.map fun m => indentText (n + 1) ++ m ++ "\n") ++
          indentText n ++ "\x7d"
    ⟨join body d, written.flatMap (·.nodes), written.flatMap (·.aggregates)⟩
  | _, d, _, _, _ =>
    ⟨match name with
      | some n => join (kind.keyword ++ " " ++ n) d
      | none => join (kind.keyword ++ " /* anonymous */") d, [], []⟩

def renderingMembers (expandDepth : Nat) (inner : Layout) (position : Nat) :
    List (Option String × TypeNode) → List Enclosure → List Rendering
  | [], _ => []
  | (name, t) :: fs, around =>
    let r := rendering expandDepth t (fieldName name position) inner around
    ⟨r.text ++ ";", r.nodes, r.aggregates⟩ :: renderingMembers expandDepth inner (position + 1) fs around

end

variable (expandDepth : Nat)

mutual

theorem rendering_eq : ∀ (t : TypeNode) (d : String) (layout : Layout) (around : List Enclosure),
    rendering expandDepth t d layout around =
      ⟨render expandDepth t d layout, written expandDepth t layout,
        expansions expandDepth t layout around⟩
  | .block (some (ret :: args)), d, layout, around => by
    rw [rendering, rendering_eq ret]
    -- the block literal that starts the arguments is left out of the parameter list
    cases args with
    | nil => rfl
    | cons t ts =>
      obtain ⟨texts, nodes, aggregates⟩ := renderingArgs_eq ts around
      have head := rendering_eq t "" ⟨0, none⟩ (.arguments :: around)
      cases t
      case block b =>
        simp only [renderingArgs, isBlock, Bool.and_self, ↓reduceIte, texts, nodes, aggregates]
        rfl
      all_goals
        simp only [renderingArgs, isBlock, Bool.and_false, Bool.false_eq_true, ↓reduceIte, head,
          List.map_cons, List.flatMap_cons, texts, nodes, aggregates]
        rfl
  | .pointer target, d, layout, around => by
    simp only [rendering, render, written, expansions, rendering_eq target]
  | .array count element, d, layout, around => by
    simp only [rendering, render, written, expansions, rendering_eq element]
  | .aggregate kind name fields, d, layout, around => by
    simp only [rendering, render_aggregate, written, expansions, renderingAggregate_eq]
    rfl
  | .modified m inner, d, layout, around => by
    simp only [rendering, render, written, expansions, rendering_eq inner]
  | .primitive p, _, _, _ => by cases p <;> rfl
  | .object (some _) _, _, _, _ | .object none _, _, _, _ | .block none, _, _, _
  | .block (some []), _, _, _ | .functionPointer, _, _, _ | .bitfield _, _, _, _
  | .unknown _, _, _, _ => rfl

theorem renderingArgs_eq : ∀ (ts : List TypeNode) (around : List Enclosure),
    (renderingArgs expandDepth false ts around).map (·.text) = typeNames expandDepth ts ∧
      (renderingArgs expandDepth false ts around).flatMap (·.nodes) = writtenArgs expandDepth false ts ∧
      (renderingArgs expandDepth false ts around).flatMap (·.aggregates) =
        expansionsArgs expandDepth false ts around
  | [], _ => ⟨rfl, rfl, rfl⟩
  | t :: ts, around => by
    obtain ⟨texts, nodes, aggregates⟩ := renderingArgs_eq ts around
    simp only [renderingArgs, writtenArgs, expansionsArgs, typeNames, Bool.false_and,
      Bool.false_eq_true, ↓reduceIte, List.map_cons, List.flatMap_cons, rendering_eq t, texts, nodes,
      aggregates, and_self]

theorem renderingAggregate_eq : ∀ (kind : AggregateKind) (name : Option String)
    (fields : Option (List (Option String × TypeNode))) (d : String) (layout : Layout) (spelled : Bool)
    (around : List Enclosure),
    renderingAggregate expandDepth kind name fields d layout spelled around =
      ⟨renderAggregate expandDepth kind name fields d layout spelled,
        writtenBody expandDepth fields layout spelled, expansionsBody expandDepth fields layout spelled around⟩
  | kind, name, some fields, d, ⟨level, indent⟩, true, around => by
    obtain ⟨texts, nodes, aggregates⟩ :=
      renderingMembers_eq ⟨level + 1, indent.map (· + 1)⟩ 0 fields (.body :: around)
    -- both texts match on the layout and the name, each with its own matcher: split them
    cases indent <;> cases name <;>
      simp only [renderingAggregate, renderAggregate, writtenBody, expansionsBody, texts, nodes, aggregates]
  | _, _, some _, _, _, false, _ | _, _, none, _, _, _, _ => rfl

theorem renderingMembers_eq : ∀ (inner : Layout) (position : Nat) (fields : List (Option String × TypeNode))
    (around : List Enclosure),
    (renderingMembers expandDepth inner position fields around).map (·.text) =
        members expandDepth inner position fields ∧
      (renderingMembers expandDepth inner position fields around).flatMap (·.nodes) =
        writtenMembers expandDepth inner fields ∧
      (renderingMembers expandDepth inner position fields around).flatMap (·.aggregates) =
        expansionsMembers expandDepth inner fields around
  | _, _, [], _ => ⟨rfl, rfl, rfl⟩
  | inner, position, (name, t) :: fs, around => by
    obtain ⟨texts, nodes, aggregates⟩ := renderingMembers_eq inner (position + 1) fs around
    simp only [renderingMembers, members, writtenMembers, expansionsMembers, List.map_cons,
      List.flatMap_cons, rendering_eq t, texts, nodes, aggregates, and_self]

end

theorem renderingAggregate_definition (kind : AggregateKind) (name : Option String)
    (fields : List (Option String × TypeNode)) :
    (renderingAggregate expandDepth kind name (some fields) "" ⟨0, some 0⟩ true []).text ++ ";" =
        definition expandDepth kind name (some fields) ∧
      (renderingAggregate expandDepth kind name (some fields) "" ⟨0, some 0⟩ true []).nodes =
        writtenDefinition expandDepth fields ∧
      (renderingAggregate expandDepth kind name (some fields) "" ⟨0, some 0⟩ true []).aggregates =
        definitionExpansions expandDepth fields := by
  rw [renderingAggregate_eq]
  exact ⟨rfl, rfl, rfl⟩

/-! ### The names written stand in the text -/

theorem infix_join_left (base d : String) : base.toList <:+: (join base d).toList := by
  unfold join
  split
  · exact List.infix_refl _
  · simp only [String.toList_append]
    exact (List.prefix_append _ _).isInfix.trans (List.prefix_append _ _).isInfix

theorem infix_join_right (base d : String) : d.toList <:+: (join base d).toList := by
  unfold join
  split
  · next empty => simp [String.isEmpty_iff.1 empty]
  · simp only [String.toList_append]
    exact (List.suffix_append _ _).isInfix

theorem infix_parameterList {x : String} {names : List String} (mem : x ∈ names) :
    x.toList <:+: (parameterList names).toList := by
  unfold parameterList
  split
  · next empty => simp [List.isEmpty_iff.1 empty] at mem
  · exact infix_of_mem_intercalate mem

theorem renderingAggregate_declarator (kind : AggregateKind) (name : Option String)
    (fields : Option (List (Option String × TypeNode))) (d : String) (layout : Layout) (spelled : Bool)
    (around : List Enclosure) :
    d.toList <:+: (renderingAggregate expandDepth kind name fields d layout spelled around).text.toList := by
  unfold renderingAggregate
  split
  · exact infix_join_right _ _
  · split <;> exact infix_join_right _ _

theorem infix_append_right (a x : String) : x.toList <:+: (a ++ x).toList := by
  rw [String.toList_append]
  exact (List.suffix_append _ _).isInfix

theorem infix_append_left (x b : String) : x.toList <:+: (x ++ b).toList := by
  rw [String.toList_append]
  exact (List.prefix_append _ _).isInfix

theorem infix_join_of_mem {x : String} {l : List String} (mem : x ∈ l) :
    x.toList <:+: (String.join l).toList := by
  rw [String.toList_join]
  exact List.infix_of_mem_flatten (List.mem_map_of_mem mem)

theorem infix_append_mid (a x b : String) : x.toList <:+: (a ++ x ++ b).toList :=
  ⟨a.toList, b.toList, by simp⟩

theorem rendering_declarator : ∀ (t : TypeNode) (d : String) (layout : Layout) (around : List Enclosure),
    d.toList <:+: (rendering expandDepth t d layout around).text.toList
  | .block (some (ret :: args)), d, layout, around => by
    rw [rendering]
    refine List.IsInfix.trans ?_ (rendering_declarator ret _ layout around)
    simp only [String.toList_append, List.append_assoc]
    exact List.infix_append' _ _ _
  | .pointer target, d, layout, around => by
    rw [rendering]
    refine List.IsInfix.trans ?_ (rendering_declarator target _ layout around)
    split
    · simp only [String.toList_append, List.append_assoc]
      exact List.infix_append' _ _ _
    · exact infix_append_right _ _
  | .array count element, d, layout, around => by
    rw [rendering]
    refine List.IsInfix.trans ?_ (rendering_declarator element _ layout around)
    simp only [String.toList_append, List.append_assoc]
    exact (List.prefix_append _ _).isInfix
  | .aggregate kind name fields, d, layout, around => renderingAggregate_declarator _ _ _ _ _ _ _ _
  | .modified m inner, d, layout, around => by
    rw [rendering]
    exact (rendering_declarator inner d layout around).trans (infix_append_right _ _)
  | .bitfield width, d, _, _ => by
    simp only [rendering, String.toList_append, List.append_assoc]
    exact List.infix_append' _ _ _
  | .primitive p, d, _, _ => by
    cases p
    case cString =>
      rw [rendering]
      exact (infix_append_right "*" d).trans (infix_join_right _ _)
    all_goals
      simp only [rendering]
      exact infix_join_right _ _
  | .object (some _) _, d, _, _ => by
    rw [rendering]
    exact (infix_append_right "*" d).trans (infix_join_right _ _)
  | .object none _, d, _, _ => by
    rw [rendering]
    split <;> exact infix_join_right _ _
  | .block none, d, _, _ | .block (some []), d, _, _ | .functionPointer, d, _, _ | .unknown _, d, _, _ => by
    rw [rendering]
    exact infix_join_right _ _

mutual

theorem rendering_object : ∀ (t : TypeNode) (d : String) (layout : Layout) (around : List Enclosure)
    {c : String} {ps : List String}, .object (some c) ps ∈ (rendering expandDepth t d layout around).nodes →
      (c ++ protocolList ps).toList <:+: (rendering expandDepth t d layout around).text.toList
  | .block (some (ret :: args)), d, layout, around, c, ps, mem => by
    rw [rendering] at mem ⊢
    simp only [List.mem_cons, reduceCtorEq, false_or, List.mem_append, List.mem_flatMap] at mem
    rcases mem with inRet | ⟨a, arg, inArg⟩
    · exact rendering_object ret _ layout around inRet
    · -- an argument's text stands in the parameter list, inside the declarator of the return type
      refine (renderingArgs_object true args around a arg inArg).trans
        ((infix_parameterList (List.mem_map_of_mem arg)).trans ?_)
      exact (infix_append_mid _ _ _).trans (rendering_declarator expandDepth ret _ layout around)
  | .pointer target, d, layout, around, c, ps, mem => by
    rw [rendering] at mem ⊢
    simp only [List.mem_cons, reduceCtorEq, false_or] at mem
    exact rendering_object target _ layout around mem
  | .array count element, d, layout, around, c, ps, mem => by
    rw [rendering] at mem ⊢
    simp only [List.mem_cons, reduceCtorEq, false_or] at mem
    exact rendering_object element _ layout around mem
  | .aggregate kind name fields, d, layout, around, c, ps, mem => by
    rw [rendering] at mem ⊢
    simp only [List.mem_cons, reduceCtorEq, false_or] at mem
    exact renderingAggregate_object kind name fields d layout _ around mem
  | .modified m inner, d, layout, around, c, ps, mem => by
    rw [rendering] at mem ⊢
    simp only [List.mem_cons, reduceCtorEq, false_or] at mem
    exact (rendering_object inner d layout around mem).trans (infix_append_right _ _)
  | .object (some c') ps', d, _, _, c, ps, mem => by
    rw [rendering] at mem ⊢
    simp only [List.mem_singleton, TypeNode.object.injEq, Option.some.injEq] at mem
    obtain ⟨rfl, rfl⟩ := mem
    exact infix_join_left _ _
  | .primitive p, _, _, _, _, _, mem => by cases p <;> simp [rendering] at mem
  | .object none _, _, _, _, _, _, mem | .block none, _, _, _, _, _, mem
  | .block (some []), _, _, _, _, _, mem | .functionPointer, _, _, _, _, _, mem
  | .bitfield _, _, _, _, _, _, mem | .unknown _, _, _, _, _, _, mem => by simp [rendering] at mem

theorem renderingArgs_object : ∀ (first : Bool) (ts : List TypeNode) (around : List Enclosure),
    ∀ a ∈ renderingArgs expandDepth first ts around, ∀ {c : String} {ps : List String},
      .object (some c) ps ∈ a.nodes → (c ++ protocolList ps).toList <:+: a.text.toList
  | _, [], _, a, mem, _, _, _ => absurd mem List.not_mem_nil
  | first, t :: ts, around, a, mem, c, ps, inNodes => by
    rw [renderingArgs] at mem
    split at mem
    · exact renderingArgs_object false ts around a mem inNodes
    · rcases List.mem_cons.1 mem with rfl | rest
      · exact rendering_object t "" ⟨0, none⟩ (.arguments :: around) inNodes
      · exact renderingArgs_object false ts around a rest inNodes

theorem renderingAggregate_object : ∀ (kind : AggregateKind) (name : Option String)
    (fields : Option (List (Option String × TypeNode))) (d : String) (layout : Layout) (spelled : Bool)
    (around : List Enclosure) {c : String} {ps : List String},
    .object (some c) ps ∈ (renderingAggregate expandDepth kind name fields d layout spelled around).nodes →
      (c ++ protocolList ps).toList <:+:
        (renderingAggregate expandDepth kind name fields d layout spelled around).text.toList
  | kind, name, some fields, d, layout, true, around, c, ps, mem => by
    simp only [renderingAggregate] at mem ⊢
    obtain ⟨m, member, inMember⟩ := List.mem_flatMap.1 mem
    refine (renderingMembers_object _ 0 fields (.body :: around) m member inMember).trans ?_
    refine List.IsInfix.trans ?_ (infix_join_left _ _)
    -- a member's line stands in the body, on one line or over lines
    have listed : m.text ∈ List.map Rendering.text _ := List.mem_map.2 ⟨m, member, rfl⟩
    split
    · split
      · next empty => simp [List.isEmpty_iff.1 empty] at listed
      · exact (infix_of_mem_intercalate listed).trans (infix_append_mid _ _ _)
    · next k _ =>
      have indented : indentText (k + 1) ++ m.text ++ "\n" ∈
          List.map (fun x => indentText (k + 1) ++ x ++ "\n") _ := List.mem_map.2 ⟨_, listed, rfl⟩
      have line := infix_join_of_mem indented
      exact (infix_append_mid _ _ _).trans (line.trans ((infix_append_mid _ _ _).trans (infix_append_left _ _)))
  | _, _, some _, _, _, false, _, _, _, mem | _, _, none, _, _, _, _, _, _, mem => by
    simp [renderingAggregate] at mem

theorem renderingMembers_object : ∀ (inner : Layout) (position : Nat)
    (fields : List (Option String × TypeNode)) (around : List Enclosure),
    ∀ m ∈ renderingMembers expandDepth inner position fields around, ∀ {c : String} {ps : List String},
      .object (some c) ps ∈ m.nodes → (c ++ protocolList ps).toList <:+: m.text.toList
  | _, _, [], _, m, mem, _, _, _ => absurd mem List.not_mem_nil
  | inner, position, (name, t) :: fs, around, m, mem, c, ps, inNodes => by
    rw [renderingMembers] at mem
    rcases List.mem_cons.1 mem with rfl | rest
    · exact (rendering_object t _ inner around inNodes).trans (infix_append_left _ _)
    · exact renderingMembers_object inner (position + 1) fs around m rest inNodes

end

theorem render_object_infix (t : TypeNode) (d : String) (layout : Layout) {c : String}
    {ps : List String} (mem : .object (some c) ps ∈ written expandDepth t layout) :
    (c ++ protocolList ps).toList <:+: (render expandDepth t d layout).toList := by
  have named : .object (some c) ps ∈ (rendering expandDepth t d layout []).nodes →
      (c ++ protocolList ps).toList <:+: (rendering expandDepth t d layout []).text.toList :=
    rendering_object expandDepth t d layout []
  rw [rendering_eq] at named
  exact named mem

theorem definition_object_infix (kind : AggregateKind) (name : Option String)
    (fields : List (Option String × TypeNode)) {c : String} {ps : List String}
    (mem : .object (some c) ps ∈ writtenDefinition expandDepth fields) :
    (c ++ protocolList ps).toList <:+: (definition expandDepth kind name (some fields)).toList := by
  obtain ⟨text, nodes, -⟩ := renderingAggregate_definition expandDepth kind name fields
  rw [← text]
  rw [← nodes] at mem
  exact (renderingAggregate_object expandDepth kind name _ _ _ _ _ mem).trans (infix_append_left _ _)

end Declaration

namespace Interface

open Declaration

theorem ForwardExact.written_object {s : Selection} (exact : ForwardExact s) {expandDepth : Nat}
    {c : String} {ps : List String} (writes : s.Writes expandDepth (.object (some c) ps)) :
    ((∃ t ∈ s.types, ∃ layout, ∀ d, (c ++ protocolList ps).toList <:+: (render expandDepth t d layout).toList) ∨
      ∃ b ∈ (Usage.of s).aggregates,
        (c ++ protocolList ps).toList <:+: (definition expandDepth b.kind (some b.name) (some b.fields)).toList) ∧
      (c ∈ s.classes.map (·.name) ∨ c ∈ (Usage.of s).forwardClasses s) ∧
      ∀ p ∈ ps, p ∈ s.protocols.map (·.name) ∨ p ∈ (Usage.of s).forwardProtocols s := by
  refine ⟨?_, exact.class_declared writes, fun p listed => exact.protocol_declared writes listed⟩
  rcases writes with ⟨t, typed, layout, mem⟩ | ⟨b, kept, mem⟩
  · exact .inl ⟨t, typed, layout, fun d => render_object_infix expandDepth t d layout mem⟩
  · exact .inr ⟨b, kept, definition_object_infix expandDepth b.kind (some b.name) b.fields mem⟩

end Interface

end ObjcImage
