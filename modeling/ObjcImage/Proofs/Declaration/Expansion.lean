import Mathlib
import ObjcImage.Proofs.Interface.ForwardDeclarations

set_option autoImplicit false

/-!
Which aggregate bodies a declaration spells out. The level `render` carries is not the number of
bodies around an aggregate but the number within the innermost block argument list that holds it,
since a block's arguments are written as declarations of their own.
-/

namespace ObjcImage

namespace Declaration

/-- What encloses a node where `render` writes it: an aggregate body spelled out around it, or the
argument list of a block signature. Listed innermost first. -/
inductive Enclosure where
  | body | arguments
  deriving DecidableEq, Repr

def bodiesAround (around : List Enclosure) : Nat := around.count .body

def bodiesWithin (around : List Enclosure) : Nat := (around.takeWhile (· == .body)).length

theorem bodiesWithin_body (around : List Enclosure) :
    bodiesWithin (.body :: around) = bodiesWithin around + 1 := by
  simp [bodiesWithin]

theorem bodiesWithin_arguments (around : List Enclosure) : bodiesWithin (.arguments :: around) = 0 := by
  simp [bodiesWithin]

theorem bodiesWithin_eq_bodiesAround : ∀ {around : List Enclosure}, .arguments ∉ around →
    bodiesWithin around = bodiesAround around
  | [], _ => rfl
  | .body :: around, outside => by
    rw [bodiesWithin_body, bodiesWithin_eq_bodiesAround (fun mem => outside (List.mem_cons_of_mem _ mem))]
    simp [bodiesAround]
  | .arguments :: _, outside => absurd List.mem_cons_self outside

/-- Whether `render` spells out the body of an aggregate it writes at `level`: never without
fields, always without a name, and for a named one when the level is at least one and below
`expandDepth`. -/
def spellsOut (expandDepth : Nat) (name : Option String)
    (fields : Option (List (Option String × TypeNode))) (level : Nat) : Bool :=
  match fields, name with
  | none, _ => false
  | some _, none => true
  | some _, some _ => decide (0 < level ∧ level < expandDepth)

theorem spellsOut_iff {expandDepth level : Nat} {name : Option String}
    {fields : Option (List (Option String × TypeNode))} :
    spellsOut expandDepth name fields level = true ↔
      fields.isSome ∧ (name = none ∨ 0 < level ∧ level < expandDepth) := by
  unfold spellsOut
  split <;> simp

theorem render_aggregate (expandDepth : Nat) (kind : AggregateKind) (name : Option String)
    (fields : Option (List (Option String × TypeNode))) (d : String) (layout : Layout) :
    render expandDepth (.aggregate kind name fields) d layout =
      renderAggregate expandDepth kind name fields d layout
        (spellsOut expandDepth name fields layout.level) := by
  rfl

structure Expansion where
  kind : AggregateKind
  name : Option String
  fields : Option (List (Option String × TypeNode))
  around : List Enclosure
  spelled : Bool

mutual

def expansions (expandDepth : Nat) : TypeNode → Layout → List Enclosure → List Expansion
  | .block (some (ret :: args)), layout, around =>
    expansions expandDepth ret layout around ++ expansionsArgs expandDepth true args around
  | .pointer target, layout, around => expansions expandDepth target layout around
  | .array _ element, layout, around => expansions expandDepth element layout around
  | .aggregate kind name fields, layout, around =>
    let spelled := spellsOut expandDepth name fields layout.level
    ⟨kind, name, fields, around, spelled⟩ :: expansionsBody expandDepth fields layout spelled around
  | .modified _ inner, layout, around => expansions expandDepth inner layout around
  | _, _, _ => []

def expansionsArgs (expandDepth : Nat) (first : Bool) : List TypeNode → List Enclosure → List Expansion
  | [], _ => []
  | t :: ts, around =>
    (if first && isBlock t then [] else expansions expandDepth t ⟨0, none⟩ (.arguments :: around)) ++
      expansionsArgs expandDepth false ts around

def expansionsBody (expandDepth : Nat) :
    Option (List (Option String × TypeNode)) → Layout → Bool → List Enclosure → List Expansion
  | some fields, layout, true, around =>
    expansionsMembers expandDepth ⟨layout.level + 1, layout.indent.map (· + 1)⟩ fields (.body :: around)
  | _, _, _, _ => []

def expansionsMembers (expandDepth : Nat) (inner : Layout) :
    List (Option String × TypeNode) → List Enclosure → List Expansion
  | [], _ => []
  | (_, t) :: fs, around =>
    expansions expandDepth t inner around ++ expansionsMembers expandDepth inner fs around

end

def definitionExpansions (expandDepth : Nat) (fields : List (Option String × TypeNode)) :
    List Expansion :=
  expansionsMembers expandDepth ⟨1, some 1⟩ fields [.body]

def Expansion.FollowsBodies (expandDepth : Nat) (v : Expansion) : Prop :=
  v.spelled = spellsOut expandDepth v.name v.fields (bodiesWithin v.around)

variable (expandDepth : Nat)

mutual

/-- The level `render` carries is the count of bodies within the innermost argument list: a body
adds one to both, an argument list starts both again at zero. -/
theorem expansions_follow : ∀ (t : TypeNode) (layout : Layout) (around : List Enclosure),
    layout.level = bodiesWithin around →
    ∀ v ∈ expansions expandDepth t layout around, v.FollowsBodies expandDepth
  | .block (some (ret :: args)), layout, around, level, v, mem => by
    rw [expansions, List.mem_append] at mem
    rcases mem with mem | mem
    · exact expansions_follow ret layout around level v mem
    · exact expansionsArgs_follow true args around v mem
  | .pointer target, layout, around, level, v, mem =>
    expansions_follow target layout around level v (by rwa [expansions] at mem)
  | .array _ element, layout, around, level, v, mem =>
    expansions_follow element layout around level v (by rwa [expansions] at mem)
  | .aggregate kind name fields, layout, around, level, v, mem => by
    rw [expansions, List.mem_cons] at mem
    rcases mem with rfl | mem
    · simp [Expansion.FollowsBodies, level]
    · exact expansionsBody_follow fields layout _ around level v mem
  | .modified _ inner, layout, around, level, v, mem =>
    expansions_follow inner layout around level v (by rwa [expansions] at mem)
  | .block none, _, _, _, v, mem | .block (some []), _, _, _, v, mem
  | .primitive _, _, _, _, v, mem | .object _ _, _, _, _, v, mem | .functionPointer, _, _, _, v, mem
  | .bitfield _, _, _, _, v, mem | .unknown _, _, _, _, v, mem => by simp [expansions] at mem

theorem expansionsArgs_follow : ∀ (first : Bool) (ts : List TypeNode) (around : List Enclosure),
    ∀ v ∈ expansionsArgs expandDepth first ts around, v.FollowsBodies expandDepth
  | _, [], _, v, mem => by simp [expansionsArgs] at mem
  | first, t :: ts, around, v, mem => by
    rw [expansionsArgs, List.mem_append] at mem
    rcases mem with mem | mem
    · -- an argument is written as a declaration of its own, at level zero
      split at mem
      · simp at mem
      · exact expansions_follow t ⟨0, none⟩ (.arguments :: around)
          (bodiesWithin_arguments around).symm v mem
    · exact expansionsArgs_follow false ts around v mem

theorem expansionsBody_follow : ∀ (fields : Option (List (Option String × TypeNode)))
    (layout : Layout) (spelled : Bool) (around : List Enclosure), layout.level = bodiesWithin around →
    ∀ v ∈ expansionsBody expandDepth fields layout spelled around, v.FollowsBodies expandDepth
  | some fields, layout, true, around, level, v, mem => by
    rw [expansionsBody] at mem
    exact expansionsMembers_follow _ fields _ (by simp [bodiesWithin_body, level]) v mem
  | some _, _, false, _, _, v, mem | none, _, _, _, _, v, mem => by simp [expansionsBody] at mem

theorem expansionsMembers_follow : ∀ (inner : Layout) (fields : List (Option String × TypeNode))
    (around : List Enclosure), inner.level = bodiesWithin around →
    ∀ v ∈ expansionsMembers expandDepth inner fields around, v.FollowsBodies expandDepth
  | _, [], _, _, v, mem => by simp [expansionsMembers] at mem
  | inner, (_, t) :: fs, around, level, v, mem => by
    rw [expansionsMembers, List.mem_append] at mem
    rcases mem with mem | mem
    · exact expansions_follow t inner around level v mem
    · exact expansionsMembers_follow inner fs around level v mem

end

/-- Struct expansion depth, as it is. For every type, depth and entry point (a declaration or a
member at any indentation, both starting at level zero, or the definition of an aggregate, whose
own body counts as one), every aggregate written has its body spelled out exactly when it has
fields and either has no name or is enclosed by at least one and fewer than `expandDepth` bodies
spelled out within the innermost block argument list that holds it. Outside block argument lists
those are all the bodies spelled out around it. -/
theorem expansions_spelled_iff :
    (∀ (t : TypeNode) (indent : Option Nat), ∀ v ∈ expansions expandDepth t ⟨0, indent⟩ [],
      v.spelled = true ↔ v.fields.isSome ∧
        (v.name = none ∨ 0 < bodiesWithin v.around ∧ bodiesWithin v.around < expandDepth)) ∧
    (∀ fields : List (Option String × TypeNode), ∀ v ∈ definitionExpansions expandDepth fields,
      v.spelled = true ↔ v.fields.isSome ∧
        (v.name = none ∨ 0 < bodiesWithin v.around ∧ bodiesWithin v.around < expandDepth)) ∧
    ∀ around : List Enclosure, .arguments ∉ around → bodiesWithin around = bodiesAround around := by
  refine ⟨fun t indent v mem => ?_, fun fields v mem => ?_, fun _ => bodiesWithin_eq_bodiesAround⟩
  · rw [expansions_follow expandDepth t _ [] rfl v mem, spellsOut_iff]
  · rw [expansionsMembers_follow expandDepth _ fields [.body] rfl v mem, spellsOut_iff]

def nestedInArgument : List (Option String × TypeNode) :=
  [(none, .block (some [.primitive .void, .block none,
    .aggregate .struct none (some [(none, .aggregate .struct (some "T") (some [(none, .primitive .int)]))])]))]

/-- Two bodies are spelled out around `T` in the definition of `struct S { nestedInArgument }` at
depth two, the defined one and the anonymous one, yet `T` is spelled out: the argument list starts
the count again. -/
theorem definition_spells_out_past_depth :
    Declaration.definition 2 .struct (some "S") (some nestedInArgument) =
        "struct S \x7b\n    void (^_field1)(struct \x7b struct T \x7b int _field1; \x7d _field1; \x7d);\n\x7d;" ∧
      definitionExpansions 2 nestedInArgument =
        [⟨.struct, none, some [(none, .aggregate .struct (some "T") (some [(none, .primitive .int)]))],
            [.arguments, .body], true⟩,
          ⟨.struct, some "T", some [(none, .primitive .int)], [.body, .arguments, .body], true⟩] ∧
      bodiesAround [.body, .arguments, .body] = 2 :=
  ⟨rfl, rfl, rfl⟩

end Declaration

end ObjcImage
