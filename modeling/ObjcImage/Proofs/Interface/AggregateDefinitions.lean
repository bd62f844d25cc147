import Mathlib
import ObjcImage.Proofs.Interface.ForwardDeclarations

set_option autoImplicit false

/-!
One definition for each named struct and union, with the first of its fullest bodies.
-/

namespace ObjcImage

namespace TypeNode

def namedBody? : TypeNode → Option Interface.AggregateBody
  | .aggregate kind (some name) (some fields) => some ⟨kind, name, fields⟩
  | _ => none

theorem namedBody?_eq_some {t : TypeNode} {b : Interface.AggregateBody} :
    t.namedBody? = some b ↔ t = .aggregate b.kind (some b.name) (some b.fields) := by
  constructor
  · intro named
    unfold namedBody? at named
    split at named
    · cases named
      rfl
    · cases named
  · rintro rfl
    rfl

end TypeNode

namespace Interface

namespace AggregateBody

def key (b : AggregateBody) : String × String := (b.kind.keyword, b.name)

theorem keyword_injective : Function.Injective AggregateKind.keyword := by
  intro a b same
  cases a <;> cases b <;> simp_all [AggregateKind.keyword]

theorem key_eq_iff {a b : AggregateBody} : a.key = b.key ↔ a.kind = b.kind ∧ a.name = b.name := by
  simp [key, keyword_injective.eq_iff]

theorem sameKey_iff {a b : AggregateBody} :
    (a.kind.keyword == b.kind.keyword && a.name == b.name) = true ↔ a.key = b.key := by
  simp [key]

end AggregateBody

theorem fuller_iff {a b : Nat × Nat} : fuller a b = true ↔ toLex b < toLex a := by
  simp only [fuller, Bool.or_eq_true, decide_eq_true_eq, Bool.and_eq_true, beq_iff_eq,
    Prod.Lex.toLex_lt_toLex]
  constructor <;> intro holds <;> omega

/-- `b` is the first of `bodies` that no other is fuller than: the bodies before it are less full,
and none after it is fuller. -/
def FirstFullest (bodies : List AggregateBody) (b : AggregateBody) : Prop :=
  ∃ before after, bodies = before ++ b :: after ∧
    (∀ a ∈ before, toLex a.fullness < toLex b.fullness) ∧
    ∀ a ∈ after, ¬ toLex b.fullness < toLex a.fullness

namespace FirstFullest

theorem singleton (b : AggregateBody) : FirstFullest [b] b :=
  ⟨[], [], rfl, by simp, by simp⟩

theorem snoc {bodies : List AggregateBody} {a : AggregateBody} (first : FirstFullest bodies a)
    (b : AggregateBody) :
    FirstFullest (bodies ++ [b]) (if fuller b.fullness a.fullness then b else a) := by
  obtain ⟨before, after, rfl, less, notMore⟩ := first
  split
  next more =>
    rw [fuller_iff] at more
    refine ⟨before ++ a :: after, [], by simp, fun x mem => ?_, by simp⟩
    rcases List.mem_append.1 mem with old | rest
    · exact lt_trans (less x old) more
    · rcases List.mem_cons.1 rest with rfl | later
      · exact more
      · exact lt_of_le_of_lt (not_lt.1 (notMore x later)) more
  next notMore' =>
    rw [Bool.not_eq_true, ← Bool.not_eq_true, fuller_iff] at notMore'
    refine ⟨before, after ++ [b], by simp, less, fun x mem => ?_⟩
    rcases List.mem_append.1 mem with old | new
    · exact notMore x old
    · exact List.mem_singleton.1 new ▸ notMore'

end FirstFullest

/-! ### Keeping the fullest body of each keyword and name -/

theorem keepFullest_of_not_mem {b : AggregateBody} : ∀ {kept : List AggregateBody},
    b.key ∉ kept.map AggregateBody.key → keepFullest b kept = kept ++ [b]
  | [], _ => rfl
  | a :: rest, fresh => by
    have other : ¬ a.key = b.key := fun same => fresh (List.mem_cons.2 (.inl same.symm))
    rw [keepFullest, if_neg (by rwa [AggregateBody.sameKey_iff]),
      keepFullest_of_not_mem fun mem => fresh (List.mem_cons_of_mem _ mem)]
    rfl

theorem keepFullest_of_mem {b a : AggregateBody} {after : List AggregateBody} (same : a.key = b.key) :
    ∀ {before : List AggregateBody}, (∀ x ∈ before, x.key ≠ b.key) →
      keepFullest b (before ++ a :: after) =
        before ++ (if fuller b.fullness a.fullness then b else a) :: after
  | [], _ => by
    rw [List.nil_append, keepFullest, if_pos (AggregateBody.sameKey_iff.2 same)]
    rfl
  | x :: before, others => by
    rw [List.cons_append, keepFullest,
      if_neg (by rw [AggregateBody.sameKey_iff]; exact others x List.mem_cons_self),
      keepFullest_of_mem same fun y mem => others y (List.mem_cons_of_mem _ mem)]
    rfl

/-- What keeping the fullest bodies has kept of the bodies met so far: one body for each keyword and
name met, the first fullest body met under it. -/
structure Keeps (met kept : List AggregateBody) : Prop where
  nodup : (kept.map AggregateBody.key).Nodup
  keys : ∀ k, k ∈ kept.map AggregateBody.key ↔ k ∈ met.map AggregateBody.key
  fullest : ∀ b ∈ kept, FirstFullest (met.filter (·.key == b.key)) b

theorem Keeps.nil : Keeps [] [] :=
  ⟨List.nodup_nil, by simp, by simp⟩

theorem filter_key_snoc_of_ne (met : List AggregateBody) {b x : AggregateBody} (other : x.key ≠ b.key) :
    (met ++ [b]).filter (·.key == x.key) = met.filter (·.key == x.key) := by
  rw [List.filter_append, List.filter_singleton, beq_false_of_ne (Ne.symm other)]
  simp

theorem Keeps.keepFullest_of_known {met kept : List AggregateBody} (keeps : Keeps met kept)
    {b : AggregateBody} (known : b.key ∈ kept.map AggregateBody.key) :
    Keeps (met ++ [b]) (keepFullest b kept) := by
  obtain ⟨a, mem, same⟩ := List.mem_map.1 known
  obtain ⟨before, after, rfl⟩ := List.append_of_mem mem
  have apart := keeps.nodup
  rw [List.map_append, List.map_cons, List.nodup_append, List.nodup_cons] at apart
  have earlier : ∀ x ∈ before, x.key ≠ b.key := fun x inBefore equal =>
    apart.2.2 _ (List.mem_map_of_mem inBefore) _ List.mem_cons_self (equal.trans same.symm)
  rw [keepFullest_of_mem same earlier]
  generalize chosen : (if fuller b.fullness a.fullness then b else a) = c
  have chosenKey : c.key = a.key := by
    rw [← chosen]
    split
    · exact same.symm
    · rfl
  have sameKeys : (before ++ c :: after).map AggregateBody.key =
      (before ++ a :: after).map AggregateBody.key := by
    simp [chosenKey]
  refine ⟨sameKeys ▸ keeps.nodup, fun k => ?_, fun x inKept => ?_⟩
  · rw [sameKeys, keeps.keys, List.map_append, List.mem_append]
    constructor
    · exact .inl
    · rintro (old | new)
      · exact old
      · rw [List.map_singleton, List.mem_singleton] at new
        rw [new, ← same]
        exact (keeps.keys _).1 (List.mem_map_of_mem mem)
  · rcases List.mem_append.1 inKept with old | rest
    · rw [filter_key_snoc_of_ne met (earlier x old)]
      exact keeps.fullest x (List.mem_append_left _ old)
    · rcases List.mem_cons.1 rest with rfl | later
      · -- the bodies met under the key grow by the new one
        have grown : (met ++ [b]).filter (·.key == x.key) = met.filter (·.key == a.key) ++ [b] := by
          rw [chosenKey, List.filter_append, List.filter_singleton, ← same, beq_self_eq_true]
          rfl
        rw [grown, ← chosen]
        exact (keeps.fullest a mem).snoc b
      · have otherKey : x.key ≠ b.key := fun equal =>
          apart.2.1.1 (equal.trans same.symm ▸ List.mem_map_of_mem later)
        rw [filter_key_snoc_of_ne met otherKey]
        exact keeps.fullest x (List.mem_append_right _ (List.mem_cons_of_mem _ later))

theorem Keeps.keepFullest_of_new {met kept : List AggregateBody} (keeps : Keeps met kept)
    {b : AggregateBody} (known : b.key ∉ kept.map AggregateBody.key) :
    Keeps (met ++ [b]) (keepFullest b kept) := by
  rw [keepFullest_of_not_mem known]
  have unmet : (met.filter (·.key == b.key)) = [] := by
    rw [List.filter_eq_nil_iff]
    intro x inMet equal
    exact known ((keeps.keys _).2 ((beq_iff_eq.1 equal) ▸ List.mem_map_of_mem inMet))
  refine ⟨?_, fun k => ?_, fun x inKept => ?_⟩
  · rw [List.map_append, List.map_singleton]
    exact List.nodup_append.2 ⟨keeps.nodup, List.nodup_singleton _,
      fun k old k' new equal => known (List.mem_singleton.1 new ▸ equal ▸ old)⟩
  · simp only [List.map_append, List.map_singleton, List.mem_append, keeps.keys]
  · rcases List.mem_append.1 inKept with old | new
    · have otherKey : x.key ≠ b.key := fun equal => known (equal ▸ List.mem_map_of_mem old)
      rw [filter_key_snoc_of_ne met otherKey]
      exact keeps.fullest x old
    · rw [List.mem_singleton.1 new, List.filter_append, unmet, List.filter_singleton,
        beq_self_eq_true]
      exact FirstFullest.singleton b

theorem Keeps.keepFullest {met kept : List AggregateBody} (keeps : Keeps met kept)
    (b : AggregateBody) : Keeps (met ++ [b]) (keepFullest b kept) := by
  by_cases known : b.key ∈ kept.map AggregateBody.key
  · exact keeps.keepFullest_of_known known
  · exact keeps.keepFullest_of_new known

theorem keeps_foldl (bodies : List AggregateBody) :
    Keeps bodies (bodies.foldl (fun kept b => keepFullest b kept) []) := by
  induction bodies using List.reverseRecOn with
  | nil => exact Keeps.nil
  | append_singleton bodies b ih =>
    rw [List.foldl_append, List.foldl_cons, List.foldl_nil]
    exact ih.keepFullest b

/-! ### The bodies of the selected types -/

namespace Usage

theorem note_aggregates_eq (u : Usage) (t : TypeNode) :
    (u.note t).aggregates = match t.namedBody? with
      | some b => keepFullest b u.aggregates
      | none => u.aggregates := by
  cases t with
  | aggregate kind name fields =>
    cases name <;> cases fields <;> rfl
  | block signature =>
    cases signature with
    | none => rfl
    | some types => cases types <;> rfl
  | _ => rfl

theorem foldl_note_aggregates : ∀ (nodes : List TypeNode) (u : Usage),
    (nodes.foldl note u).aggregates =
      (nodes.filterMap TypeNode.namedBody?).foldl (fun kept b => keepFullest b kept) u.aggregates
  | [], _ => rfl
  | t :: nodes, u => by
    rw [List.foldl_cons, foldl_note_aggregates nodes (u.note t), note_aggregates_eq]
    cases named : t.namedBody? <;> simp [named]

end Usage

namespace Selection

def bodies (s : Selection) : List AggregateBody := s.typeNodes.filterMap TypeNode.namedBody?

def bodiesOf (s : Selection) (kind : AggregateKind) (name : String) : List AggregateBody :=
  s.bodies.filter fun a => decide (a.kind = kind ∧ a.name = name)

theorem keeps_bodies (s : Selection) :
    Keeps s.bodies (s.typeNodes.foldl Usage.note {}).aggregates := by
  rw [Usage.foldl_note_aggregates]
  exact keeps_foldl _

end Selection

def keyBefore (a b : AggregateBody) : Bool :=
  a.kind.keyword < b.kind.keyword || (a.kind.keyword == b.kind.keyword && a.name ≤ b.name)

theorem keyBefore_iff {a b : AggregateBody} : keyBefore a b = true ↔ toLex a.key ≤ toLex b.key := by
  simp only [keyBefore, Bool.or_eq_true, decide_eq_true_eq, Bool.and_eq_true, beq_iff_eq,
    Prod.Lex.toLex_le_toLex, AggregateBody.key]

theorem keyBefore_trans (a b c : AggregateBody) (ab : keyBefore a b = true)
    (bc : keyBefore b c = true) : keyBefore a c = true :=
  keyBefore_iff.2 (le_trans (keyBefore_iff.1 ab) (keyBefore_iff.1 bc))

theorem keyBefore_total (a b : AggregateBody) : (keyBefore a b || keyBefore b a) = true := by
  rw [Bool.or_eq_true, keyBefore_iff, keyBefore_iff]
  exact le_total _ _

/-- The definitions written for a selection: one for each keyword and name of a struct or union
that the selected types hold with fields, in the order of keyword and name, each with the first of
the fullest bodies found under that kind and name. -/
structure DefinesAggregates (s : Selection) (defs : List AggregateBody) : Prop where
  ordered : defs.Pairwise fun a b => toLex a.key < toLex b.key
  defined : ∀ kind name, (∃ b ∈ defs, b.kind = kind ∧ b.name = name) ↔
    ∃ fields, .aggregate kind (some name) (some fields) ∈ s.typeNodes
  fullest : ∀ b ∈ defs, FirstFullest (s.bodiesOf b.kind b.name) b

theorem Usage.of_aggregates (s : Selection) :
    (Usage.of s).aggregates = (s.typeNodes.foldl Usage.note {}).aggregates.mergeSort keyBefore :=
  rfl

theorem definesAggregates (s : Selection) : DefinesAggregates s (Usage.of s).aggregates := by
  have keeps := s.keeps_bodies
  rw [Usage.of_aggregates]
  -- sorting only reorders what was kept
  have perm := List.mergeSort_perm (s.typeNodes.foldl Usage.note {}).aggregates keyBefore
  have kept := fun b => perm.mem_iff (a := b)
  refine ⟨?_, fun kind name => ?_, fun b mem => ?_⟩
  · have sorted := List.pairwise_mergeSort keyBefore_trans keyBefore_total
      (s.typeNodes.foldl Usage.note {}).aggregates
    have apart := (perm.map AggregateBody.key).nodup_iff.2 keeps.nodup
    rw [List.Nodup, List.pairwise_map] at apart
    exact (sorted.and apart).imp fun ⟨before, other⟩ =>
      lt_of_le_of_ne (keyBefore_iff.1 before) fun equal => other (toLex.injective equal)
  · constructor
    · -- a body kept was met among the nodes
      rintro ⟨b, mem, rfl, rfl⟩
      obtain ⟨a, met, same⟩ := List.mem_map.1 ((keeps.keys _).1 (List.mem_map_of_mem ((kept b).1 mem)))
      obtain ⟨t, node, named⟩ := List.mem_filterMap.1 met
      obtain ⟨sameKind, sameName⟩ := AggregateBody.key_eq_iff.1 same
      refine ⟨a.fields, ?_⟩
      rw [← sameKind, ← sameName, ← TypeNode.namedBody?_eq_some.1 named]
      exact node
    · -- a body met leaves one kept under its key
      rintro ⟨fields, node⟩
      have met : (⟨kind, name, fields⟩ : AggregateBody) ∈ s.bodies :=
        List.mem_filterMap.2 ⟨_, node, rfl⟩
      obtain ⟨b, mem, same⟩ := List.mem_map.1 ((keeps.keys _).2 (List.mem_map_of_mem met))
      exact ⟨b, (kept b).2 mem, AggregateBody.key_eq_iff.1 same⟩
  · -- the bodies met under a kind and name are those met under its key
    have under : s.bodiesOf b.kind b.name = s.bodies.filter (·.key == b.key) := by
      refine List.filter_congr fun a _ => ?_
      rw [Bool.eq_iff_iff, beq_iff_eq, AggregateBody.key_eq_iff, decide_eq_true_eq]
    rw [under]
    exact keeps.fullest b ((kept b).1 mem)

end Interface

/-! ### The definitions in the text -/

theorem infix_intercalate_append {α : Type} (sep : List α) (middle back : List (List α)) :
    ∀ front : List (List α), sep.intercalate middle <:+: sep.intercalate (front ++ (middle ++ back))
  | [] => by
    rw [List.nil_append]
    exact (prefix_intercalate_append middle).isInfix
  | f :: front => by
    by_cases rest : front ++ (middle ++ back) = []
    · have : middle = [] := by simp_all
      simp [this]
    · rw [List.cons_append, List.intercalate_cons_of_ne_nil rest]
      exact (infix_intercalate_append sep middle back front).trans (List.suffix_append _ _).isInfix
where
  prefix_intercalate_append : ∀ middle : List (List α),
      sep.intercalate middle <+: sep.intercalate (middle ++ back)
    | [] => List.nil_prefix
    | [d] => by
      cases back with
      | nil => exact List.prefix_refl _
      | cons b rest =>
        rw [List.singleton_append, List.intercalate_cons_cons, List.intercalate_singleton,
          List.append_assoc]
        exact List.prefix_append _ _
    | d :: e :: rest => by
      rw [List.cons_append, List.cons_append, List.intercalate_cons_cons, List.intercalate_cons_cons,
        List.append_assoc, List.append_assoc, List.prefix_append_right_inj,
        List.prefix_append_right_inj, ← List.cons_append]
      exact prefix_intercalate_append (e :: rest)

open Interface in
theorem infix_emit_definitions (m : ObjectModel) (o : DumpOptions) :
    ("\n\n".intercalate ((Usage.of (Selection.of m o)).aggregates.map fun b =>
        Declaration.definition o.expandDepth b.kind (some b.name) (some b.fields))).toList <:+:
      (emit m o).toList := by
  -- a definition ends in `;`, so none of them is left out as empty
  have written : ∀ defs : List AggregateBody,
      (defs.map fun b => Declaration.definition o.expandDepth b.kind (some b.name) (some b.fields)).filter
        (!·.isEmpty) = defs.map fun b => Declaration.definition o.expandDepth b.kind (some b.name) (some b.fields) :=
    fun defs => List.filter_eq_self.2 fun d mem => by
      obtain ⟨b, -, rfl⟩ := List.mem_map.1 mem
      simp [Declaration.definition]
  unfold emit
  dsimp only
  rw [String.toList_append, String.toList_intercalate, String.toList_intercalate]
  refine List.IsInfix.trans ?_ (List.prefix_append _ _).isInfix
  simp only [List.filter_append, written, List.map_append, List.append_assoc]
  rw [← List.append_assoc]
  exact infix_intercalate_append _ _ _ _

open Interface in
/-- Each struct and each union that a selected entity uses with fields, at any depth of its types, is
defined once: the definitions written list one body for each keyword and name that occurs with
fields, none for a name that occurs only by reference, in the order of keyword and then name, each
the first of the fullest bodies of that kind and name in the order the selected types are walked;
and the emitted text holds these definitions one after another. -/
theorem emit_aggregate_definitions (m : ObjectModel) (o : DumpOptions) :
    DefinesAggregates (Selection.of m o) (Usage.of (Selection.of m o)).aggregates ∧
      ("\n\n".intercalate ((Usage.of (Selection.of m o)).aggregates.map fun b =>
          Declaration.definition o.expandDepth b.kind (some b.name) (some b.fields))).toList <:+:
        (emit m o).toList :=
  ⟨definesAggregates _, infix_emit_definitions m o⟩

end ObjcImage
