import Mathlib
import ObjcImage.Proofs.Interface.ForwardDeclarations

set_option autoImplicit false

/-!
Placing each class after its superclass. On a cycle of superclasses, exactly one class of the cycle
is placed no later than its superclass.
-/

namespace ObjcImage

namespace Interface

def ComesBefore (order : List Nat) (a b : Nat) : Prop :=
  ∃ pre post, order = pre ++ post ∧ a ∈ pre ∧ b ∈ post

namespace ComesBefore

variable {order : List Nat} {a b : Nat}

theorem append_right (before : ComesBefore order a b) (more : List Nat) :
    ComesBefore (order ++ more) a b := by
  obtain ⟨pre, post, rfl, inPre, inPost⟩ := before
  exact ⟨pre, post ++ more, by simp, inPre, List.mem_append_left _ inPost⟩

theorem append_left (before : ComesBefore order a b) (earlier : List Nat) :
    ComesBefore (earlier ++ order) a b := by
  obtain ⟨pre, post, rfl, inPre, inPost⟩ := before
  exact ⟨earlier ++ pre, post, by simp, List.mem_append_right _ inPre, inPost⟩

theorem of_mem_append {more : List Nat} (old : a ∈ order) (new : b ∈ more) :
    ComesBefore (order ++ more) a b :=
  ⟨order, more, rfl, old, new⟩

theorem idxOf_lt (nodup : order.Nodup) (before : ComesBefore order a b) :
    order.idxOf a < order.idxOf b := by
  obtain ⟨pre, post, rfl, inPre, inPost⟩ := before
  have notPre : b ∉ pre := fun inPre' => (List.nodup_append.1 nodup).2.2 b inPre' b inPost rfl
  rw [List.idxOf_append_of_mem inPre, List.idxOf_append_of_notMem notPre]
  have := List.idxOf_lt_length_of_mem inPre
  omega

end ComesBefore

def Inherits (parent : Nat → Option Nat) (a b : Nat) : Prop := parent a = some b

section Chains

variable {parent : Nat → Option Nat}

theorem Inherits.functional {a b c : Nat} (first : Inherits parent a b) (second : Inherits parent a c) :
    b = c :=
  Option.some.inj (first.symm.trans second)

theorem reaches_back {i j : Nat} (cycle : Relation.TransGen (Inherits parent) i i)
    (reached : Relation.ReflTransGen (Inherits parent) i j) :
    Relation.ReflTransGen (Inherits parent) j i := by
  induction reached with
  | refl => exact .refl
  | tail _ step back =>
    -- the class before `j` leads back to `i` through its one superclass, which is `j`
    rcases back.cases_head with same | ⟨m, first, rest⟩
    · subst same
      obtain ⟨m, first, rest⟩ := Relation.TransGen.head'_iff.1 cycle
      exact step.functional first ▸ rest
    · exact step.functional first ▸ rest

theorem next_or_last {chain : List Nat} (linked : chain.IsChain (Inherits parent)) {x : Nat}
    (mem : x ∈ chain) :
    (∃ y, Inherits parent x y ∧ y ∈ chain ∧ ComesBefore chain.reverse y x) ∨
      chain.getLast? = some x := by
  obtain ⟨pre, post, rfl⟩ := List.append_of_mem mem
  cases post with
  | nil => exact .inr (by simp)
  | cons y post =>
    have step : Inherits parent x y :=
      (List.isChain_cons_cons.1 (List.isChain_append.1 linked).2.1).1
    refine .inl ⟨y, step, by simp, post.reverse ++ [y], x :: pre.reverse, by simp, by simp, by simp⟩

theorem reaches_last : ∀ {chain : List Nat}, chain.IsChain (Inherits parent) → ∀ {x last : Nat},
    x ∈ chain → chain.getLast? = some last → Relation.ReflTransGen (Inherits parent) x last
  | [], _, _, _, mem, _ => absurd mem List.not_mem_nil
  | [a], _, x, last, mem, ends => by
    rw [List.mem_singleton.1 mem]
    rw [List.getLast?_singleton, Option.some.injEq] at ends
    exact ends ▸ .refl
  | a :: b :: rest, linked, x, last, mem, ends => by
    obtain ⟨step, tail⟩ := List.isChain_cons_cons.1 linked
    have later : (b :: rest).getLast? = some last := by simpa using ends
    rcases List.mem_cons.1 mem with rfl | inTail
    · exact .head step (reaches_last tail List.mem_cons_self later)
    · exact reaches_last tail inTail later

theorem reaches_stay {chain : List Nat} (linked : chain.IsChain (Inherits parent))
    (closes : ∀ last, chain.getLast? = some last → ∀ p, Inherits parent last p → p ∈ chain)
    {x y : Nat} (mem : x ∈ chain) (reached : Relation.TransGen (Inherits parent) x y) : y ∈ chain := by
  have step : ∀ {a b}, a ∈ chain → Inherits parent a b → b ∈ chain := by
    intro a b inChain inherits
    rcases next_or_last linked inChain with ⟨c, next, inChain', -⟩ | isLast
    · exact inherits.functional next ▸ inChain'
    · exact closes a isLast b inherits
  induction reached with
  | single inherits => exact step mem inherits
  | tail _ inherits held => exact step held inherits

end Chains

/-! ### One chain -/

section Ancestry

variable (parent : Nat → Option Nat) (count : Nat)

/-- What `ancestry` builds from `start` with the classes of `placed` already placed: the chain of
superclasses from `start` on, each class once and none of them placed, ending at a class whose
superclass is none, placed, or already on the chain. It is empty only when `start` is placed. -/
structure IsAncestry (placed : List Nat) (start : Nat) (chain : List Nat) : Prop where
  nodup : chain.Nodup
  fresh : ∀ x ∈ chain, x ∉ placed
  bounded : ∀ x ∈ chain, x < count
  starts : chain.head? = some start ∨ chain = [] ∧ start ∈ placed
  linked : chain.IsChain (Inherits parent)
  ends : ∀ last, chain.getLast? = some last → ∀ p, Inherits parent last p → p ∈ placed ∨ p ∈ chain

/-- A chain on its way: its classes are on it once and none is placed, each is followed by its
superclass, and the last one inherits from `next`. -/
structure Building (placed : List Nat) (chain : List Nat) (next : Nat) : Prop where
  nodup : chain.Nodup
  fresh : ∀ x ∈ chain, x ∉ placed
  bounded : ∀ x ∈ chain, x < count
  next_lt : next < count
  linked : chain.IsChain (Inherits parent)
  toNext : ∀ last, chain.getLast? = some last → Inherits parent last next

variable {parent count}

theorem Building.length_le {placed chain : List Nat} {next : Nat}
    (building : Building parent count placed chain next) : chain.length ≤ count := by
  have sub : chain.Subperm (List.range count) :=
    building.nodup.subperm fun x mem => List.mem_range.2 (building.bounded x mem)
  simpa using sub.length_le

theorem Building.snoc {placed chain : List Nat} {i : Nat}
    (building : Building parent count placed chain i) (unplaced : i ∉ placed) (new : i ∉ chain) :
    (chain ++ [i]).Nodup ∧ (∀ x ∈ chain ++ [i], x ∉ placed) ∧ (∀ x ∈ chain ++ [i], x < count) ∧
      (chain ++ [i]).IsChain (Inherits parent) := by
  refine ⟨List.nodup_append.2 ⟨building.nodup, List.nodup_singleton i, ?_⟩, fun x mem => ?_,
    fun x mem => ?_, List.isChain_append.2 ⟨building.linked, List.isChain_singleton i, ?_⟩⟩
  · intro a mem b same equal
    rw [List.mem_singleton.1 same] at equal
    exact new (equal ▸ mem)
  · rcases List.mem_append.1 mem with old | last
    · exact building.fresh x old
    · exact List.mem_singleton.1 last ▸ unplaced
  · rcases List.mem_append.1 mem with old | last
    · exact building.bounded x old
    · exact List.mem_singleton.1 last ▸ building.next_lt
  · intro x last y first
    rw [List.head?_singleton, Option.mem_def, Option.some.injEq] at first
    exact first ▸ building.toNext x last

theorem Building.grow {placed chain : List Nat} {i p : Nat}
    (building : Building parent count placed chain i) (unplaced : i ∉ placed) (new : i ∉ chain)
    (inherits : Inherits parent i p) (below : p < count) :
    Building parent count placed (chain ++ [i]) p := by
  obtain ⟨nodup, fresh, bounded, linked⟩ := building.snoc unplaced new
  refine ⟨nodup, fresh, bounded, below, linked, fun last ends => ?_⟩
  rw [List.getLast?_concat, Option.some.injEq] at ends
  exact ends ▸ inherits

theorem isAncestry_ancestry_of (domain : ∀ a b, Inherits parent a b → a < count ∧ b < count)
    (placed : List Nat) : ∀ (fuel : Nat) (chain : List Nat) (i : Nat),
      Building parent count placed chain i → count < chain.length + fuel →
      IsAncestry parent count placed (chain.head?.getD i) (ancestry parent placed.contains fuel chain i)
  | 0, chain, i, building, enough => absurd enough (by have := building.length_le; omega)
  | fuel + 1, chain, i, building, enough => by
    rw [ancestry]
    -- the chain stops at a placed class or one it already holds
    by_cases stop : (placed.contains i || chain.contains i) = true
    · rw [if_pos stop]
      simp only [Bool.or_eq_true, List.contains_iff_mem] at stop
      refine ⟨building.nodup, building.fresh, building.bounded, ?_, building.linked,
        fun last ends p inherits => ?_⟩
      · cases chain with
        | nil => exact .inr ⟨rfl, stop.resolve_right List.not_mem_nil⟩
        | cons a rest => exact .inl rfl
      · exact (building.toNext last ends).functional inherits ▸ stop
    · rw [if_neg stop]
      simp only [Bool.or_eq_true, List.contains_iff_mem, not_or] at stop
      cases inherits : parent i with
      | some p =>
        -- the chain grows by `i` and goes on from its superclass
        have grown := building.grow stop.1 stop.2 inherits (domain i p inherits).2
        have more := isAncestry_ancestry_of domain placed fuel (chain ++ [i]) p grown
          (by simp only [List.length_append, List.length_singleton]; omega)
        have sameStart : (chain ++ [i]).head?.getD p = chain.head?.getD i := by
          cases chain <;> rfl
        rwa [sameStart] at more
      | none =>
        -- a class without a superclass ends the chain
        obtain ⟨nodup, fresh, bounded, linked⟩ := building.snoc stop.1 stop.2
        refine ⟨nodup, fresh, bounded, .inl ?_, linked, fun last ends p step => ?_⟩
        · cases chain <;> rfl
        · rw [List.getLast?_concat, Option.some.injEq] at ends
          rw [← ends, Inherits, inherits] at step
          cases step

theorem isAncestry_ancestry (domain : ∀ a b, Inherits parent a b → a < count ∧ b < count)
    (placed : List Nat) {start : Nat} (below : start < count) :
    IsAncestry parent count placed start
      (ancestry parent placed.contains (count + 1) [] start) :=
  isAncestry_ancestry_of domain placed (count + 1) [] start
    ⟨List.nodup_nil, fun _ mem => absurd mem List.not_mem_nil,
      fun _ mem => absurd mem List.not_mem_nil, below, List.isChain_nil,
      fun _ ends => by simp at ends⟩ (by simp)

end Ancestry

/-! ### The whole order -/

section Placing

variable (parent : Nat → Option Nat) (count : Nat)

/-- The class at `x` closes a cycle of superclasses in `order`: its superclasses lead back to it,
and every other class they lead to is placed after its superclass. -/
def ClosesCycle (order : List Nat) (x : Nat) : Prop :=
  Relation.TransGen (Inherits parent) x x ∧
    ∀ y, Relation.TransGen (Inherits parent) x y → y ≠ x → ∀ q, Inherits parent y q → ComesBefore order q y

/-- What placing the chains from the classes below `done` keeps: each class is placed once, the
classes below `done` are placed, and so is the superclass of every placed class, which comes
before it unless the class closes a cycle. -/
structure Placed (order : List Nat) (done : Nat) : Prop where
  nodup : order.Nodup
  bounded : ∀ x ∈ order, x < count
  covers : ∀ j < done, j ∈ order
  closed : ∀ x ∈ order, ∀ p, Inherits parent x p → p ∈ order
  ordered : ∀ x ∈ order, ∀ p, Inherits parent x p → ComesBefore order p x ∨ ClosesCycle parent order x

variable {parent count}

theorem ClosesCycle.append_right {order : List Nat} {x : Nat} (closes : ClosesCycle parent order x)
    (more : List Nat) : ClosesCycle parent (order ++ more) x :=
  ⟨closes.1, fun y reached other q inherits => (closes.2 y reached other q inherits).append_right more⟩

theorem ordered_last {order chain : List Nat} {start last p : Nat}
    (anc : IsAncestry parent count order start chain) (ends : chain.getLast? = some last)
    (inherits : Inherits parent last p) :
    ComesBefore (order ++ chain.reverse) p last ∨ ClosesCycle parent (order ++ chain.reverse) last := by
  have onChain : last ∈ chain := List.mem_of_getLast? ends
  rcases anc.ends last ends p inherits with old | onCycle
  · exact .inl (ComesBefore.of_mem_append old (List.mem_reverse.2 onChain))
  · -- the chain closes on itself: what `last` leads to stays on the chain
    have closes : ∀ l, chain.getLast? = some l → ∀ q, Inherits parent l q → q ∈ chain := by
      intro l ends' q step
      rw [ends, Option.some.injEq] at ends'
      subst ends'
      exact inherits.functional step ▸ onCycle
    refine .inr ⟨.head' inherits (reaches_last anc.linked onCycle ends), ?_⟩
    intro y reached other q step
    rcases next_or_last anc.linked (reaches_stay anc.linked closes onChain reached) with
      ⟨z, next, -, before⟩ | isLast
    · exact next.functional step ▸ before.append_left order
    · rw [ends, Option.some.injEq] at isLast
      exact absurd isLast.symm other

theorem Placed.step (domain : ∀ a b, Inherits parent a b → a < count ∧ b < count)
    {order : List Nat} {done : Nat} (placed : Placed parent count order done) (below : done < count) :
    Placed parent count (placeChain parent count order done) (done + 1) := by
  have anc := isAncestry_ancestry domain order below
  unfold placeChain
  generalize ancestry parent order.contains (count + 1) [] done = chain at anc ⊢
  -- a class of the new chain is followed by its superclass, or is the last one
  have onChain : ∀ x ∈ chain, ∀ p, Inherits parent x p →
      (p ∈ chain ∧ ComesBefore (order ++ chain.reverse) p x) ∨ chain.getLast? = some x := by
    intro x mem p inherits
    rcases next_or_last anc.linked mem with ⟨y, next, inChain, before⟩ | isLast
    · exact .inl (next.functional inherits ▸ ⟨inChain, before.append_left order⟩)
    · exact .inr isLast
  refine ⟨?nodup, ?bounded, ?covers, ?closed, ?ordered⟩
  case nodup =>
    refine List.nodup_append.2 ⟨placed.nodup, List.nodup_reverse.2 anc.nodup, ?_⟩
    intro a old b new same
    exact anc.fresh b (List.mem_reverse.1 new) (same ▸ old)
  case bounded =>
    intro x mem
    rcases List.mem_append.1 mem with old | new
    · exact placed.bounded x old
    · exact anc.bounded x (List.mem_reverse.1 new)
  case covers =>
    intro j below'
    by_cases earlier : j < done
    · exact List.mem_append_left _ (placed.covers j earlier)
    · have same : j = done := by omega
      subst same
      rcases anc.starts with first | ⟨-, old⟩
      · exact List.mem_append_right _ (List.mem_reverse.2 (List.mem_of_mem_head? first))
      · exact List.mem_append_left _ old
  case closed =>
    intro x mem p inherits
    rcases List.mem_append.1 mem with old | new
    · exact List.mem_append_left _ (placed.closed x old p inherits)
    · have new := List.mem_reverse.1 new
      rcases onChain x new p inherits with ⟨inChain, -⟩ | isLast
      · exact List.mem_append_right _ (List.mem_reverse.2 inChain)
      · rcases anc.ends x isLast p inherits with old | inChain
        · exact List.mem_append_left _ old
        · exact List.mem_append_right _ (List.mem_reverse.2 inChain)
  case ordered =>
    intro x mem p inherits
    rcases List.mem_append.1 mem with old | new
    · exact (placed.ordered x old p inherits).imp (·.append_right _) (·.append_right _)
    · rcases onChain x (List.mem_reverse.1 new) p inherits with ⟨-, before⟩ | isLast
      · exact .inl before
      · exact ordered_last anc isLast inherits

theorem placed_foldl (domain : ∀ a b, Inherits parent a b → a < count ∧ b < count) :
    ∀ done ≤ count, Placed parent count ((List.range done).foldl (placeChain parent count) []) done
  | 0, _ => ⟨List.nodup_nil, fun _ mem => absurd mem List.not_mem_nil,
      fun _ below => absurd below (Nat.not_lt_zero _), fun _ mem => absurd mem List.not_mem_nil,
      fun _ mem => absurd mem List.not_mem_nil⟩
  | done + 1, within => by
    rw [List.range_succ, List.foldl_append, List.foldl_cons, List.foldl_nil]
    exact (placed_foldl domain done (by omega)).step domain (by omega)

theorem Placed.perm {order : List Nat} (placed : Placed parent count order count) :
    order.Perm (List.range count) :=
  (List.perm_ext_iff_of_nodup placed.nodup List.nodup_range).2 fun x =>
    ⟨fun mem => List.mem_range.2 (placed.bounded x mem),
      fun mem => placed.covers x (List.mem_range.1 mem)⟩

theorem Placed.before_of_acyclic (domain : ∀ a b, Inherits parent a b → a < count ∧ b < count)
    {order : List Nat} (placed : Placed parent count order count) {i p : Nat}
    (inherits : Inherits parent i p) (acyclic : ¬ Relation.TransGen (Inherits parent) i i) :
    ComesBefore order p i :=
  (placed.ordered i (placed.covers i (domain i p inherits).1) p inherits).resolve_right
    fun closes => acyclic closes.1

/-- If every class reached from `i` came after its superclass, following superclasses would go
down the order for ever. -/
theorem idxOf_lt_of_reaches {order : List Nat} (nodup : order.Nodup) {i : Nat}
    (after : ∀ j, Relation.ReflTransGen (Inherits parent) i j → ∀ p, Inherits parent j p →
      ComesBefore order p j) {a b : Nat} (path : Relation.TransGen (Inherits parent) a b)
    (reached : Relation.ReflTransGen (Inherits parent) i a) : order.idxOf b < order.idxOf a := by
  induction path with
  | single inherits => exact (after _ reached _ inherits).idxOf_lt nodup
  | tail path inherits earlier =>
    have further := (after _ (reached.trans path.to_reflTransGen) _ inherits).idxOf_lt nodup
    omega

theorem Placed.cycle_breaks_once (domain : ∀ a b, Inherits parent a b → a < count ∧ b < count)
    {order : List Nat} (placed : Placed parent count order count) {i : Nat}
    (cycle : Relation.TransGen (Inherits parent) i i) :
    ∃! j, Relation.ReflTransGen (Inherits parent) i j ∧
      ∃ p, Inherits parent j p ∧ ¬ ComesBefore order p j := by
  -- some class of the cycle is placed no later than its superclass, or the order would descend
  -- around the cycle back to where it started
  have broken : ∃ j, Relation.ReflTransGen (Inherits parent) i j ∧
      ∃ p, Inherits parent j p ∧ ¬ ComesBefore order p j := by
    by_contra none_
    have after : ∀ j, Relation.ReflTransGen (Inherits parent) i j → ∀ p, Inherits parent j p →
        ComesBefore order p j :=
      fun j reached p inherits => by_contra fun notBefore => none_ ⟨j, reached, p, inherits, notBefore⟩
    have := idxOf_lt_of_reaches placed.nodup after cycle .refl
    omega
  obtain ⟨j, reached, p, inherits, notBefore⟩ := broken
  refine ⟨j, ⟨reached, p, inherits, notBefore⟩, fun k ⟨reached', q, inherits', notBefore'⟩ => ?_⟩
  -- that class closes the cycle, so every other class of the cycle comes after its superclass
  have closes := (placed.ordered j (placed.covers j (domain j p inherits).1) p inherits).resolve_left
    notBefore
  have toK := (reaches_back cycle reached).trans reached'
  by_contra other
  rcases Relation.reflTransGen_iff_eq_or_transGen.1 toK with same | path
  · exact other same
  · exact notBefore' (closes.2 k path other q inherits')

end Placing

/-! ### Superclasses by name -/

theorem lastIndexOf_concat (classes : List ObjcClass) (c : ObjcClass) (name : String) :
    lastIndexOf (classes ++ [c]) name =
      if c.name = name then some classes.length else lastIndexOf classes name := by
  simp only [lastIndexOf, List.zipIdx_append, List.zipIdx_cons, List.zipIdx_nil, Nat.zero_add,
    List.reverse_append, List.reverse_cons, List.reverse_nil, List.nil_append, List.singleton_append,
    List.find?_cons]
  split <;> simp_all

theorem getElem?_concat_eq_some {α : Type} {l : List α} {c d : α} {q : Nat} :
    (l ++ [c])[q]? = some d ↔ (q < l.length ∧ l[q]? = some d) ∨ (q = l.length ∧ c = d) := by
  rw [List.getElem?_append]
  split
  next inside => simp [inside, Nat.ne_of_lt inside]
  next outside =>
    rw [List.getElem?_singleton]
    constructor
    · intro found
      split at found
      next => exact .inr ⟨by omega, Option.some.inj found⟩
      next => cases found
    · rintro (⟨inside, -⟩ | ⟨rfl, rfl⟩)
      · omega
      · simp

theorem lastIndexOf_eq_some_iff {name : String} {p : Nat} (classes : List ObjcClass) :
    lastIndexOf classes name = some p ↔
      (∃ c, classes[p]? = some c ∧ c.name = name) ∧
        ∀ q c, p < q → classes[q]? = some c → c.name ≠ name := by
  induction classes using List.reverseRecOn with
  | nil => simp [lastIndexOf]
  | append_singleton l c ih =>
    rw [lastIndexOf_concat]
    by_cases named : c.name = name
    · -- the new last class bears the name, so it is the one found
      rw [if_pos named, Option.some.injEq]
      constructor
      · rintro rfl
        refine ⟨⟨c, List.getElem?_concat_length, named⟩, fun q d later found => ?_⟩
        rcases getElem?_concat_eq_some.1 found with ⟨inside, -⟩ | ⟨atEnd, -⟩ <;> omega
      · rintro ⟨⟨d, found, -⟩, noneLater⟩
        rcases getElem?_concat_eq_some.1 found with ⟨inside, -⟩ | ⟨atEnd, -⟩
        · exact absurd named (noneLater l.length c inside List.getElem?_concat_length)
        · exact atEnd.symm
    · -- otherwise the search goes on among the classes before it
      rw [if_neg named, ih]
      constructor
      · rintro ⟨⟨d, found, dn⟩, noneLater⟩
        have below : p < l.length := (List.getElem?_eq_some_iff.1 found).1
        refine ⟨⟨d, by rw [List.getElem?_append_left below]; exact found, dn⟩,
          fun q e later found' => ?_⟩
        rcases getElem?_concat_eq_some.1 found' with ⟨-, old⟩ | ⟨-, rfl⟩
        · exact noneLater q e later old
        · exact named
      · rintro ⟨⟨d, found, dn⟩, noneLater⟩
        rcases getElem?_concat_eq_some.1 found with ⟨-, old⟩ | ⟨-, rfl⟩
        · refine ⟨⟨d, old, dn⟩, fun q e later found' => ?_⟩
          have inside : q < l.length := (List.getElem?_eq_some_iff.1 found').1
          exact noneLater q e later (by rw [List.getElem?_append_left inside]; exact found')
        · exact absurd dn named

theorem superclassIndex_eq_some_iff {classes : List ObjcClass} {i p : Nat} :
    superclassIndex classes i = some p ↔
      ∃ c name, classes[i]? = some c ∧ c.superclass = .named name ∧
        (∃ d, classes[p]? = some d ∧ d.name = name) ∧
        ∀ q d, p < q → classes[q]? = some d → d.name ≠ name := by
  simp only [superclassIndex, Option.bind_eq_some_iff, ClassRef.name?_eq_some_iff,
    lastIndexOf_eq_some_iff]
  constructor
  · rintro ⟨c, found, name, named, last⟩
    exact ⟨c, name, found, named, last⟩
  · rintro ⟨c, name, found, named, last⟩
    exact ⟨c, found, name, named, last⟩

theorem superclassIndex_lt {classes : List ObjcClass} {i p : Nat}
    (inherits : Inherits (superclassIndex classes) i p) : i < classes.length ∧ p < classes.length := by
  obtain ⟨c, name, found, -, ⟨d, found', -⟩, -⟩ := superclassIndex_eq_some_iff.1 inherits
  exact ⟨(List.getElem?_eq_some_iff.1 found).1, (List.getElem?_eq_some_iff.1 found').1⟩

theorem filterMap_getElem?_range {α : Type} (l : List α) :
    (List.range l.length).filterMap (l[·]?) = l := by
  induction l using List.reverseRecOn with
  | nil => rfl
  | append_singleton l c ih =>
    have earlier : (List.range l.length).filterMap ((l ++ [c])[·]?) =
        (List.range l.length).filterMap (l[·]?) :=
      List.filterMap_congr fun x mem => List.getElem?_append_left (List.mem_range.1 mem)
    simp only [List.length_append, List.length_singleton, List.range_succ, List.filterMap_append,
      earlier, ih, List.filterMap_cons, List.getElem?_concat_length, List.filterMap_nil]

theorem placed_inheritanceOrder (classes : List ObjcClass) :
    Placed (superclassIndex classes) classes.length (inheritanceOrder classes) classes.length :=
  placed_foldl (fun _ _ => superclassIndex_lt) classes.length (Nat.le_refl _)

/-- Sorting by inheritance reorders the classes: it places every class once, a class whose
superclasses do not lead back to it after its superclass, which is the last class bearing its
superclass's name, and on each cycle of superclasses exactly one class no later than its
superclass. -/
theorem superclassesFirst_orders (classes : List ObjcClass) :
    superclassesFirst classes = (inheritanceOrder classes).filterMap (classes[·]?) ∧
      (superclassesFirst classes).Perm classes ∧
      (inheritanceOrder classes).Perm (List.range classes.length) ∧
      (∀ i p, Inherits (superclassIndex classes) i p ↔
        ∃ c name, classes[i]? = some c ∧ c.superclass = .named name ∧
          (∃ d, classes[p]? = some d ∧ d.name = name) ∧
          ∀ q d, p < q → classes[q]? = some d → d.name ≠ name) ∧
      (∀ i p, Inherits (superclassIndex classes) i p →
        ¬ Relation.TransGen (Inherits (superclassIndex classes)) i i →
        ComesBefore (inheritanceOrder classes) p i) ∧
      ∀ i, Relation.TransGen (Inherits (superclassIndex classes)) i i →
        ∃! j, Relation.ReflTransGen (Inherits (superclassIndex classes)) i j ∧
          ∃ p, Inherits (superclassIndex classes) j p ∧ ¬ ComesBefore (inheritanceOrder classes) p j := by
  have placed := placed_inheritanceOrder classes
  have perm := placed.perm
  refine ⟨rfl, ?_, perm, fun i p => superclassIndex_eq_some_iff, fun i p inherits acyclic =>
    placed.before_of_acyclic (fun _ _ => superclassIndex_lt) inherits acyclic,
    fun i cycle => placed.cycle_breaks_once (fun _ _ => superclassIndex_lt) cycle⟩
  -- the classes taken in a reordering of their indices
  have reordered := perm.filterMap (classes[·]?)
  rwa [filterMap_getElem?_range] at reordered

-- two classes that name each other as superclass: the chain from the first closes on it, and the
-- first is placed after the second, before its own superclass
example :
    inheritanceOrder
      [{ ObjcClass.placeholderAt 0 ⟨none, .unsupported ""⟩ with name := "A", superclass := .named "B" },
        { ObjcClass.placeholderAt 0 ⟨none, .unsupported ""⟩ with name := "B", superclass := .named "A" }] =
      [1, 0] := by
  decide

end Interface

end ObjcImage
