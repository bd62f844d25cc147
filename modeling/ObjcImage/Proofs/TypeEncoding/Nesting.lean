import Mathlib
import ObjcImage.Proofs.TypeEncoding.Progress

set_option autoImplicit false

/-!
# How deep a reading of a type nests

A reading under a limit goes at most one level past it, and two readings under different limits
agree while the deeper stays within both, so `decode` refuses exactly what nests past `maxDepth`.
-/

namespace ObjcImage.TypeEncoding

@[simp] theorem Scope.nested_depth (s : Scope) (close : Option Char) :
    (s.nested close).depth = s.depth + 1 := rfl

@[simp] theorem Scope.top_depth : Scope.top.depth = 0 := rfl

namespace Traced

variable {α β : Type}

theorem andThen_depth_le {x : Traced α} {f : α → Traced β} {n : Nat} (first : x.depth ≤ n)
    (rest : ∀ a, x.result = .ok a → (f a).depth ≤ n) : (x.andThen f).depth ≤ n := by
  unfold andThen
  split
  · next a found => exact max_le first (rest a found)
  · exact first

@[simp] theorem andThen_ok_depth (x : Traced α) (g : α → β) :
    (x.andThen fun a => ok (g a)).depth = x.depth := by
  unfold andThen
  split <;> simp

end Traced

/-! ### A reading goes at most one level past its limit -/

mutual

theorem traceType_depth_le (limit : Nat) (scope : Scope) (input : List Char) :
    (traceType limit scope input).depth ≤ min (limit + 1 - scope.depth) input.length := by
  rw [traceType.eq_def]
  split
  · -- refused at the guard: no type is read
    simp
  · next within =>
    -- past the guard `scope.depth ≤ limit`, and a type read inside starts one character in
    split
    · simp
    · next c rest =>
      have _hlen : (c :: rest).length = rest.length + 1 := rfl
      split
      · -- a modifier: the type it modifies is read one level down
        have inner := traceType_depth_le limit (scope.nested scope.close) rest
        simp only [Traced.andThen_ok_depth, Traced.call_depth, Scope.nested_depth] at inner ⊢
        omega
      · dsimp only
        split
        · split
          · simp
          · have inner := traceType_depth_le limit (scope.nested scope.close) rest
            simp only [Traced.andThen_ok_depth, Traced.call_depth, Scope.nested_depth] at inner ⊢
            omega
        · have inner := traceObject_depth_le limit scope rest (by omega)
          simp only [Traced.andThen_ok_depth]
          omega
        · have inner := traceArray_depth_le limit scope rest (by omega)
          simp only [Traced.andThen_ok_depth]
          omega
        · have inner := traceAggregate_depth_le limit .struct scope rest (by omega)
          simp only [Traced.andThen_ok_depth]
          omega
        · have inner := traceAggregate_depth_le limit .union scope rest (by omega)
          simp only [Traced.andThen_ok_depth]
          omega
        · split_ifs <;> simp
        · simp
        · simp
        · simp
        · simp
        · split <;> simp
termination_by 2 * input.length
decreasing_by all_goals subst_vars; simp only [List.length_cons]; omega

theorem traceObject_depth_le (limit : Nat) (scope : Scope) (input : List Char)
    (fits : scope.depth ≤ limit) :
    (traceObject limit scope input).depth ≤ min (limit + 1 - scope.depth) (input.length + 1) := by
  unfold traceObject
  split
  · next sig =>
    have inner := traceSignature_depth_le limit scope none sig fits
    simp only [Traced.andThen_ok_depth, List.length_cons]
    omega
  · simp
  · dsimp only
    split
    · split_ifs <;> simp
    · split_ifs <;> simp
  · simp
termination_by 2 * input.length + 1
decreasing_by subst_vars; simp only [List.length_cons]; omega

theorem traceSignature_depth_le (limit : Nat) (scope : Scope) (inner : Option Char)
    (input : List Char) (fits : scope.depth ≤ limit) :
    (traceSignature limit (scope.nested inner) input).depth ≤
      min (limit + 1 - scope.depth) (input.length + 1) := by
  unfold traceSignature
  split
  · simp
  · apply Traced.andThen_depth_le
    · have first := traceType_depth_le limit (scope.nested inner) input
      simp only [Traced.call_depth, Scope.nested_depth] at first ⊢
      omega
    · intro p _
      have shorter : (skipFrameOffset p.2.rest).length < input.length :=
        Nat.lt_of_le_of_lt (length_skipFrameOffset_le p.2.rest) p.2.shorter
      have more := traceSignature_depth_le limit scope inner (skipFrameOffset p.2.rest) fits
      simp only [Traced.andThen_ok_depth]
      omega
termination_by 2 * input.length + 1
decreasing_by all_goals omega

theorem traceArray_depth_le (limit : Nat) (scope : Scope) (input : List Char)
    (fits : scope.depth ≤ limit) :
    (traceArray limit scope input).depth ≤ min (limit + 1 - scope.depth) (input.length + 1) := by
  unfold traceArray
  have digits := length_dropWhile_le isDigit input
  dsimp only
  split
  · simp
  · apply Traced.andThen_depth_le
    · have first := traceType_depth_le limit (scope.nested none) (input.dropWhile isDigit)
      simp only [Traced.call_depth, Scope.nested_depth] at first ⊢
      omega
    · intro p _
      split <;> simp
termination_by 2 * input.length + 1
decreasing_by omega

theorem traceAggregate_depth_le (limit : Nat) (kind : AggregateKind) (scope : Scope)
    (input : List Char) (fits : scope.depth ≤ limit) :
    (traceAggregate limit kind scope input).depth ≤
      min (limit + 1 - scope.depth) (input.length + 1) := by
  rw [traceAggregate.eq_1]
  split
  · next c r dropped =>
    have shorter : r.length < input.length :=
      Nat.lt_of_lt_of_le (length_lt_of_eq_cons dropped) (length_dropWhile_le _ input)
    by_cases closing : (c == kind.closing) = true
    · simp [closing]
    · by_cases equals : (c == '=') = true
      · simp only [closing, equals, ↓reduceIte, Bool.false_eq_true, Traced.andThen_ok_depth]
        exact (traceFields_depth_le limit kind.closing scope _ r fits).trans (by omega)
      · simp [closing, equals]
  · simp
termination_by 2 * input.length + 1
decreasing_by omega

theorem traceFields_depth_le (limit : Nat) (close : Char) (scope : Scope) (inner : Option Char)
    (input : List Char) (fits : scope.depth ≤ limit) :
    (traceFields limit close (scope.nested inner) input).depth ≤
      min (limit + 1 - scope.depth) (input.length + 1) := by
  unfold traceFields
  split
  · -- nothing left: the type read at the end fails at once, one level down
    apply Traced.andThen_depth_le
    · have first := traceType_depth_le limit (scope.nested inner) []
      simp only [Traced.call_depth, Scope.nested_depth, List.length_nil] at first ⊢
      omega
    · intro p _
      exact absurd p.2.shorter (Nat.not_lt_zero _)
  · next c rest =>
    split_ifs
    · simp
    · split
      · simp
      · next stop _ =>
        have after : (rest.drop (stop + 1)).length < (c :: rest).length :=
          length_drop_succ_lt _ c rest
        apply Traced.andThen_depth_le
        · have first := traceType_depth_le limit (scope.nested inner) (rest.drop (stop + 1))
          simp only [Traced.call_depth, Scope.nested_depth] at first ⊢
          omega
        · intro p _
          have shorter : p.2.rest.length < (c :: rest).length := Nat.lt_trans p.2.shorter after
          have more := traceFields_depth_le limit close scope inner p.2.rest fits
          simp only [Traced.andThen_ok_depth]
          omega
    · apply Traced.andThen_depth_le
      · have first := traceType_depth_le limit (scope.nested inner) (c :: rest)
        simp only [Traced.call_depth, Scope.nested_depth] at first ⊢
        omega
      · intro p _
        have shorter : p.2.rest.length < (c :: rest).length := p.2.shorter
        have more := traceFields_depth_le limit close scope inner p.2.rest fits
        simp only [Traced.andThen_ok_depth]
        omega
termination_by 2 * input.length + 1
decreasing_by all_goals subst_vars; simp only [List.length_cons] at *; omega

end

/-! ### Readings under two limits -/

/-- How the reading `y` under the limit `bound` relates to the reading `x` of the same input under
`limit`, both started `level` levels down: where `x` stays within both limits the two are one
reading, and where it stays within `limit` but goes past `bound`, `y` is refused as too deep. -/
structure Cut {α : Type} (limit bound level : Nat) (x y : Traced α) : Prop where
  same : level + x.depth ≤ limit → level + x.depth ≤ bound → y = x
  refused : level + x.depth ≤ limit → bound < level + x.depth →
    ∃ rest, y.result = .error ⟨.tooLarge, rest⟩

namespace Cut

variable {α β : Type} {limit bound level : Nat}

theorem refl {x : Traced α} (fits : level + x.depth ≤ bound) : Cut limit bound level x x :=
  ⟨fun _ _ => rfl, fun _ past => absurd past (by omega)⟩

theorem leaf {x : Traced α} (flat : x.depth = 0) (fits : level ≤ bound) :
    Cut limit bound level x x :=
  refl (by omega)

theorem of_refused (past : bound < level) (x : Traced α) (rest : List Char) :
    Cut limit bound level x (.fail ⟨.tooLarge, rest⟩) :=
  ⟨fun _ fits => absurd fits (by omega), fun _ _ => ⟨rest, rfl⟩⟩

theorem of_beyond (beyond : limit < level) (x y : Traced α) : Cut limit bound level x y :=
  ⟨fun within => absurd within (by omega), fun within => absurd within (by omega)⟩

theorem call {x y : Traced α} (inner : Cut limit bound (level + 1) x y) :
    Cut limit bound level x.call y.call where
  same within fits := by
    rw [inner.same (by simp only [Traced.call_depth] at within; omega)
      (by simp only [Traced.call_depth] at fits; omega)]
  refused within past := inner.refused (by simp only [Traced.call_depth] at within; omega)
    (by simp only [Traced.call_depth] at past; omega)

theorem andThen {x y : Traced α} {f g : α → Traced β} (first : Cut limit bound level x y)
    (rest : ∀ a, x.result = .ok a → level + x.depth ≤ bound → Cut limit bound level (f a) (g a)) :
    Cut limit bound level (x.andThen f) (y.andThen g) := by
  cases found : x.result with
  | error e =>
    rw [Traced.andThen_of_error f found]
    constructor
    · intro within fits
      rw [first.same within fits, Traced.andThen_of_error g found]
    · intro within past
      obtain ⟨r, refused⟩ := first.refused within past
      exact ⟨r, by simp [refused, bind, Except.bind]⟩
  | ok a =>
    rw [Traced.andThen_of_ok f found]
    constructor
    · intro within fits
      dsimp only at within fits
      have xs : y = x := first.same (by omega) (by omega)
      have fs : g a = f a := (rest a found (by omega)).same (by omega) (by omega)
      rw [xs, Traced.andThen_of_ok g found, fs]
    · intro within past
      dsimp only at within past
      by_cases deep : bound < level + x.depth
      · obtain ⟨r, refused⟩ := first.refused (by omega) deep
        exact ⟨r, by simp [refused, bind, Except.bind]⟩
      · -- `x` stays within `bound`, so the step after it goes past
        have xs : y = x := first.same (by omega) (by omega)
        obtain ⟨r, refused⟩ := (rest a found (by omega)).refused (by omega) (by omega)
        exact ⟨r, by rw [xs, Traced.andThen_of_ok g found]; exact refused⟩

theorem andThen_ok {x y : Traced α} (first : Cut limit bound level x y) (g : α → β) :
    Cut limit bound level (x.andThen fun a => .ok (g a)) (y.andThen fun a => .ok (g a)) :=
  first.andThen fun _ _ fits => leaf rfl (by omega)

end Cut

mutual

theorem traceType_cut (limit bound : Nat) (scope : Scope) (input : List Char) :
    Cut limit bound scope.depth (traceType limit scope input) (traceType bound scope input) := by
  -- the guard first: past either limit one of the readings stops here; within both, the two
  -- readings take the same branch and each branch follows from the calls made in it
  by_cases beyond : limit < scope.depth
  · exact Cut.of_beyond beyond _ _
  by_cases past : bound < scope.depth
  · rw [traceType.eq_def bound, if_pos past]
    exact Cut.of_refused past _ _
  rw [traceType.eq_def limit, traceType.eq_def bound, if_neg beyond, if_neg past]
  split
  · exact Cut.leaf rfl (by omega)
  · next c rest =>
    have _hlen : (c :: rest).length = rest.length + 1 := rfl
    cases modifier : Modifier.ofCode? c with
    | some m =>
      simp only
      exact (traceType_cut limit bound (scope.nested scope.close) rest).call.andThen_ok _
    | none =>
      simp only
      split
      · split
        · exact Cut.leaf rfl (by omega)
        · exact (traceType_cut limit bound (scope.nested scope.close) rest).call.andThen_ok _
      · exact (traceObject_cut limit bound scope rest (by omega)).andThen_ok _
      · exact (traceArray_cut limit bound scope rest (by omega)).andThen_ok _
      · exact (traceAggregate_cut limit bound .struct scope rest (by omega)).andThen_ok _
      · exact (traceAggregate_cut limit bound .union scope rest (by omega)).andThen_ok _
      · exact Cut.leaf (by split_ifs <;> rfl) (by omega)
      · exact Cut.leaf rfl (by omega)
      · exact Cut.leaf rfl (by omega)
      · exact Cut.leaf rfl (by omega)
      · exact Cut.leaf rfl (by omega)
      · exact Cut.leaf (by split <;> rfl) (by omega)
termination_by 2 * input.length
decreasing_by all_goals subst_vars; simp only [List.length_cons]; omega

theorem traceObject_cut (limit bound : Nat) (scope : Scope) (input : List Char)
    (fits : scope.depth ≤ bound) :
    Cut limit bound scope.depth (traceObject limit scope input) (traceObject bound scope input) := by
  unfold traceObject
  split
  · next sig => exact (traceSignature_cut limit bound scope none sig fits).andThen_ok _
  · exact Cut.leaf rfl fits
  · exact Cut.leaf (by dsimp only; split <;> split_ifs <;> rfl) fits
  · exact Cut.leaf rfl fits
termination_by 2 * input.length + 1
decreasing_by subst_vars; simp only [List.length_cons]; omega

theorem traceSignature_cut (limit bound : Nat) (scope : Scope) (inner : Option Char)
    (input : List Char) (fits : scope.depth ≤ bound) :
    Cut limit bound scope.depth (traceSignature limit (scope.nested inner) input)
      (traceSignature bound (scope.nested inner) input) := by
  unfold traceSignature
  split
  · exact Cut.leaf rfl fits
  · refine (traceType_cut limit bound (scope.nested inner) input).call.andThen fun p _ _ => ?_
    have shorter : (skipFrameOffset p.2.rest).length < input.length :=
      Nat.lt_of_le_of_lt (length_skipFrameOffset_le p.2.rest) p.2.shorter
    exact (traceSignature_cut limit bound scope inner (skipFrameOffset p.2.rest) fits).andThen_ok _
termination_by 2 * input.length + 1
decreasing_by all_goals omega

theorem traceArray_cut (limit bound : Nat) (scope : Scope) (input : List Char)
    (fits : scope.depth ≤ bound) :
    Cut limit bound scope.depth (traceArray limit scope input) (traceArray bound scope input) := by
  unfold traceArray
  have digits := length_dropWhile_le isDigit input
  dsimp only
  split
  · exact Cut.leaf rfl fits
  · refine (traceType_cut limit bound (scope.nested none) (input.dropWhile isDigit)).call.andThen
      fun p _ _ => Cut.leaf (by split <;> rfl) fits
termination_by 2 * input.length + 1
decreasing_by omega

theorem traceAggregate_cut (limit bound : Nat) (kind : AggregateKind) (scope : Scope)
    (input : List Char) (fits : scope.depth ≤ bound) :
    Cut limit bound scope.depth (traceAggregate limit kind scope input)
      (traceAggregate bound kind scope input) := by
  rw [traceAggregate.eq_1, traceAggregate.eq_1]
  split
  · next c r dropped =>
    have shorter : r.length < input.length :=
      Nat.lt_of_lt_of_le (length_lt_of_eq_cons dropped) (length_dropWhile_le _ input)
    by_cases closing : (c == kind.closing) = true
    · simp only [closing, ↓reduceIte]
      exact Cut.leaf rfl fits
    · by_cases equals : (c == '=') = true
      · simp only [closing, equals, ↓reduceIte, Bool.false_eq_true]
        exact (traceFields_cut limit bound kind.closing scope _ r fits).andThen_ok _
      · simp only [closing, equals, ↓reduceIte, Bool.false_eq_true]
        exact Cut.leaf rfl fits
  · exact Cut.leaf rfl fits
termination_by 2 * input.length + 1
decreasing_by omega

theorem traceFields_cut (limit bound : Nat) (close : Char) (scope : Scope) (inner : Option Char)
    (input : List Char) (fits : scope.depth ≤ bound) :
    Cut limit bound scope.depth (traceFields limit close (scope.nested inner) input)
      (traceFields bound close (scope.nested inner) input) := by
  unfold traceFields
  split
  · exact (traceType_cut limit bound (scope.nested inner) []).call.andThen
      fun p _ _ => absurd p.2.shorter (Nat.not_lt_zero _)
  · next c rest =>
    split_ifs
    · exact Cut.leaf rfl fits
    · split
      · exact Cut.leaf rfl fits
      · next stop _ =>
        have after : (rest.drop (stop + 1)).length < (c :: rest).length :=
          length_drop_succ_lt _ c rest
        refine (traceType_cut limit bound (scope.nested inner) (rest.drop (stop + 1))).call.andThen
          fun p _ _ => ?_
        have shorter : p.2.rest.length < (c :: rest).length := Nat.lt_trans p.2.shorter after
        exact (traceFields_cut limit bound close scope inner p.2.rest fits).andThen_ok _
    · refine (traceType_cut limit bound (scope.nested inner) (c :: rest)).call.andThen
        fun p _ _ => ?_
      have shorter : p.2.rest.length < (c :: rest).length := p.2.shorter
      exact (traceFields_cut limit bound close scope inner p.2.rest fits).andThen_ok _
termination_by 2 * input.length + 1
decreasing_by all_goals subst_vars; simp only [List.length_cons] at *; omega

end

theorem traceMethodTypes_cut (limit bound : Nat) (input : List Char) :
    Cut limit bound 0 (traceMethodTypes limit input) (traceMethodTypes bound input) := by
  unfold traceMethodTypes
  split
  · exact Cut.leaf rfl (Nat.zero_le _)
  · next c cs =>
    refine (traceType_cut limit bound Scope.top (c :: cs)).andThen fun p _ _ => ?_
    have shorter : (skipFrameOffset p.2.rest).length < (c :: cs).length :=
      Nat.lt_of_le_of_lt (length_skipFrameOffset_le p.2.rest) p.2.shorter
    exact (traceMethodTypes_cut limit bound (skipFrameOffset p.2.rest)).andThen_ok _
termination_by input.length
decreasing_by subst_vars; omega

/-! ### Nesting depth -/

theorem traceType_depth_le_length (limit : Nat) (scope : Scope) (input : List Char) :
    (traceType limit scope input).depth ≤ input.length :=
  (traceType_depth_le limit scope input).trans (min_le_right _ _)

theorem traceMethodTypes_depth_le_length (limit : Nat) (input : List Char) :
    (traceMethodTypes limit input).depth ≤ input.length := by
  unfold traceMethodTypes
  split
  · simp
  · next c cs =>
    apply Traced.andThen_depth_le (traceType_depth_le_length limit Scope.top (c :: cs))
    intro p _
    have shorter : (skipFrameOffset p.2.rest).length < (c :: cs).length :=
      Nat.lt_of_le_of_lt (length_skipFrameOffset_le p.2.rest) p.2.shorter
    have more := traceMethodTypes_depth_le_length limit (skipFrameOffset p.2.rest)
    simp only [Traced.andThen_ok_depth]
    omega
termination_by input.length
decreasing_by subst_vars; omega

/-- How deep the calls to read the first type of `input` nest below it, read under a limit that
no reading of it reaches. -/
def nesting (input : List Char) : Nat := (traceType input.length Scope.top input).depth

def methodNesting (encoding : List Char) : Nat :=
  (traceMethodTypes encoding.length (skipFrameOffset encoding)).depth

theorem parseType_tooLarge_of_deep (input : List Char) (deep : maxDepth < nesting input) :
    ∃ rest, parseType Scope.top input = .error ⟨.tooLarge, rest⟩ := by
  have cut := traceType_cut input.length maxDepth Scope.top input
  have within := traceType_depth_le_length input.length Scope.top input
  obtain ⟨rest, refused⟩ := cut.refused (by simpa using within) (by simpa [nesting] using deep)
  exact ⟨rest, by rw [parseType_eq_trace, refused]; rfl⟩

theorem decode_tooLarge_of_deep (s : String) (deep : maxDepth < nesting s.toList) :
    ∃ rest, decode s = .error ⟨s, .fault ⟨.tooLarge, rest⟩⟩ := by
  obtain ⟨rest, refused⟩ := parseType_tooLarge_of_deep s.toList deep
  exact ⟨rest, by simp only [decode, refused]⟩

theorem decodeMethod_tooLarge_of_deep (s : String) (deep : maxDepth < methodNesting s.toList) :
    ∃ rest, decodeMethod s = .error ⟨s, .fault ⟨.tooLarge, rest⟩⟩ := by
  have cut := traceMethodTypes_cut s.toList.length maxDepth (skipFrameOffset s.toList)
  have within : (traceMethodTypes s.toList.length (skipFrameOffset s.toList)).depth ≤
      s.toList.length :=
    (traceMethodTypes_depth_le_length _ _).trans (length_skipFrameOffset_le _)
  obtain ⟨rest, refused⟩ := cut.refused (by simpa using within)
    (by simpa [methodNesting] using deep)
  exact ⟨rest, by simp only [decodeMethod, parseMethodTypes_eq_trace, refused]⟩

theorem traceType_pointer_chain_depth (limit n : Nat) (scope : Scope)
    (fits : scope.depth + n ≤ limit) :
    (traceType limit scope (List.replicate n '^' ++ ['i'])).depth = n := by
  induction n generalizing scope with
  | zero =>
    rw [traceType.eq_def, if_neg (by omega)]
    rfl
  | succ n ih =>
    have inner := ih (scope.nested scope.close) (by simp only [Scope.nested_depth]; omega)
    have notBlock : ((List.replicate n '^' ++ ['i']).head? == some '?') = false := by
      cases n <;> rfl
    have notModifier : Modifier.ofCode? '^' = none := rfl
    rw [traceType.eq_def, if_neg (by omega)]
    simp only [List.replicate_succ, List.cons_append, notModifier, notBlock, Bool.false_eq_true,
      ↓reduceIte, Traced.andThen_ok_depth, Traced.call_depth, inner]

theorem nesting_pointer_chain (n : Nat) : nesting (List.replicate n '^' ++ ['i']) = n :=
  traceType_pointer_chain_depth _ n Scope.top (by simp)

/-! ### Reading a type ends, and refuses what nests too deep -/

/-- Every step of reading a type takes a character; no reading nests more than one level past
`maxDepth`; the loops over the fields of an aggregate and over the types of a signature run at most
once for each character; and an encoding nested deeper than `maxDepth` is refused as too large. -/
theorem readers_progress_within_maxDepth :
    (∀ (scope : Scope) (input : List Char) (t : TypeNode) (r : Rest input),
      parseType scope input = .ok (t, r) → ∃ taken, taken ≠ [] ∧ input = taken ++ r.1) ∧
    (∀ (scope : Scope) (input : List Char),
      parseType scope input =
        (fun p => (p.1, p.2.toRest)) <$> (traceType maxDepth scope input).result ∧
      (traceType maxDepth scope input).depth ≤ maxDepth + 1 - scope.depth) ∧
    (∀ (close : Char) (scope : Scope) (input : List Char)
      (fields : List (Option String × TypeNode)) (r : Remainder input),
      parseFields close scope input = .ok (fields, r) →
        fields.length + r.1.length < input.length) ∧
    (∀ (scope : Scope) (input : List Char) (types : List TypeNode) (r : Remainder input),
      parseSignature scope input = .ok (types, r) → types.length + r.1.length < input.length) ∧
    (∀ (s : String) (types : List TypeNode), decodeMethod s = .ok types →
      types.length ≤ s.length) ∧
    (∀ s : String, maxDepth < nesting s.toList →
      ∃ rest, decode s = .error ⟨s, .fault ⟨.tooLarge, rest⟩⟩) ∧
    (∀ s : String, maxDepth < methodNesting s.toList →
      ∃ rest, decodeMethod s = .error ⟨s, .fault ⟨.tooLarge, rest⟩⟩) :=
  ⟨fun _ _ _ _ read => parseType_proper_suffix read,
    fun scope input => ⟨parseType_eq_trace scope input,
      (traceType_depth_le maxDepth scope input).trans (min_le_left _ _)⟩,
    fun close scope input _ _ read => parseFields_count close scope input read,
    fun scope input _ _ read => parseSignature_count scope input read,
    fun _ _ read => decodeMethod_count read,
    decode_tooLarge_of_deep,
    decodeMethod_tooLarge_of_deep⟩

/-- Ten levels of pointers past `maxDepth` are refused. -/
theorem pointer_chain_past_maxDepth_refused :
    maxDepth < nesting (String.ofList (List.replicate 522 '^' ++ ['i'])).toList ∧
      ∃ rest, decode (String.ofList (List.replicate 522 '^' ++ ['i'])) =
        .error ⟨String.ofList (List.replicate 522 '^' ++ ['i']), .fault ⟨.tooLarge, rest⟩⟩ := by
  have deep : maxDepth < nesting (String.ofList (List.replicate 522 '^' ++ ['i'])).toList := by
    rw [String.toList_ofList, nesting_pointer_chain]
    decide
  exact ⟨deep, readers_progress_within_maxDepth.2.2.2.2.2.1 _ deep⟩

end ObjcImage.TypeEncoding
