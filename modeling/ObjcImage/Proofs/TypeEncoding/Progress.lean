import Mathlib
import ObjcImage.TypeEncoding.Parser

set_option autoImplicit false

/-!
Reading a type, traced: `parseType` with its limit as a parameter and the depth its calls nest to.
Every step leaves a suffix of its input, proper when it took a character.
-/

namespace ObjcImage.TypeEncoding

structure Suffix (input : List Char) where
  rest : List Char
  suffix : rest <:+ input

structure ProperSuffix (input : List Char) where
  rest : List Char
  suffix : rest <:+ input
  shorter : rest.length < input.length

def ProperSuffix.toRest {input : List Char} (r : ProperSuffix input) : Rest input :=
  ⟨r.rest, r.shorter⟩

def Suffix.toRemainder {input : List Char} (r : Suffix input) : Remainder input :=
  ⟨r.rest, r.suffix.length_le⟩

@[simp] theorem ProperSuffix.toRest_val {input : List Char} (r : ProperSuffix input) :
    r.toRest.1 = r.rest := rfl

@[simp] theorem Suffix.toRemainder_val {input : List Char} (r : Suffix input) :
    r.toRemainder.1 = r.rest := rfl

def Suffix.afterChar {c : Char} {rest : List Char} (r : Suffix rest) : ProperSuffix (c :: rest) :=
  ⟨r.rest, r.suffix.trans (List.suffix_cons c rest), Nat.lt_succ_of_le r.suffix.length_le⟩

def ProperSuffix.toSuffix {input : List Char} (r : ProperSuffix input) : Suffix input :=
  ⟨r.rest, r.suffix⟩

theorem skipFrameOffset_suffix (s : List Char) : skipFrameOffset s <:+ s := by
  unfold skipFrameOffset
  split
  · exact (List.dropWhile_suffix isDigit).trans (List.suffix_cons _ _)
  · exact (List.dropWhile_suffix isDigit).trans (List.suffix_cons _ _)
  · exact List.dropWhile_suffix isDigit

theorem suffix_of_eq_cons {l s : List Char} {c : Char} (h : l = c :: s) : s <:+ l :=
  h ▸ List.suffix_cons c s

/-- A reading and the depth to which its calls to read a type nested below it. -/
structure Traced (α : Type) where
  result : Except Fault α
  depth : Nat

namespace Traced

variable {α β : Type}

def ok (a : α) : Traced α := ⟨.ok a, 0⟩

def fail (f : Fault) : Traced α := ⟨.error f, 0⟩

def call (x : Traced α) : Traced α := ⟨x.result, x.depth + 1⟩

def andThen (x : Traced α) (f : α → Traced β) : Traced β :=
  match x.result with
  | .ok a => ⟨(f a).result, max x.depth (f a).depth⟩
  | .error e => ⟨.error e, x.depth⟩

@[simp] theorem ok_result (a : α) : (ok a).result = .ok a := rfl
@[simp] theorem ok_depth (a : α) : (ok a).depth = 0 := rfl
@[simp] theorem fail_result (f : Fault) : (fail f : Traced α).result = .error f := rfl
@[simp] theorem fail_depth (f : Fault) : (fail f : Traced α).depth = 0 := rfl
@[simp] theorem call_result (x : Traced α) : x.call.result = x.result := rfl
@[simp] theorem call_depth (x : Traced α) : x.call.depth = x.depth + 1 := rfl

@[simp] theorem andThen_result (x : Traced α) (f : α → Traced β) :
    (x.andThen f).result = x.result >>= fun a => (f a).result := by
  unfold andThen
  split <;> simp_all [bind, Except.bind]

theorem andThen_of_ok {x : Traced α} {a : α} (f : α → Traced β) (h : x.result = .ok a) :
    x.andThen f = ⟨(f a).result, max x.depth (f a).depth⟩ := by
  simp [andThen, h]

theorem andThen_of_error {x : Traced α} {e : Fault} (f : α → Traced β) (h : x.result = .error e) :
    x.andThen f = ⟨.error e, x.depth⟩ := by
  simp [andThen, h]

end Traced

mutual

/-- Reads one type from the front of the input as `parseType` does, refusing to go deeper than
`limit`. -/
def traceType (limit : Nat) (scope : Scope) (input : List Char) :
    Traced (TypeNode × ProperSuffix input) :=
  if scope.depth > limit then .fail ⟨.tooLarge, input⟩ else
  match input with
  | [] => .fail ⟨.eof, []⟩
  | c :: rest =>
    have _hlen : (c :: rest).length = rest.length + 1 := rfl
    match Modifier.ofCode? c with
    | some m =>
      (traceType limit (scope.nested scope.close) rest).call.andThen fun p =>
        .ok (.modified m p.1, p.2.toSuffix.afterChar)
    | none =>
      match c with
      | '^' =>
        if rest.head? == some '?' then
          .ok (.functionPointer, Suffix.afterChar ⟨rest.drop 1, List.drop_suffix 1 rest⟩)
        else
          (traceType limit (scope.nested scope.close) rest).call.andThen fun p =>
            .ok (.pointer p.1, p.2.toSuffix.afterChar)
      | '@' => (traceObject limit scope rest).andThen fun p => .ok (p.1, p.2.afterChar)
      | '[' => (traceArray limit scope rest).andThen fun p => .ok (p.1, p.2.afterChar)
      | '{' => (traceAggregate limit .struct scope rest).andThen fun p => .ok (p.1, p.2.afterChar)
      | '(' => (traceAggregate limit .union scope rest).andThen fun p => .ok (p.1, p.2.afterChar)
      | 'b' =>
        let digits := rest.takeWhile isDigit
        if digits.isEmpty then .fail ⟨.digit, rest⟩
        else if digitsValue digits ≥ Nat.pow 2 32 then .fail ⟨.mapRes, rest⟩
        else .ok (.bitfield (digitsValue digits),
          Suffix.afterChar ⟨rest.dropWhile isDigit, List.dropWhile_suffix isDigit⟩)
      | ']' | '}' | ')' | '>' => .fail ⟨.char, c :: rest⟩
      | c =>
        match Primitive.ofCode? c with
        | some p => .ok (.primitive p, Suffix.afterChar ⟨rest, List.suffix_refl rest⟩)
        | none => .ok (.unknown (String.singleton c), Suffix.afterChar ⟨rest, List.suffix_refl rest⟩)
termination_by 2 * input.length
decreasing_by all_goals omega

def traceObject (limit : Nat) (scope : Scope) (input : List Char) :
    Traced (TypeNode × Suffix input) :=
  match input with
  | '?' :: '<' :: sig =>
    have _hlen : ('?' :: '<' :: sig).length = sig.length + 2 := rfl
    (traceSignature limit (scope.nested none) sig).andThen fun p =>
      .ok (.block (some p.1),
        ⟨p.2.rest, p.2.suffix.trans ((List.suffix_cons '<' sig).trans (List.suffix_cons '?' _))⟩)
  | '?' :: r => .ok (.block none, ⟨r, List.suffix_cons '?' r⟩)
  | '"' :: quoted =>
    match indexOf? '"' quoted with
    | some stop =>
      let after := quoted.drop (stop + 1)
      let isClassName := match scope.close with
        | none => true
        | some close => after.head? == some '"' || after.head? == some close
      if isClassName then
        .ok (objectOfQuoted (quoted.take stop),
          ⟨after, (List.drop_suffix (stop + 1) quoted).trans (List.suffix_cons '"' quoted)⟩)
      else .ok (TypeNode.id, ⟨'"' :: quoted, List.suffix_refl _⟩)
    | none =>
      if scope.close.isNone then .fail ⟨.char, '"' :: quoted⟩
      else .ok (TypeNode.id, ⟨'"' :: quoted, List.suffix_refl _⟩)
  | other => .ok (TypeNode.id, ⟨other, List.suffix_refl _⟩)
termination_by 2 * input.length + 1
decreasing_by omega

def traceSignature (limit : Nat) (scope : Scope) (input : List Char) :
    Traced (List TypeNode × Suffix input) :=
  match input with
  | '>' :: r => .ok ([], ⟨r, List.suffix_cons '>' r⟩)
  | other =>
    (traceType limit scope other).call.andThen fun p =>
      have _hnext : (skipFrameOffset p.2.rest).length < other.length :=
        Nat.lt_of_le_of_lt (length_skipFrameOffset_le p.2.rest) p.2.shorter
      (traceSignature limit scope (skipFrameOffset p.2.rest)).andThen fun q =>
        .ok (p.1 :: q.1,
          ⟨q.2.rest, q.2.suffix.trans ((skipFrameOffset_suffix p.2.rest).trans p.2.suffix)⟩)
termination_by 2 * input.length + 1
decreasing_by all_goals omega

def traceArray (limit : Nat) (scope : Scope) (input : List Char) :
    Traced (TypeNode × Suffix input) :=
  let digits := input.takeWhile isDigit
  have _hdigits : (input.dropWhile isDigit).length ≤ input.length :=
    length_dropWhile_le isDigit input
  if digitsValue digits ≥ Nat.pow 2 64 then .fail ⟨.tooLarge, input⟩ else
    (traceType limit (scope.nested none) (input.dropWhile isDigit)).call.andThen fun p =>
      match hr : p.2.rest with
      | ']' :: r' =>
        .ok (.array (digitsValue digits) p.1,
          ⟨r', (suffix_of_eq_cons hr).trans (p.2.suffix.trans (List.dropWhile_suffix isDigit))⟩)
      | _ => .fail ⟨.char, p.2.rest⟩
termination_by 2 * input.length + 1
decreasing_by omega

def traceAggregate (limit : Nat) (kind : AggregateKind) (scope : Scope) (input : List Char) :
    Traced (TypeNode × Suffix input) :=
  let name := input.takeWhile (fun c => c != '=' && c != kind.closing)
  let label := if name.isEmpty || name == ['?'] then none else some (String.ofList name)
  have hname := length_dropWhile_le (fun c => c != '=' && c != kind.closing) input
  match h : input.dropWhile (fun c => c != '=' && c != kind.closing) with
  | c :: r =>
    if c == kind.closing then
      .ok (.aggregate kind label none, ⟨r, (suffix_of_eq_cons h).trans (List.dropWhile_suffix _)⟩)
    else if c == '=' then
      let named := r.head? == some '"'
      let fieldScope := scope.nested (if named then some kind.closing else none)
      have _hr : r.length < input.length := Nat.lt_of_lt_of_le (length_lt_of_eq_cons h) hname
      (traceFields limit kind.closing fieldScope r).andThen fun p =>
        .ok (.aggregate kind label (some p.1),
          ⟨p.2.rest, p.2.suffix.trans ((suffix_of_eq_cons h).trans (List.dropWhile_suffix _))⟩)
    else .fail ⟨.char, c :: r⟩
  | [] => .fail ⟨.char, []⟩
termination_by 2 * input.length + 1
decreasing_by omega

def traceFields (limit : Nat) (close : Char) (scope : Scope) (input : List Char) :
    Traced (List (Option String × TypeNode) × Suffix input) :=
  match input with
  | [] =>
    (traceType limit scope []).call.andThen fun p => absurd p.2.shorter (Nat.not_lt_zero _)
  | c :: rest =>
    if c == close then .ok ([], ⟨rest, List.suffix_cons c rest⟩)
    else if c == '"' then
      match indexOf? '"' rest with
      | none => .fail ⟨.char, c :: rest⟩
      | some stop =>
        have hafter : (rest.drop (stop + 1)).length < (c :: rest).length :=
          length_drop_succ_lt _ c rest
        (traceType limit scope (rest.drop (stop + 1))).call.andThen fun p =>
          have _hr : p.2.rest.length < (c :: rest).length := Nat.lt_trans p.2.shorter hafter
          (traceFields limit close scope p.2.rest).andThen fun q =>
            .ok ((some (String.ofList (rest.take stop)), p.1) :: q.1,
              ⟨q.2.rest, q.2.suffix.trans (p.2.suffix.trans
                ((List.drop_suffix (stop + 1) rest).trans (List.suffix_cons c rest)))⟩)
    else
      (traceType limit scope (c :: rest)).call.andThen fun p =>
        have _hr : p.2.rest.length < (c :: rest).length := p.2.shorter
        (traceFields limit close scope p.2.rest).andThen fun q =>
          .ok ((none, p.1) :: q.1, ⟨q.2.rest, q.2.suffix.trans p.2.suffix⟩)
termination_by 2 * input.length + 1
decreasing_by all_goals omega

end

def traceMethodTypes (limit : Nat) (input : List Char) : Traced (List TypeNode) :=
  match input with
  | [] => .ok []
  | c :: cs =>
    (traceType limit Scope.top (c :: cs)).andThen fun p =>
      have _shorter : (skipFrameOffset p.2.rest).length < (c :: cs).length :=
        Nat.lt_of_le_of_lt (length_skipFrameOffset_le p.2.rest) p.2.shorter
      (traceMethodTypes limit (skipFrameOffset p.2.rest)).andThen fun ts => .ok (p.1 :: ts)
termination_by input.length
decreasing_by omega

/-! ### The traced reading at `maxDepth` is the reading -/

mutual

theorem parseType_eq_trace (scope : Scope) (input : List Char) :
    parseType scope input =
      (fun p => (p.1, p.2.toRest)) <$> (traceType maxDepth scope input).result := by
  rw [parseType.eq_def, traceType.eq_def]
  split
  · rfl
  · split
    · rfl
    · next c rest =>
      have _hlen : (c :: rest).length = rest.length + 1 := rfl
      cases modifier : Modifier.ofCode? c with
      | some m =>
        simp only [modifier]
        rw [parseType_eq_trace (scope.nested scope.close) rest]
        simp only [Traced.andThen_result, Traced.call_result, bind_map_left, map_bind]
        rfl
      | none =>
        simp only [modifier]
        split
        · split
          · rfl
          · rw [parseType_eq_trace (scope.nested scope.close) rest]
            simp only [Traced.andThen_result, Traced.call_result, bind_map_left, map_bind]
            rfl
        · rw [parseObject_eq_trace scope rest]
          simp only [Traced.andThen_result, bind_map_left, map_bind]
          rfl
        · rw [parseArray_eq_trace scope rest]
          simp only [Traced.andThen_result, bind_map_left, map_bind]
          rfl
        · rw [parseAggregate_eq_trace .struct scope rest]
          simp only [Traced.andThen_result, bind_map_left, map_bind]
          rfl
        · rw [parseAggregate_eq_trace .union scope rest]
          simp only [Traced.andThen_result, bind_map_left, map_bind]
          rfl
        · split
          · rfl
          · split <;> rfl
        · rfl
        · rfl
        · rfl
        · rfl
        · -- a character read on its own: the traced reader reaches its last branch as well
          split <;> simp_all <;> rfl
termination_by 2 * input.length
decreasing_by all_goals subst_vars; omega

theorem parseObject_eq_trace (scope : Scope) (input : List Char) :
    parseObject scope input =
      (fun p => (p.1, p.2.toRemainder)) <$> (traceObject maxDepth scope input).result := by
  unfold parseObject
  split
  · next sig =>
    rw [traceObject.eq_1, parseSignature_eq_trace (scope.nested none) sig]
    simp only [Traced.andThen_result, bind_map_left, map_bind]
    rfl
  · next r notSignature => rw [traceObject.eq_2 _ _ _ notSignature]; rfl
  · next quoted =>
    -- whether the quoted text is a class depends on the closing bracket of the scope
    rw [traceObject.eq_3]
    cases indexOf? '"' quoted with
    | none => split_ifs <;> rfl
    | some stop =>
      cases scope.close <;> dsimp only <;> split_ifs <;> rfl
  · next other notSignature notBlock notQuoted =>
    rw [traceObject.eq_4 _ _ _ notSignature notBlock notQuoted]; rfl
termination_by 2 * input.length + 1
decreasing_by subst_vars; simp only [List.length_cons]; omega

theorem parseSignature_eq_trace (scope : Scope) (input : List Char) :
    parseSignature scope input =
      (fun p => (p.1, p.2.toRemainder)) <$> (traceSignature maxDepth scope input).result := by
  unfold parseSignature
  split
  · next r => rw [traceSignature.eq_1]; rfl
  · next notClose =>
    rw [traceSignature.eq_2 _ _ _ notClose, parseType_eq_trace scope input]
    simp only [Traced.andThen_result, Traced.call_result, bind_map_left, map_bind]
    refine bind_congr fun p => ?_
    have shorter : (skipFrameOffset p.2.rest).length < input.length :=
      Nat.lt_of_le_of_lt (length_skipFrameOffset_le p.2.rest) p.2.shorter
    simp only [ProperSuffix.toRest_val]
    rw [parseSignature_eq_trace scope (skipFrameOffset p.2.rest)]
    simp only [bind_map_left]
    rfl
termination_by 2 * input.length + 1
decreasing_by all_goals omega

theorem parseArray_eq_trace (scope : Scope) (input : List Char) :
    parseArray scope input =
      (fun p => (p.1, p.2.toRemainder)) <$> (traceArray maxDepth scope input).result := by
  have shorter : (input.dropWhile isDigit).length ≤ input.length := length_dropWhile_le isDigit input
  unfold parseArray traceArray
  simp only []
  split
  · rfl
  · rw [parseType_eq_trace (scope.nested none) (input.dropWhile isDigit)]
    simp only [Traced.andThen_result, Traced.call_result, bind_map_left, map_bind]
    refine bind_congr fun p => ?_
    -- the element's rest is a variable once the pair is taken apart; split by its first
    -- character, both matches on it reduce
    obtain ⟨element, ⟨r, suffix, shorter⟩⟩ := p
    simp only [ProperSuffix.toRest_val]
    rcases r with _ | ⟨c, r⟩
    · rfl
    · by_cases closing : c = ']'
      · subst closing
        rfl
      · simp [closing]
termination_by 2 * input.length + 1
decreasing_by omega

theorem parseAggregate_eq_trace (kind : AggregateKind) (scope : Scope) (input : List Char) :
    parseAggregate kind scope input =
      (fun p => (p.1, p.2.toRemainder)) <$> (traceAggregate maxDepth kind scope input).result := by
  have shorter := length_dropWhile_le (fun c => c != '=' && c != kind.closing) input
  -- the traced reader's match on the text after the name decides the branch; the reader's own
  -- match on the same text takes the same one
  rw [traceAggregate.eq_1]
  split
  · next c r dropped =>
    rw [parseAggregate.eq_1]
    split
    · next c' r' dropped' =>
      rw [dropped, List.cons.injEq] at dropped'
      obtain ⟨rfl, rfl⟩ := dropped'
      have : r.length < input.length := Nat.lt_of_lt_of_le (length_lt_of_eq_cons dropped) shorter
      by_cases closing : (c == kind.closing) = true
      · simp only [closing, ↓reduceIte]; rfl
      · by_cases equals : (c == '=') = true
        · simp only [closing, equals, ↓reduceIte, Bool.false_eq_true]
          rw [parseFields_eq_trace kind.closing _ r]
          simp only [Traced.andThen_result, bind_map_left, map_bind]
          rfl
        · simp only [closing, equals, ↓reduceIte, Bool.false_eq_true]; rfl
    · next dropped' => simp [dropped] at dropped'
  · next dropped =>
    rw [parseAggregate.eq_1]
    split
    · next c r dropped' => simp [dropped] at dropped'
    · rfl
termination_by 2 * input.length + 1
decreasing_by omega

theorem parseFields_eq_trace (close : Char) (scope : Scope) (input : List Char) :
    parseFields close scope input =
      (fun p => (p.1, p.2.toRemainder)) <$> (traceFields maxDepth close scope input).result := by
  unfold parseFields traceFields
  split
  · rw [parseType_eq_trace scope []]
    simp only [Traced.andThen_result, Traced.call_result, bind_map_left, map_bind]
    refine bind_congr fun p => absurd p.2.shorter (Nat.not_lt_zero _)
  · next c rest =>
    dsimp only
    split
    · rfl
    · split
      · cases found : indexOf? '"' rest with
        | none => rfl
        | some stop =>
          dsimp only
          have after : (rest.drop (stop + 1)).length < (c :: rest).length :=
            length_drop_succ_lt _ c rest
          rw [parseType_eq_trace scope (rest.drop (stop + 1))]
          simp only [Traced.andThen_result, Traced.call_result, bind_map_left, map_bind]
          refine bind_congr fun p => ?_
          have shorter : p.2.rest.length < (c :: rest).length := Nat.lt_trans p.2.shorter after
          simp only [ProperSuffix.toRest_val]
          rw [parseFields_eq_trace close scope p.2.rest]
          simp only [bind_map_left]
          rfl
      · rw [parseType_eq_trace scope (c :: rest)]
        simp only [Traced.andThen_result, Traced.call_result, bind_map_left, map_bind]
        refine bind_congr fun p => ?_
        have shorter : p.2.rest.length < (c :: rest).length := p.2.shorter
        simp only [ProperSuffix.toRest_val]
        rw [parseFields_eq_trace close scope p.2.rest]
        simp only [bind_map_left]
        rfl
termination_by 2 * input.length + 1
decreasing_by all_goals subst_vars; omega

end

theorem parseMethodTypes_eq_trace (input : List Char) :
    parseMethodTypes input = (traceMethodTypes maxDepth input).result := by
  unfold parseMethodTypes traceMethodTypes
  split
  · rfl
  · next c cs =>
    rw [parseType_eq_trace Scope.top (c :: cs)]
    simp only [Traced.andThen_result, bind_map_left]
    refine bind_congr fun p => ?_
    have shorter : (skipFrameOffset p.2.rest).length < (c :: cs).length :=
      Nat.lt_of_le_of_lt (length_skipFrameOffset_le p.2.rest) p.2.shorter
    simp only [ProperSuffix.toRest_val]
    rw [parseMethodTypes_eq_trace (skipFrameOffset p.2.rest)]
    rfl
termination_by input.length
decreasing_by subst_vars; omega

/-! ### Every read moves forward -/

theorem parseType_proper_suffix {scope : Scope} {input : List Char} {t : TypeNode}
    {r : Rest input} (read : parseType scope input = .ok (t, r)) :
    ∃ taken, taken ≠ [] ∧ input = taken ++ r.1 := by
  rw [parseType_eq_trace] at read
  cases traced : (traceType maxDepth scope input).result with
  | error e => simp [traced] at read
  | ok p =>
    rw [traced] at read
    have same : (p.1, p.2.toRest) = (t, r) := Except.ok.inj read
    obtain ⟨taken, joined⟩ := p.2.suffix
    refine ⟨taken, fun empty => ?_, ?_⟩
    · -- taking nothing would leave the whole input, which is no shorter than itself
      have lengths := congrArg List.length joined
      simp only [empty, List.nil_append] at lengths
      exact Nat.lt_irrefl _ (lengths ▸ p.2.shorter)
    · rw [← (Prod.mk.inj same).2, ProperSuffix.toRest_val, joined]

theorem parseFields_count (close : Char) (scope : Scope) :
    ∀ (input : List Char) {fields : List (Option String × TypeNode)} {r : Remainder input},
      parseFields close scope input = .ok (fields, r) → fields.length + r.1.length < input.length
  | [], fields, r, read => by
    rw [parseFields.eq_1] at read
    cases first : parseType scope [] with
    | error e => simp [first, bind, Except.bind] at read
    | ok p => exact absurd p.2.2 (Nat.not_lt_zero _)
  | c :: rest, fields, r, read => by
    rw [parseFields.eq_2] at read
    split at read
    · simp only [pure, Except.pure, Except.ok.injEq, Prod.mk.injEq] at read
      obtain ⟨rfl, rfl⟩ := read
      simp
    · split at read
      · split at read
        · simp at read
        · next stop found =>
          cases first : parseType scope (rest.drop (stop + 1)) with
          | error e => simp [first, bind, Except.bind] at read
          | ok p =>
            have shorter : p.2.1.length < (c :: rest).length :=
              Nat.lt_trans p.2.2 (length_drop_succ_lt _ c rest)
            cases more : parseFields close scope p.2.1 with
            | error e => simp [first, more, bind, Except.bind] at read
            | ok q =>
              simp only [first, more, bind, Except.bind, pure, Except.pure, Except.ok.injEq,
                Prod.mk.injEq] at read
              obtain ⟨rfl, rfl⟩ := read
              have others := parseFields_count close scope p.2.1 more
              simp only [List.length_cons] at shorter ⊢
              omega
      · cases first : parseType scope (c :: rest) with
        | error e => simp [first, bind, Except.bind] at read
        | ok p =>
          have shorter : p.2.1.length < (c :: rest).length := p.2.2
          cases more : parseFields close scope p.2.1 with
          | error e => simp [first, more, bind, Except.bind] at read
          | ok q =>
            simp only [first, more, bind, Except.bind, pure, Except.pure, Except.ok.injEq,
              Prod.mk.injEq] at read
            obtain ⟨rfl, rfl⟩ := read
            have others := parseFields_count close scope p.2.1 more
            simp only [List.length_cons] at shorter ⊢
            omega
termination_by input => input.length
decreasing_by all_goals omega

theorem parseSignature_count (scope : Scope) (input : List Char) {types : List TypeNode}
    {r : Remainder input} (read : parseSignature scope input = .ok (types, r)) :
    types.length + r.1.length < input.length := by
  unfold parseSignature at read
  split at read
  · simp only [pure, Except.pure, Except.ok.injEq, Prod.mk.injEq] at read
    obtain ⟨rfl, rfl⟩ := read
    simp
  · cases first : parseType scope input with
    | error e => simp [first, bind, Except.bind] at read
    | ok p =>
      -- the next pass reads what the frame offset after this type leaves
      have shorter : (skipFrameOffset p.2.1).length < input.length :=
        Nat.lt_of_le_of_lt (length_skipFrameOffset_le p.2.1) p.2.2
      cases more : parseSignature scope (skipFrameOffset p.2.1) with
      | error e => simp [first, more, bind, Except.bind] at read
      | ok q =>
        simp only [first, more, bind, Except.bind, pure, Except.pure, Except.ok.injEq,
          Prod.mk.injEq] at read
        obtain ⟨rfl, rfl⟩ := read
        have others := parseSignature_count scope (skipFrameOffset p.2.1) more
        simp only [List.length_cons]
        omega
termination_by input.length
decreasing_by omega

theorem parseMethodTypes_count (input : List Char) {types : List TypeNode}
    (read : parseMethodTypes input = .ok types) : types.length ≤ input.length := by
  unfold parseMethodTypes at read
  split at read
  · simp only [pure, Except.pure, Except.ok.injEq] at read
    simp [← read]
  · next c cs =>
    cases first : parseType Scope.top (c :: cs) with
    | error e => simp [first, bind, Except.bind] at read
    | ok p =>
      have shorter : (skipFrameOffset p.2.1).length < (c :: cs).length :=
        Nat.lt_of_le_of_lt (length_skipFrameOffset_le p.2.1) p.2.2
      cases more : parseMethodTypes (skipFrameOffset p.2.1) with
      | error e => simp [first, more, bind, Except.bind] at read
      | ok ts =>
        simp only [first, more, bind, Except.bind, pure, Except.pure, Except.ok.injEq] at read
        have others := parseMethodTypes_count (skipFrameOffset p.2.1) more
        rw [← read, List.length_cons]
        omega
termination_by input.length
decreasing_by subst_vars; omega

theorem decodeMethod_count {s : String} {types : List TypeNode} (read : decodeMethod s = .ok types) :
    types.length ≤ s.length := by
  unfold decodeMethod at read
  split at read
  · simp at read
  · next ts _ found =>
    simp only [Except.ok.injEq] at read
    have counted := parseMethodTypes_count _ found
    have skipped := length_skipFrameOffset_le s.toList
    rw [← read, ← String.length_toList]
    omega
  · simp at read

end ObjcImage.TypeEncoding
