import Mathlib
import ObjcImage.TypeEncoding.Parser

set_option autoImplicit false

/-!
Which types read back from their encoding. Reading depends on what follows a type: a sign or digit
after a type in a block signature is a frame offset, `@` takes a `?` or a quote after it, digits
run on into digits. `delimited` says when none of this happens.
-/

namespace ObjcImage.TypeEncoding

/-! ### Characters, numbers and names -/


def structural : List Char := ['^', '@', '[', '{', '(', 'b', ']', '}', ')', '>']

def plain (c : Char) : Bool := (Modifier.ofCode? c).isNone && !structural.contains c

theorem plain_code (p : Primitive) : plain p.code = true := by cases p <;> rfl

theorem ofCode_code (p : Primitive) : Primitive.ofCode? p.code = some p := by cases p <;> rfl

def unknownOk (raw : String) : Bool :=
  match raw.toList with
  | [c] => plain c && (Primitive.ofCode? c).isNone
  | _ => false

theorem isDigit_eq (c : Char) : isDigit c = c.isDigit := by
  simp [isDigit, Char.isDigit, Char.le_def]

theorem digitsValue_toDigits (n : Nat) : digitsValue (Nat.toDigits 10 n) = n := by
  have fold : digitsValue (Nat.toDigits 10 n) = Nat.ofDigitChars 10 (Nat.toDigits 10 n) 0 := by
    simp only [digitsValue, Nat.ofDigitChars, Nat.mul_comm]
  rw [fold, Nat.ofDigitChars_ten_toDigits]

theorem digits_toDigits_append (n : Nat) {rest : List Char}
    (stop : rest.head?.any isDigit = false) :
    (Nat.toDigits 10 n ++ rest).takeWhile isDigit = Nat.toDigits 10 n ∧
      (Nat.toDigits 10 n ++ rest).dropWhile isDigit = rest := by
  have allDigits : ∀ c ∈ Nat.toDigits 10 n, isDigit c = true := fun c mem => by
    rw [isDigit_eq]; exact Nat.isDigit_of_mem_toDigits (by decide) (by decide) mem
  rw [List.takeWhile_append_of_pos allDigits, List.dropWhile_append_of_pos allDigits]
  cases rest with
  | nil => simp
  | cons c cs => simp_all

def startsFrameOffset : List Char → Bool
  | '+' :: _ | '-' :: _ => true
  | c :: _ => isDigit c
  | [] => false

theorem skipFrameOffset_of_not_starts {s : List Char} (noOffset : startsFrameOffset s = false) :
    skipFrameOffset s = s := by
  unfold skipFrameOffset
  split
  · simp [startsFrameOffset] at noOffset
  · simp [startsFrameOffset] at noOffset
  · cases s with
    | nil => rfl
    | cons c cs =>
      have notDigit : isDigit c = false := by
        unfold startsFrameOffset at noOffset
        split at noOffset <;> simp_all
      simp [notDigit]

def classNameOk : Option String → Bool
  | none => true
  | some n => !n.isEmpty && n.toList.all fun c => c != '<' && c != '"'

def protocolOk (p : String) : Bool := p.toList.all fun c => c != '>' && c != '"'

theorem indexOf_quote_append {text : List Char} (follow : List Char) (noQuote : '"' ∉ text) :
    indexOf? '"' (text ++ '"' :: follow) = some text.length := by
  induction text with
  | nil => simp [indexOf?, List.findIdx?_cons]
  | cons c cs ih =>
    simp only [List.mem_cons, not_or] at noQuote
    simp [indexOf?, List.findIdx?_cons, Ne.symm noQuote.1] at ih ⊢
    simp [ih noQuote.2]

theorem protocolNames_name (acc : List Char) {p : List Char} (r : List Char) (noClose : '>' ∉ p) :
    protocolNames acc (p ++ r) = protocolNames (p.reverse ++ acc) r := by
  induction p generalizing acc with
  | nil => rfl
  | cons c cs ih =>
    simp only [List.mem_cons, not_or] at noClose
    rw [List.cons_append, protocolNames.eq_4 _ _ _ (Ne.symm noClose.1), ih _ noClose.2]
    simp

theorem protocolNames_protocols (p : String) (ps : List String)
    (ok : ∀ q ∈ p :: ps, '>' ∉ q.toList) :
    protocolNames [] (p.toList ++ '>' :: ps.flatMap fun q => '<' :: q.toList ++ ['>']) =
      p :: ps := by
  induction ps generalizing p with
  | nil =>
    rw [protocolNames_name [] _ (ok p (by simp)), List.flatMap_nil,
      protocolNames.eq_3 _ _ (by simp)]
    simp
  | cons q qs ih =>
    rw [protocolNames_name [] _ (ok p (by simp)), List.flatMap_cons]
    simp only [List.cons_append, List.append_assoc, List.nil_append] at ih ⊢
    rw [protocolNames.eq_2, ih q fun x mem => ok x (List.mem_cons_of_mem p mem)]
    simp

theorem objectOfQuoted_objectText {cls : Option String} {ps : List String}
    (clsOk : classNameOk cls = true) (psOk : ps.all protocolOk = true) :
    objectOfQuoted (TypeNode.objectText cls ps) = .object cls ps := by
  have nameChars : ∀ c ∈ (cls.getD "").toList, decide (c ≠ '<') = true := by
    intro c mem
    cases cls with
    | none => simp at mem
    | some n =>
      simp only [classNameOk, Bool.and_eq_true, List.all_eq_true, bne_iff_ne] at clsOk
      simpa using (clsOk.2 c mem).1
  have protocolStart : ((ps.flatMap fun p => '<' :: p.toList ++ ['>']).takeWhile
      fun c => decide (c ≠ '<')) = [] := by
    cases ps <;> simp
  have protocolChars : ∀ q ∈ ps, '>' ∉ q.toList := by
    intro q mem bad
    simp only [List.all_eq_true, protocolOk] at psOk
    simpa using psOk q mem '>' bad
  -- the class name runs up to the first `<`, which opens the protocols
  simp only [objectOfQuoted, TypeNode.objectText, List.span_eq_takeWhile_dropWhile,
    List.takeWhile_append_of_pos nameChars, List.dropWhile_append_of_pos nameChars,
    protocolStart, List.append_nil]
  congr 1
  · cases cls with
    | none => simp
    | some n =>
      simp only [classNameOk, Bool.and_eq_true, Bool.not_eq_true'] at clsOk
      have nonempty : n ≠ "" := fun empty => by simp [empty] at clsOk
      simp [nonempty]
  · cases ps with
    | nil => simp
    | cons p ps =>
      have dropped : ((p :: ps).flatMap fun p => '<' :: p.toList ++ ['>']).dropWhile
          (fun c => decide (c ≠ '<')) = (p :: ps).flatMap fun p => '<' :: p.toList ++ ['>'] := by
        simp
      rw [dropped, List.flatMap_cons]
      simp only [List.cons_append, List.append_assoc]
      exact protocolNames_protocols p ps protocolChars

theorem quote_not_mem_objectText {cls : Option String} {ps : List String}
    (clsOk : classNameOk cls = true) (psOk : ps.all protocolOk = true) :
    '"' ∉ TypeNode.objectText cls ps := by
  simp only [TypeNode.objectText, List.mem_append, List.mem_flatMap, not_or, not_exists, not_and]
  constructor
  · cases cls with
    | none => simp
    | some n =>
      intro mem
      simp only [classNameOk, Bool.and_eq_true, List.all_eq_true] at clsOk
      simpa using clsOk.2 _ mem
  · intro p mem
    simp only [List.all_eq_true, protocolOk] at psOk
    refine ⟨?_, by decide⟩
    simp only [List.mem_cons, not_or]
    exact ⟨by decide, fun bad => by simpa using psOk p mem _ bad⟩

def aggregateNameOk (kind : AggregateKind) : Option String → Bool
  | none => true
  | some n => !n.isEmpty && n != "?" && n.toList.all fun c => c != '=' && c != kind.closing

theorem aggregateName_split (kind : AggregateKind) {name : Option String}
    (ok : aggregateNameOk kind name = true) (after : List Char) {c : Char}
    (stop : c = '=' ∨ c = kind.closing) :
    ((name.getD "?").toList ++ c :: after).takeWhile (fun c => c != '=' && c != kind.closing) =
        (name.getD "?").toList ∧
      ((name.getD "?").toList ++ c :: after).dropWhile (fun c => c != '=' && c != kind.closing) =
        c :: after := by
  have nameChars : ∀ c ∈ (name.getD "?").toList, (c != '=' && c != kind.closing) = true := by
    intro c mem
    cases name with
    | none => cases kind <;> simp_all [AggregateKind.closing]
    | some n =>
      simp only [aggregateNameOk, Bool.and_eq_true, List.all_eq_true] at ok
      exact Bool.and_eq_true _ _ ▸ ok.2 c mem
  have stops : (c != '=' && c != kind.closing) = false := by
    rcases stop with same | same <;> simp [same]
  rw [List.takeWhile_append_of_pos nameChars, List.dropWhile_append_of_pos nameChars]
  simp [stops]

theorem aggregateLabel (kind : AggregateKind) {name : Option String}
    (ok : aggregateNameOk kind name = true) :
    (if (name.getD "?").toList.isEmpty || (name.getD "?").toList == ['?'] then none
      else some (String.ofList (name.getD "?").toList)) = name := by
  cases name with
  | none => simp
  | some n =>
    simp only [aggregateNameOk, Bool.and_eq_true, Bool.not_eq_true', bne_iff_ne, ne_eq] at ok
    have nonempty : n.toList ≠ [] := fun empty => by simp_all
    have notUnnamed : n.toList ≠ ['?'] := fun unnamed => ok.1.2 (by
      rw [← String.ofList_toList (s := n), unnamed])
    simp [nonempty, notUnnamed]

/-! ### One construct at a time -/

section Steps

variable {scope : Scope} {rest r : List Char} {t : TypeNode}


theorem parseType_plain (hd : scope.depth ≤ maxDepth) {c : Char} (isPlain : plain c = true) :
    ∃ h, parseType scope (c :: rest) =
      .ok ((match Primitive.ofCode? c with
        | some p => .primitive p
        | none => .unknown (String.singleton c)), ⟨rest, h⟩) := by
  simp only [plain, Bool.and_eq_true, Option.isNone_iff_eq_none, Bool.not_eq_true'] at isPlain
  obtain ⟨notModifier, notStructural⟩ := isPlain
  simp only [structural, List.contains_eq_mem, decide_eq_false_iff_not, List.mem_cons,
    List.not_mem_nil, or_false, not_or] at notStructural
  rw [parseType]
  simp only [gt_iff_lt, Nat.not_lt.2 hd, if_false, notModifier]
  -- every other branch of the reader is for a character that `plain` rules out
  split <;> simp_all
  cases Primitive.ofCode? c <;> simp [pure, Except.pure]

theorem parseType_modifier (hd : scope.depth ≤ maxDepth) (m : Modifier) {inner : TypeNode}
    (read : ∃ h, parseType (scope.nested scope.close) rest = .ok (inner, ⟨r, h⟩)) :
    ∃ h, parseType scope (m.code :: rest) = .ok (.modified m inner, ⟨r, h⟩) := by
  obtain ⟨h, read⟩ := read
  have known : Modifier.ofCode? m.code = some m := by cases m <;> rfl
  rw [parseType]
  simp [Nat.not_lt.2 hd, known, read, h.le, bind, Except.bind, pure, Except.pure]

theorem parseType_functionPointer (hd : scope.depth ≤ maxDepth) :
    ∃ h, parseType scope ('^' :: '?' :: rest) = .ok (.functionPointer, ⟨rest, h⟩) := by
  rw [parseType]
  simp [Nat.not_lt.2 hd, Modifier.ofCode?, Modifier.all, Modifier.code, pure, Except.pure]

theorem parseType_pointer (hd : scope.depth ≤ maxDepth) {target : TypeNode}
    (notFunction : rest.head? ≠ some '?')
    (read : ∃ h, parseType (scope.nested scope.close) rest = .ok (target, ⟨r, h⟩)) :
    ∃ h, parseType scope ('^' :: rest) = .ok (.pointer target, ⟨r, h⟩) := by
  obtain ⟨h, read⟩ := read
  rw [parseType]
  simp [Nat.not_lt.2 hd, Modifier.ofCode?, Modifier.all, Modifier.code, notFunction, read, h.le,
    bind, Except.bind, pure, Except.pure]

theorem parseType_bitfield (hd : scope.depth ≤ maxDepth) {w : Nat} (fits : w < Nat.pow 2 32)
    (stop : rest.head?.any isDigit = false) :
    ∃ h, parseType scope ('b' :: (Nat.toDigits 10 w ++ rest)) =
      .ok (.bitfield w, ⟨rest, h⟩) := by
  obtain ⟨taken, dropped⟩ := digits_toDigits_append w stop
  rw [parseType]
  simp [Nat.not_lt.2 hd, Modifier.ofCode?, Modifier.all, Modifier.code, taken, dropped,
    digitsValue_toDigits, Nat.toDigits_ne_nil, Nat.not_le.2 fits, pure, Except.pure]

theorem parseType_object (hd : scope.depth ≤ maxDepth)
    (read : ∃ h, parseObject scope rest = .ok (t, ⟨r, h⟩)) :
    ∃ h, parseType scope ('@' :: rest) = .ok (t, ⟨r, h⟩) := by
  obtain ⟨h, read⟩ := read
  rw [parseType]
  simp [Nat.not_lt.2 hd, Modifier.ofCode?, Modifier.all, Modifier.code, read, h, bind,
    Except.bind, pure, Except.pure]

theorem parseType_array (hd : scope.depth ≤ maxDepth)
    (read : ∃ h, parseArray scope rest = .ok (t, ⟨r, h⟩)) :
    ∃ h, parseType scope ('[' :: rest) = .ok (t, ⟨r, h⟩) := by
  obtain ⟨h, read⟩ := read
  rw [parseType]
  simp [Nat.not_lt.2 hd, Modifier.ofCode?, Modifier.all, Modifier.code, read, h, bind,
    Except.bind, pure, Except.pure]

theorem parseType_aggregate (hd : scope.depth ≤ maxDepth) (kind : AggregateKind)
    (read : ∃ h, parseAggregate kind scope rest = .ok (t, ⟨r, h⟩)) :
    ∃ h, parseType scope (kind.opening :: rest) = .ok (t, ⟨r, h⟩) := by
  obtain ⟨h, read⟩ := read
  rw [parseType]
  cases kind <;>
    simp [AggregateKind.opening, Nat.not_lt.2 hd, Modifier.ofCode?, Modifier.all, Modifier.code,
      read, h, bind, Except.bind, pure, Except.pure]

/-- What may follow the bare `@` of `id` without being read into it: no `?`, which would make it
a block, and no quote that would be read as its class, which only the quoted name of the next
field of a named aggregate avoids. -/
def idDelimited (close : Option Char) : List Char → Bool
  | '?' :: _ => false
  | '"' :: quoted =>
    match close with
    | none => false
    | some c =>
      match indexOf? '"' quoted with
      | none => true
      | some stop =>
        let after := quoted.drop (stop + 1)
        after.head? != some '"' && after.head? != some c
  | _ => true

/-- What may follow a quoted class: in the fields of a named aggregate, the next field's name or
the closing bracket; anywhere else, anything. -/
def classDelimited (close : Option Char) (follow : List Char) : Bool :=
  match close with
  | none => true
  | some c => follow.head? == some '"' || follow.head? == some c

theorem parseObject_id {follow : List Char} (delimited : idDelimited scope.close follow = true) :
    ∃ h, parseObject scope follow = .ok (TypeNode.id, ⟨follow, h⟩) := by
  unfold parseObject
  split
  · simp [idDelimited] at delimited
  · simp [idDelimited] at delimited
  · next quoted =>
    simp only [idDelimited] at delimited
    cases close : scope.close with
    | none => simp [close] at delimited
    | some c =>
      simp only [close] at delimited
      -- the quoted text is a class only when a quote or the closing bracket comes after it
      cases found : indexOf? '"' quoted with
      | none => simp [pure, Except.pure]
      | some stop =>
        simp only [found, bne_iff_ne, ne_eq, Bool.and_eq_true] at delimited
        have notClass : ((quoted.drop (stop + 1)).head? == some '"' ||
            (quoted.drop (stop + 1)).head? == some c) = false := by
          rw [Bool.or_eq_false_iff]
          exact ⟨beq_false_of_ne delimited.1, beq_false_of_ne delimited.2⟩
        simp only [notClass, Bool.false_eq_true, if_false, pure, Except.pure]
        exact ⟨Nat.le_refl _, trivial⟩
  · simp [pure, Except.pure]

theorem parseObject_blockNone {follow : List Char} (noSignature : follow.head? ≠ some '<') :
    ∃ h, parseObject scope ('?' :: follow) = .ok (.block none, ⟨follow, h⟩) := by
  unfold parseObject
  cases follow with
  | nil => simp [pure, Except.pure]
  | cons c cs =>
    have : c ≠ '<' := fun same => noSignature (by simp [same])
    simp [this, pure, Except.pure]

theorem parseObject_block {sig : List Char} {types : List TypeNode}
    (read : ∃ h, parseSignature (scope.nested none) sig = .ok (types, ⟨r, h⟩)) :
    ∃ h, parseObject scope ('?' :: '<' :: sig) = .ok (.block (some types), ⟨r, h⟩) := by
  obtain ⟨h, read⟩ := read
  unfold parseObject
  simp [read, bind, Except.bind, pure, Except.pure]
  omega

theorem parseObject_quoted {text follow : List Char} (noQuote : '"' ∉ text)
    (delimited : classDelimited scope.close follow = true) :
    ∃ h, parseObject scope ('"' :: (text ++ '"' :: follow)) =
      .ok (objectOfQuoted text, ⟨follow, h⟩) := by
  have found := indexOf_quote_append follow noQuote
  have after : (text ++ '"' :: follow).drop (text.length + 1) = follow := by simp
  have name : (text ++ '"' :: follow).take text.length = text := by simp
  unfold parseObject
  simp only [found, after, name]
  cases close : scope.close with
  | none => simp [pure, Except.pure]; omega
  | some c =>
    simp only [classDelimited, close] at delimited
    simp [delimited, pure, Except.pure]; omega

theorem parseType_quotedObject {cls : Option String} {ps : List String}
    {follow : List Char} (depth : scope.depth ≤ maxDepth) (clsOk : classNameOk cls = true)
    (psOk : ps.all protocolOk = true) (after : classDelimited scope.close follow = true)
    (notId : ¬(cls = none ∧ ps = [])) :
    ∃ h, parseType scope ((TypeNode.object cls ps).encode ++ follow) =
      .ok (.object cls ps, ⟨follow, h⟩) := by
  have layout : (TypeNode.object cls ps).encode ++ follow =
      '@' :: ('"' :: (TypeNode.objectText cls ps ++ '"' :: follow)) := by
    cases cls <;> cases ps <;> simp_all [TypeNode.encode]
  have read := parseObject_quoted (quote_not_mem_objectText clsOk psOk) after
  rw [objectOfQuoted_objectText clsOk psOk] at read
  rw [layout]
  exact parseType_object depth read

theorem parseArray_of {n : Nat} (fits : n < Nat.pow 2 64) {body : List Char} {e : TypeNode}
    (stop : body.head?.any isDigit = false)
    (read : ∃ h, parseType (scope.nested none) body = .ok (e, ⟨']' :: r, h⟩)) :
    ∃ h, parseArray scope (Nat.toDigits 10 n ++ body) = .ok (.array n e, ⟨r, h⟩) := by
  obtain ⟨taken, dropped⟩ := digits_toDigits_append n stop
  -- the element is read from what the count's digits leave
  rw [← dropped] at read
  obtain ⟨h, read⟩ := read
  unfold parseArray
  simp only [taken, digitsValue_toDigits, Nat.not_le.2 fits, read]
  have shorter : (']' :: r).length < body.length := dropped ▸ h
  simp only [List.length_cons] at shorter
  simp [bind, Except.bind, pure, Except.pure]
  omega

theorem parseAggregate_reference (kind : AggregateKind) {name : Option String}
    (ok : aggregateNameOk kind name = true) (follow : List Char) :
    ∃ h, parseAggregate kind scope ((name.getD "?").toList ++ kind.closing :: follow) =
      .ok (.aggregate kind name none, ⟨follow, h⟩) := by
  obtain ⟨taken, dropped⟩ := aggregateName_split kind ok follow (Or.inr rfl)
  unfold parseAggregate
  simp only [taken, aggregateLabel kind ok]
  split
  · next c r split =>
    rw [dropped, List.cons.injEq] at split
    obtain ⟨rfl, rfl⟩ := split
    simp [pure, Except.pure]
    omega
  · next split => simp [dropped] at split

theorem parseAggregate_body (kind : AggregateKind) {name : Option String}
    (ok : aggregateNameOk kind name = true) {body : List Char}
    {fields : List (Option String × TypeNode)}
    (read : ∃ h, parseFields kind.closing
      (scope.nested (if body.head? == some '"' then some kind.closing else none)) body =
        .ok (fields, ⟨r, h⟩)) :
    ∃ h, parseAggregate kind scope ((name.getD "?").toList ++ '=' :: body) =
      .ok (.aggregate kind name (some fields), ⟨r, h⟩) := by
  obtain ⟨h, read⟩ := read
  obtain ⟨taken, dropped⟩ := aggregateName_split kind ok body (Or.inl rfl)
  have notClosing : ('=' == kind.closing) = false := by cases kind <;> rfl
  unfold parseAggregate
  simp only [taken, aggregateLabel kind ok]
  split
  · next c rest split =>
    rw [dropped, List.cons.injEq] at split
    obtain ⟨rfl, rfl⟩ := split
    simp only [beq_iff_eq] at read
    simp [notClosing, read, bind, Except.bind, pure, Except.pure]
    omega
  · next split => simp [dropped] at split

theorem parseSignature_close :
    ∃ h, parseSignature scope ('>' :: r) = .ok ([], ⟨r, h⟩) := by
  unfold parseSignature
  simp [pure, Except.pure]

theorem parseSignature_cons {input mid : List Char} {types : List TypeNode}
    (notClose : input.head? ≠ some '>')
    (read : ∃ h, parseType scope input = .ok (t, ⟨mid, h⟩))
    (more : ∃ h, parseSignature scope (skipFrameOffset mid) = .ok (types, ⟨r, h⟩)) :
    ∃ h, parseSignature scope input = .ok (t :: types, ⟨r, h⟩) := by
  obtain ⟨h, read⟩ := read
  obtain ⟨h', more⟩ := more
  have skipped := length_skipFrameOffset_le mid
  unfold parseSignature
  split
  · next rest => simp at notClose
  · simp [read, more, bind, Except.bind, pure, Except.pure]
    omega

theorem parseFields_close {close : Char} :
    ∃ h, parseFields close scope (close :: r) = .ok ([], ⟨r, h⟩) := by
  unfold parseFields
  simp [pure, Except.pure]

theorem parseFields_unnamed {close c : Char} {cs mid : List Char}
    {fields : List (Option String × TypeNode)} (notClose : c ≠ close) (notQuote : c ≠ '"')
    (read : ∃ h, parseType scope (c :: cs) = .ok (t, ⟨mid, h⟩))
    (more : ∃ h, parseFields close scope mid = .ok (fields, ⟨r, h⟩)) :
    ∃ h, parseFields close scope (c :: cs) = .ok ((none, t) :: fields, ⟨r, h⟩) := by
  obtain ⟨h, read⟩ := read
  obtain ⟨h', more⟩ := more
  unfold parseFields
  simp only [List.length_cons] at h
  simp [notClose, notQuote, read, more, bind, Except.bind, pure, Except.pure]
  omega

theorem parseFields_named {close : Char} {name : String} {input mid : List Char}
    {fields : List (Option String × TypeNode)} (notClose : '"' ≠ close)
    (noQuote : '"' ∉ name.toList)
    (read : ∃ h, parseType scope input = .ok (t, ⟨mid, h⟩))
    (more : ∃ h, parseFields close scope mid = .ok (fields, ⟨r, h⟩)) :
    ∃ h, parseFields close scope ('"' :: (name.toList ++ '"' :: input)) =
      .ok ((some name, t) :: fields, ⟨r, h⟩) := by
  have found := indexOf_quote_append input noQuote
  have after : (name.toList ++ '"' :: input).drop (name.toList.length + 1) = input := by simp
  have taken : (name.toList ++ '"' :: input).take name.toList.length = name.toList := by simp
  rw [← after] at read
  obtain ⟨h, read⟩ := read
  obtain ⟨h', more⟩ := more
  unfold parseFields
  have shorter : mid.length < input.length := after ▸ h
  simp [notClose, found, taken, read, more, bind, Except.bind, pure, Except.pure]
  omega

end Steps

/-! ### Types that read back -/

def fieldsNamed : List (Option String × TypeNode) → Bool
  | (some _, _) :: _ => true
  | _ => false

mutual

/-- Whether a type written in `scope` and followed by the text `follow` reads back as itself:
its names and numbers can be written, it nests no deeper than `maxDepth`, and no part of its
encoding runs into the text that follows that part. -/
def delimited (scope : Scope) (t : TypeNode) (follow : List Char) : Bool :=
  decide (scope.depth ≤ maxDepth) &&
  match t with
  | .primitive _ | .functionPointer => true
  | .object none [] => idDelimited scope.close follow
  | .object cls ps => classNameOk cls && ps.all protocolOk && classDelimited scope.close follow
  | .block none => follow.head? != some '<'
  | .block (some types) => delimitedSignature (scope.nested none) types ('>' :: follow)
  | .pointer target =>
    target.encode.head? != some '?' && delimited (scope.nested scope.close) target follow
  | .array count element =>
    decide (count < Nat.pow 2 64) && !(element.encode.head?.any isDigit) &&
      delimited (scope.nested none) element (']' :: follow)
  | .aggregate kind name none => aggregateNameOk kind name
  | .aggregate kind name (some fields) =>
    aggregateNameOk kind name &&
      delimitedFields kind.closing
        (scope.nested (if fieldsNamed fields then some kind.closing else none)) fields
        (kind.closing :: follow)
  | .bitfield width => decide (width < Nat.pow 2 32) && !(follow.head?.any isDigit)
  | .modified _ inner => delimited (scope.nested scope.close) inner follow
  | .unknown raw => unknownOk raw

def delimitedSignature (scope : Scope) : List TypeNode → List Char → Bool
  | [], _ => true
  | t :: ts, follow =>
    delimited scope t (TypeNode.encodeAll ts ++ follow) &&
      !startsFrameOffset (TypeNode.encodeAll ts ++ follow) && delimitedSignature scope ts follow

/-- The fields of an aggregate closed by `close`: a name holds no quote, and a field without one
does not start like a name or like the end of the fields. -/
def delimitedFields (close : Char) (scope : Scope) :
    List (Option String × TypeNode) → List Char → Bool
  | [], _ => true
  | (none, t) :: fs, follow =>
    t.encode.head? != some '"' && t.encode.head? != some close &&
      delimited scope t (TypeNode.encodeFields fs ++ follow) &&
      delimitedFields close scope fs follow
  | (some n, t) :: fs, follow =>
    !n.toList.contains '"' && delimited scope t (TypeNode.encodeFields fs ++ follow) &&
      delimitedFields close scope fs follow

end

theorem encode_eq_cons {scope : Scope} {t : TypeNode} {follow : List Char}
    (fits : delimited scope t follow = true) : ∃ c cs, t.encode = c :: cs ∧ c ≠ '>' := by
  cases t with
  | unknown raw =>
    simp only [delimited, Bool.and_eq_true, unknownOk] at fits
    split at fits
    · next c single =>
      have : plain c = true := by simp_all
      refine ⟨c, [], by simp [TypeNode.encode, single], fun close => ?_⟩
      simp [close, plain, structural] at this
    · simp at fits
  | object cls ps =>
    cases cls <;> cases ps <;> simp [TypeNode.encode]
  | block sig => cases sig <;> simp [TypeNode.encode]
  | aggregate kind name fields => cases kind <;> simp [TypeNode.encode, AggregateKind.opening]
  | primitive p => cases p <;> simp [TypeNode.encode, Primitive.code]
  | modified m inner => cases m <;> simp [TypeNode.encode, Modifier.code]
  | _ => simp [TypeNode.encode]

theorem head_encodeFields {close : Char} (notQuote : close ≠ '"') {scope : Scope}
    {fields : List (Option String × TypeNode)} {outer : List Char}
    (fits : delimitedFields close scope fields (close :: outer) = true) :
    ((TypeNode.encodeFields fields ++ close :: outer).head? == some '"') = fieldsNamed fields := by
  match fields, fits with
  | [], _ => simp [TypeNode.encodeFields, fieldsNamed, notQuote]
  | (none, t) :: fs, fits =>
    simp only [delimitedFields, Bool.and_eq_true, bne_iff_ne, ne_eq] at fits
    obtain ⟨c, cs, written, -⟩ := encode_eq_cons fits.1.2
    have : c ≠ '"' := fun same => fits.1.1.1 (by simp [written, same])
    simp [TypeNode.encodeFields, written, fieldsNamed, this]
  | (some n, t) :: fs, _ => simp [TypeNode.encodeFields, fieldsNamed]

mutual

theorem parseType_encode (scope : Scope) :
    ∀ (t : TypeNode) (follow : List Char), delimited scope t follow = true →
      ∃ h, parseType scope (t.encode ++ follow) = .ok (t, ⟨follow, h⟩)
  | .primitive p, follow, fits => by
    simp only [delimited, Bool.and_true, decide_eq_true_eq] at fits
    have read : ∃ h, parseType scope (p.code :: follow) =
        .ok ((match Primitive.ofCode? p.code with
          | some p => .primitive p
          | none => .unknown (String.singleton p.code)), ⟨follow, h⟩) :=
      parseType_plain fits (plain_code p)
    simpa [TypeNode.encode, ofCode_code] using read
  | .functionPointer, follow, fits => by
    simp only [delimited, Bool.and_true, decide_eq_true_eq] at fits
    exact parseType_functionPointer fits
  | .object none [], follow, fits => by
    simp only [delimited, Bool.and_eq_true, decide_eq_true_eq] at fits
    exact parseType_object fits.1 (parseObject_id fits.2)
  | .object (some n) ps, follow, fits => by
    simp only [delimited, Bool.and_eq_true, decide_eq_true_eq] at fits
    obtain ⟨depth, ⟨nameOk, protocolsOk⟩, after⟩ := fits
    exact parseType_quotedObject depth nameOk protocolsOk after (by simp)
  | .object none (p :: ps), follow, fits => by
    simp only [delimited, Bool.and_eq_true, decide_eq_true_eq] at fits
    obtain ⟨depth, ⟨nameOk, protocolsOk⟩, after⟩ := fits
    exact parseType_quotedObject depth nameOk protocolsOk after (by simp)
  | .block none, follow, fits => by
    simp only [delimited, Bool.and_eq_true, decide_eq_true_eq, bne_iff_ne, ne_eq] at fits
    exact parseType_object fits.1 (parseObject_blockNone fits.2)
  | .block (some types), follow, fits => by
    simp only [delimited, Bool.and_eq_true, decide_eq_true_eq] at fits
    -- the signature is read one level down, where no closing bracket tells classes apart
    have written : (TypeNode.block (some types)).encode ++ follow =
        '@' :: '?' :: '<' :: (TypeNode.encodeAll types ++ '>' :: follow) := by
      simp [TypeNode.encode]
    rw [written]
    exact parseType_object fits.1
      (parseObject_block (parseSignature_encodeAll (scope.nested none) types follow fits.2))
  | .pointer target, follow, fits => by
    simp only [delimited, Bool.and_eq_true, decide_eq_true_eq, bne_iff_ne, ne_eq] at fits
    obtain ⟨depth, notFunction, inner⟩ := fits
    -- `^?` is a function pointer, so the target's encoding must not start with `?`
    obtain ⟨c, cs, written, -⟩ := encode_eq_cons inner
    have start : (target.encode ++ follow).head? ≠ some '?' := by
      simpa [written] using notFunction
    exact parseType_pointer depth start (parseType_encode _ target follow inner)
  | .array count element, follow, fits => by
    simp only [delimited, Bool.and_eq_true, decide_eq_true_eq, Bool.not_eq_true'] at fits
    obtain ⟨depth, ⟨small, notDigit⟩, inner⟩ := fits
    obtain ⟨c, cs, written, -⟩ := encode_eq_cons inner
    have stop : (element.encode ++ ']' :: follow).head?.any isDigit = false := by
      simpa [written] using notDigit
    have layout : (TypeNode.array count element).encode ++ follow =
        '[' :: (Nat.toDigits 10 count ++ (element.encode ++ ']' :: follow)) := by
      simp [TypeNode.encode]
    rw [layout]
    exact parseType_array depth
      (parseArray_of small stop (parseType_encode _ element (']' :: follow) inner))
  | .aggregate kind name none, follow, fits => by
    simp only [delimited, Bool.and_eq_true, decide_eq_true_eq] at fits
    have layout : (TypeNode.aggregate kind name none).encode ++ follow =
        kind.opening :: ((name.getD "?").toList ++ kind.closing :: follow) := by
      simp [TypeNode.encode, TypeNode.encodeBody]
    rw [layout]
    exact parseType_aggregate fits.1 kind (parseAggregate_reference kind fits.2 follow)
  | .aggregate kind name (some fields), follow, fits => by
    simp only [delimited, Bool.and_eq_true, decide_eq_true_eq] at fits
    obtain ⟨depth, nameOk, body⟩ := fits
    have closeNotQuote : kind.closing ≠ '"' := by cases kind <;> decide
    have fieldsRead := parseFields_encodeFields kind.closing closeNotQuote _ fields follow body
    -- the reader tells named fields by the quote after `=`, which the first field has exactly
    -- when it is named
    rw [← head_encodeFields closeNotQuote body] at fieldsRead
    have layout : (TypeNode.aggregate kind name (some fields)).encode ++ follow =
        kind.opening :: ((name.getD "?").toList ++
          '=' :: (TypeNode.encodeFields fields ++ kind.closing :: follow)) := by
      simp [TypeNode.encode, TypeNode.encodeBody]
    rw [layout]
    exact parseType_aggregate depth kind (parseAggregate_body kind nameOk fieldsRead)
  | .bitfield width, follow, fits => by
    simp only [delimited, Bool.and_eq_true, decide_eq_true_eq, Bool.not_eq_true'] at fits
    exact parseType_bitfield fits.1 fits.2.1 fits.2.2
  | .modified m inner, follow, fits => by
    simp only [delimited, Bool.and_eq_true, decide_eq_true_eq] at fits
    exact parseType_modifier fits.1 m (parseType_encode _ inner follow fits.2)
  | .unknown raw, follow, fits => by
    simp only [delimited, Bool.and_eq_true, decide_eq_true_eq, unknownOk] at fits
    obtain ⟨depth, single⟩ := fits
    split at single
    · next c chars =>
      simp only [Bool.and_eq_true, Option.isNone_iff_eq_none] at single
      have read : ∃ h, parseType scope (c :: follow) = .ok ((match Primitive.ofCode? c with
          | some p => .primitive p
          | none => .unknown (String.singleton c)), ⟨follow, h⟩) :=
        parseType_plain depth single.1
      have same : String.singleton c = raw := by
        rw [← String.ofList_toList (s := raw), chars, String.singleton_eq_ofList]
      have layout : (TypeNode.unknown raw).encode ++ follow = c :: follow := by
        simp [TypeNode.encode, chars]
      simp only [single.2, same] at read
      rw [layout]
      exact read
    · simp at single

theorem parseSignature_encodeAll (scope : Scope) :
    ∀ (types : List TypeNode) (follow : List Char),
      delimitedSignature scope types ('>' :: follow) = true →
      ∃ h, parseSignature scope (TypeNode.encodeAll types ++ '>' :: follow) =
        .ok (types, ⟨follow, h⟩)
  | [], follow, _ => parseSignature_close
  | t :: ts, follow, fits => by
    simp only [delimitedSignature, Bool.and_eq_true, Bool.not_eq_true'] at fits
    obtain ⟨⟨first, noOffset⟩, others⟩ := fits
    obtain ⟨c, cs, written, notClose⟩ := encode_eq_cons first
    have more := parseSignature_encodeAll scope ts follow others
    -- after each type the reader skips a frame offset; the text after this one starts none
    rw [← skipFrameOffset_of_not_starts noOffset] at more
    have layout : TypeNode.encodeAll (t :: ts) ++ '>' :: follow =
        t.encode ++ (TypeNode.encodeAll ts ++ '>' :: follow) := by
      simp [TypeNode.encodeAll]
    rw [layout]
    exact parseSignature_cons (by simp [written, notClose]) (parseType_encode scope t _ first) more

theorem parseFields_encodeFields (close : Char) (notQuote : close ≠ '"') (scope : Scope) :
    ∀ (fields : List (Option String × TypeNode)) (follow : List Char),
      delimitedFields close scope fields (close :: follow) = true →
      ∃ h, parseFields close scope (TypeNode.encodeFields fields ++ close :: follow) =
        .ok (fields, ⟨follow, h⟩)
  | [], follow, _ => parseFields_close
  | (none, t) :: fs, follow, fits => by
    simp only [delimitedFields, Bool.and_eq_true, bne_iff_ne, ne_eq] at fits
    obtain ⟨⟨⟨startsName, startsClose⟩, first⟩, others⟩ := fits
    obtain ⟨c, cs, written, -⟩ := encode_eq_cons first
    have read := parseType_encode scope t _ first
    rw [written] at read
    have layout : TypeNode.encodeFields ((none, t) :: fs) ++ close :: follow =
        c :: (cs ++ (TypeNode.encodeFields fs ++ close :: follow)) := by
      simp [TypeNode.encodeFields, written]
    rw [layout]
    exact parseFields_unnamed (fun same => startsClose (by simp [written, same]))
      (fun same => startsName (by simp [written, same])) read
      (parseFields_encodeFields close notQuote scope fs follow others)
  | (some n, t) :: fs, follow, fits => by
    simp only [delimitedFields, Bool.and_eq_true, Bool.not_eq_true'] at fits
    obtain ⟨⟨noQuote, first⟩, others⟩ := fits
    have layout : TypeNode.encodeFields ((some n, t) :: fs) ++ close :: follow =
        '"' :: (n.toList ++
          '"' :: (t.encode ++ (TypeNode.encodeFields fs ++ close :: follow))) := by
      simp [TypeNode.encodeFields]
    rw [layout]
    exact parseFields_named (Ne.symm notQuote) (by simpa using noQuote)
      (parseType_encode scope t _ first)
      (parseFields_encodeFields close notQuote scope fs follow others)

end

theorem parseSignature_int_offset {scope : Scope} (depth : scope.depth ≤ maxDepth) :
    ∃ h, parseSignature scope ['i', '+', '>'] = .ok ([.primitive .int], ⟨[], h⟩) := by
  have int : ∃ h, parseType scope ['i', '+', '>'] = .ok (.primitive .int, ⟨['+', '>'], h⟩) :=
    parseType_plain depth (by decide)
  have rest : ∃ h, parseSignature scope (skipFrameOffset ['+', '>']) = .ok ([], ⟨[], h⟩) :=
    parseSignature_close
  exact parseSignature_cons (by decide) int rest

end ObjcImage.TypeEncoding

namespace ObjcImage

open TypeEncoding

theorem decode_of_read {s : String} {t : TypeNode}
    (read : ∃ h, parseType Scope.top s.toList = .ok (t, ⟨[], h⟩)) : decode s = .ok t := by
  obtain ⟨h, read⟩ := read
  simp [decode, read]

/-- A type whose encoding reads back: written at the top of an encoding, with nothing after it,
it is delimited. -/
def TypeNode.Delimited (t : TypeNode) : Prop := delimited Scope.top t [] = true

instance (t : TypeNode) : Decidable t.Delimited := inferInstanceAs (Decidable (_ = true))

/-- A delimited type decodes from its encoding. -/
theorem TypeNode.decode_encoding_of_delimited {t : TypeNode} (fits : t.Delimited) :
    decode t.encoding = .ok t := by
  have read := parseType_encode Scope.top t [] fits
  rw [List.append_nil, ← String.toList_ofList (l := t.encode)] at read
  exact decode_of_read read

def samplePair : TypeNode :=
  .pointer (.aggregate .struct (some "Pair")
    (some [(some "first", .id), (some "second", .object (some "NSString") [])]))

example : samplePair.encoding = "^\x7bPair=\"first\"@\"second\"@\"NSString\"\x7d" := by decide

theorem TypeNode.decode_encoding_of_delimited_pair :
    samplePair.Delimited ∧ decode samplePair.encoding = .ok samplePair :=
  ⟨by decide, TypeNode.decode_encoding_of_delimited (by decide)⟩

/-- Reading `@?<i++>` takes the first `+` for the frame offset of `i` and the second for a type of
its own. The encoding of that block, `@?<i+>`, reads back without it: there the one `+` is taken
for the frame offset. -/
theorem TypeNode.decode_encoding_frameOffset :
    decode "@?<i++>" = .ok (.block (some [.primitive .int, .unknown "+"])) ∧
      (TypeNode.block (some [.primitive .int, .unknown "+"])).encoding = "@?<i+>" ∧
      decode "@?<i+>" = .ok (.block (some [.primitive .int])) := by
  have depth : (Scope.top.nested none).depth ≤ maxDepth := by decide
  refine ⟨decode_of_read ?_, by decide, decode_of_read ?_⟩
  · have int : ∃ h, parseType (Scope.top.nested none) ['i', '+', '+', '>'] =
        .ok (.primitive .int, ⟨['+', '+', '>'], h⟩) := parseType_plain depth (by decide)
    have plus : ∃ h, parseType (Scope.top.nested none) ['+', '>'] =
        .ok (.unknown "+", ⟨['>'], h⟩) := parseType_plain depth (by decide)
    have close : ∃ h, parseSignature (Scope.top.nested none) (skipFrameOffset ['>']) =
        .ok ([], ⟨[], h⟩) := parseSignature_close
    have rest : ∃ h, parseSignature (Scope.top.nested none) (skipFrameOffset ['+', '+', '>']) =
        .ok ([.unknown "+"], ⟨[], h⟩) := parseSignature_cons (by decide) plus close
    exact parseType_object (by decide)
      (parseObject_block (parseSignature_cons (by decide) int rest))
  · exact parseType_object (by decide) (parseObject_block (parseSignature_int_offset depth))

end ObjcImage
