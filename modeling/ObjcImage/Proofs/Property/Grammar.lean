import Mathlib
import ObjcImage.Proofs.Property.Attributes

set_option autoImplicit false

/-!
Which type encodings the attribute split keeps whole, read off the type grammar: an encoding pairs
its own brackets and quotes, and what it cannot vouch for is the text it copies from the tree.
-/

namespace ObjcImage

namespace AttributeScan

/-- The scan of `w` from `s` stays at depth `floor` or deeper wherever it is outside quotes, and
cuts at none of the commas of `w`. -/
def Stays (floor : Int) : AttributeScan → List Char → Prop
  | s, [] => s.quoted = false → floor ≤ s.depth
  | s, c :: w => (s.quoted = false → floor ≤ s.depth) ∧ ¬ (c = ',' ∧ s.TopLevel) ∧ Stays floor (s.step c) w

theorem Stays.start {floor : Int} {s : AttributeScan} :
    ∀ {w : List Char}, Stays floor s w → s.quoted = false → floor ≤ s.depth
  | [], stays => stays
  | _ :: _, stays => stays.1

theorem stays_append {floor : Int} {a b : List Char} {s : AttributeScan} :
    Stays floor s (a ++ b) ↔ Stays floor s a ∧ Stays floor (a.foldl step s) b := by
  induction a generalizing s with
  | nil => exact ⟨fun stays => ⟨stays.start, stays⟩, fun both => both.2⟩
  | cons c a ih => simp only [List.cons_append, Stays, ih, List.foldl_cons, and_assoc]

theorem Stays.mono {floor floor' : Int} (lower : floor' ≤ floor) {s : AttributeScan} :
    ∀ {w : List Char}, Stays floor s w → Stays floor' s w
  | [], stays => fun unquoted => lower.trans (stays unquoted)
  | _ :: _, ⟨here, uncut, rest⟩ => ⟨fun unquoted => lower.trans (here unquoted), uncut, rest.mono lower⟩

theorem Stays.uncut {floor : Int} :
    ∀ {w : List Char} {s : AttributeScan}, Stays floor s w →
      ∀ i < w.length, w[i]? = some ',' → ¬ ((w.take i).foldl step s).TopLevel
  | [], _, _, i, below, _ => absurd below (Nat.not_lt_zero i)
  | c :: w, s, ⟨_, uncut, rest⟩, i, below, comma => by
    cases i with
    | zero => exact fun top => uncut ⟨by simpa using comma, top⟩
    | succ i => exact rest.uncut i (by simpa using below) (by simpa using comma)

/-! ### One character of the scan -/

section Step

variable {s : AttributeScan}

theorem step_quote : (s.step '"').quoted = !s.quoted ∧ (s.step '"').depth = s.depth := by
  simp [step]

theorem step_inQuotes (quoted : s.quoted = true) {c : Char} (other : c ≠ '"') :
    (s.step c).quoted = true ∧ (s.step c).depth = s.depth := by
  simp [step, quoted, other]

theorem step_opening (unquoted : s.quoted = false) {c : Char}
    (opens : (c == '{' || c == '(' || c == '[' || c == '<') = true) :
    (s.step c).quoted = false ∧ (s.step c).depth = s.depth + 1 := by
  simp only [Bool.or_eq_true, beq_iff_eq] at opens
  rcases opens with ((rfl | rfl) | rfl) | rfl <;> simp [step, unquoted]

theorem step_closing (unquoted : s.quoted = false) {c : Char}
    (closes : (c == '}' || c == ')' || c == ']' || c == '>') = true) :
    (s.step c).quoted = false ∧ (s.step c).depth = s.depth - 1 := by
  simp only [Bool.or_eq_true, beq_iff_eq] at closes
  rcases closes with ((rfl | rfl) | rfl) | rfl <;> simp [step, unquoted]

theorem step_comma_level : (s.step ',').quoted = s.quoted ∧ (s.step ',').depth = s.depth := by
  unfold step
  split_ifs <;> simp_all

theorem step_plain_level {c : Char} (plain : c ∉ marks) :
    (s.step c).quoted = s.quoted ∧ (s.step c).depth = s.depth := by
  rw [step_plain plain]
  exact ⟨rfl, rfl⟩

end Step

/-! ### Texts the scan passes over -/

/-- Scanned from any state outside quotes at depth `lowest` or deeper, `w` stays at that state's
depth or deeper outside quotes, cuts at none of its commas, and ends outside quotes at the depth it
started from. `Passes 0` is text that can stand anywhere; `Passes 1` text that stands inside
brackets, where its commas never cut. -/
def Passes (lowest : Int) (w : List Char) : Prop :=
  ∀ s : AttributeScan, s.quoted = false → lowest ≤ s.depth →
    Stays s.depth s w ∧ (w.foldl step s).quoted = false ∧ (w.foldl step s).depth = s.depth

theorem Passes.mono {lowest lowest' : Int} (deeper : lowest ≤ lowest') {w : List Char}
    (passes : Passes lowest w) : Passes lowest' w :=
  fun s unquoted within => passes s unquoted (deeper.trans within)

theorem Passes.append {lowest : Int} {a b : List Char} (first : Passes lowest a)
    (second : Passes lowest b) : Passes lowest (a ++ b) := by
  intro s unquoted within
  obtain ⟨staysA, quotedA, depthA⟩ := first s unquoted within
  obtain ⟨staysB, quotedB, depthB⟩ := second _ quotedA (depthA ▸ within)
  rw [depthA] at staysB depthB
  exact ⟨stays_append.2 ⟨staysA, staysB⟩, by rwa [List.foldl_append], by rwa [List.foldl_append]⟩

theorem stays_plain {floor : Int} :
    ∀ {w : List Char} {s : AttributeScan}, (∀ c ∈ w, c ∉ marks) →
      (s.quoted = false → floor ≤ s.depth) → Stays floor s w
  | [], _, _, here => here
  | c :: w, s, plain, here => by
    have notMark := plain c List.mem_cons_self
    have level := step_plain_level (s := s) notMark
    refine ⟨here, fun ⟨comma, _⟩ => notMark (by simp [comma, marks]), ?_⟩
    exact stays_plain (fun d mem => plain d (List.mem_cons_of_mem c mem))
      (by rw [level.1, level.2]; exact here)

theorem passes_plain {lowest : Int} {w : List Char} (plain : ∀ c ∈ w, c ∉ marks) :
    Passes lowest w := by
  intro s unquoted _
  have run := foldl_step_plain (s := s) plain
  refine ⟨stays_plain plain fun _ => le_refl _, ?_, ?_⟩ <;> rw [run]
  exact unquoted

theorem run_inQuotes (floor : Int) :
    ∀ {w : List Char} {s : AttributeScan}, s.quoted = true → '"' ∉ w →
      Stays floor s w ∧ (w.foldl step s).quoted = true ∧ (w.foldl step s).depth = s.depth
  | [], _, quoted, _ => ⟨fun unquoted => absurd (quoted.symm.trans unquoted) Bool.noConfusion, quoted, rfl⟩
  | c :: w, s, quoted, noQuote => by
    have other : c ≠ '"' := fun same => noQuote (same ▸ List.mem_cons_self)
    obtain ⟨stillQuoted, sameDepth⟩ := step_inQuotes quoted other
    obtain ⟨stays, endQuoted, endDepth⟩ :=
      run_inQuotes floor stillQuoted fun mem => noQuote (List.mem_cons_of_mem c mem)
    refine ⟨⟨fun unquoted => absurd (quoted.symm.trans unquoted) Bool.noConfusion,
      fun ⟨_, top⟩ => absurd (quoted.symm.trans top.1) Bool.noConfusion, stays⟩, endQuoted, ?_⟩
    rw [List.foldl_cons, endDepth, sameDepth]

theorem passes_quoted {lowest : Int} {w : List Char} (noQuote : '"' ∉ w) :
    Passes lowest ('"' :: w ++ ['"']) := by
  intro s unquoted _
  have opened := step_quote (s := s)
  rw [unquoted] at opened
  obtain ⟨inside, quotedAfter, depthAfter⟩ := run_inQuotes s.depth opened.1 noQuote
  have closed := step_quote (s := w.foldl step (s.step '"'))
  rw [quotedAfter] at closed
  have depthEnd : (step (w.foldl step (s.step '"')) '"').depth = s.depth := by
    rw [closed.2, depthAfter, opened.2]
  refine ⟨⟨fun _ => le_refl _, fun ⟨comma, _⟩ => by simp at comma, ?_⟩, ?_, ?_⟩
  · refine stays_append.2 ⟨inside, fun _ => ?_, fun ⟨comma, _⟩ => by simp at comma, fun _ => ?_⟩
    · rw [depthAfter, opened.2]
    · rw [depthEnd]
  · simpa [List.foldl_append] using closed.1
  · simpa [List.foldl_append] using depthEnd

theorem passes_bracket {o c : Char} (opens : (o == '{' || o == '(' || o == '[' || o == '<') = true)
    (closes : (c == '}' || c == ')' || c == ']' || c == '>') = true) {w : List Char}
    (inner : Passes 1 w) : Passes 0 (o :: w ++ [c]) := by
  intro s unquoted within
  obtain ⟨quoted₁, depth₁⟩ := step_opening unquoted opens
  obtain ⟨stays, quoted₂, depth₂⟩ := inner _ quoted₁ (by omega)
  obtain ⟨quoted₃, depth₃⟩ := step_closing quoted₂ closes
  have notComma : ∀ {x : Char}, (x == '{' || x == '(' || x == '[' || x == '<' ||
      (x == '}' || x == ')' || x == ']' || x == '>')) = true → x ≠ ',' := by
    intro x bracket comma
    simp [comma] at bracket
  refine ⟨⟨fun _ => le_refl _, fun ⟨comma, _⟩ => notComma (by simp [opens]) comma, ?_⟩, ?_, ?_⟩
  · refine stays_append.2 ⟨stays.mono (by omega), fun _ => by omega,
      fun ⟨comma, _⟩ => notComma (by simp [closes]) comma, fun _ => by omega⟩
  · simpa [List.foldl_append] using quoted₃
  · simp only [List.foldl_cons, List.foldl_append, List.foldl_nil]
    omega

end AttributeScan

/-! ### The texts a type copies -/

/-- Whether a text, read from `n` of its own brackets deep, holds no quote, closes every bracket
it opens and none that it did not, and, unless `commas`, holds no comma outside its own
brackets. -/
def closesBrackets (commas : Bool) : Nat → List Char → Bool
  | n, [] => n == 0
  | n, c :: w =>
    if c == '"' then false
    else if c == '{' || c == '(' || c == '[' || c == '<' then closesBrackets commas (n + 1) w
    else if c == '}' || c == ')' || c == ']' || c == '>' then n != 0 && closesBrackets commas (n - 1) w
    else if c == ',' && n == 0 then commas && closesBrackets commas n w
    else closesBrackets commas n w

open AttributeScan in
theorem stays_of_closesBrackets {commas : Bool} {base : Int} (atOrBelow : 0 ≤ base)
    (inside : commas = true → 0 < base) :
    ∀ {w : List Char} {n : Nat} {s : AttributeScan}, closesBrackets commas n w = true →
      s.quoted = false → s.depth = base + n →
      Stays base s w ∧ (w.foldl step s).quoted = false ∧ (w.foldl step s).depth = base
  | [], n, s, closed, unquoted, depth => by
    simp only [closesBrackets, beq_iff_eq] at closed
    subst closed
    exact ⟨fun _ => by omega, unquoted, by simpa using depth⟩
  | c :: w, n, s, closed, unquoted, depth => by
    unfold closesBrackets at closed
    have here : s.quoted = false → base ≤ s.depth := fun _ => by omega
    by_cases quote : c = '"'
    · simp [quote] at closed
    by_cases opens : (c == '{' || c == '(' || c == '[' || c == '<') = true
    · rw [if_neg (by simpa using quote), if_pos opens] at closed
      obtain ⟨quoted', depth'⟩ := step_opening unquoted opens
      obtain ⟨rest, ended⟩ := stays_of_closesBrackets atOrBelow inside closed quoted'
        (by rw [depth', depth]; push_cast; ring)
      exact ⟨⟨here, fun ⟨comma, _⟩ => by simp [comma] at opens, rest⟩, ended⟩
    by_cases closes : (c == '}' || c == ')' || c == ']' || c == '>') = true
    · rw [if_neg (by simpa using quote), if_neg opens, if_pos closes, Bool.and_eq_true] at closed
      obtain ⟨open', closed⟩ := closed
      have positive : n ≠ 0 := by simpa using open'
      obtain ⟨quoted', depth'⟩ := step_closing unquoted closes
      obtain ⟨rest, ended⟩ := stays_of_closesBrackets atOrBelow inside closed quoted'
        (by rw [depth', depth]; omega)
      exact ⟨⟨here, fun ⟨comma, _⟩ => by simp [comma] at closes, rest⟩, ended⟩
    rw [if_neg (by simpa using quote), if_neg opens, if_neg closes] at closed
    by_cases comma : c = ','
    · -- a comma keeps the level; it cuts only at depth zero, which its own brackets or `base` rule out
      subst comma
      obtain ⟨quoted', depth'⟩ := step_comma_level (s := s)
      have uncut : ¬ s.TopLevel := by
        rintro ⟨-, top⟩
        by_cases outermost : n = 0
        · simp only [outermost, beq_self_eq_true, Bool.and_self, ite_true, Bool.and_eq_true] at closed
          have := inside closed.1
          omega
        · omega
      have closed' : closesBrackets commas n w = true := by
        by_cases outermost : n = 0
        · simp only [outermost, beq_self_eq_true, Bool.and_self, ite_true, Bool.and_eq_true] at closed
          exact outermost ▸ closed.2
        · simpa [outermost] using closed
      obtain ⟨rest, ended⟩ := stays_of_closesBrackets atOrBelow inside closed'
        (quoted'.trans unquoted) (depth'.trans depth)
      exact ⟨⟨here, fun ⟨_, top⟩ => uncut top, rest⟩, ended⟩
    · have plain : c ∉ marks := by
        simp only [marks, List.mem_cons, List.not_mem_nil, or_false]
        simp only [Bool.or_eq_true, beq_iff_eq, not_or] at opens closes
        tauto
      rw [if_neg (by simp [comma])] at closed
      obtain ⟨quoted', depth'⟩ := step_plain_level (s := s) plain
      obtain ⟨rest, ended⟩ := stays_of_closesBrackets atOrBelow inside closed
        (quoted'.trans unquoted) (depth'.trans depth)
      exact ⟨⟨here, fun ⟨same, _⟩ => comma same, rest⟩, ended⟩

open AttributeScan in
theorem passes_of_closesBrackets (commas : Bool) {w : List Char}
    (closed : closesBrackets commas 0 w = true) : Passes (if commas then 1 else 0) w := by
  intro s unquoted within
  have atOrBelow : 0 ≤ s.depth := by split at within <;> omega
  have inside : commas = true → 0 < s.depth := fun allowed => by simp [allowed] at within; omega
  exact stays_of_closesBrackets atOrBelow inside closed unquoted (by simp)

namespace TypeNode

mutual

/-- Whether the texts that the encoding of a type copies are ones the split passes over: quoted
names hold no quote, the name of an aggregate closes the brackets it opens, and an unknown text
moreover holds no comma outside its own brackets. -/
def splitSafe : TypeNode → Bool
  | .object className protocols =>
    (className.all fun n => !n.toList.contains '"') && protocols.all fun p => !p.toList.contains '"'
  | .block (some types) => splitSafeAll types
  | .pointer target => target.splitSafe
  | .array _ element => element.splitSafe
  | .aggregate _ name fields => (name.all fun n => closesBrackets true 0 n.toList) && splitSafeBody fields
  | .modified _ inner => inner.splitSafe
  | .unknown raw => closesBrackets false 0 raw.toList
  | .primitive _ | .block none | .functionPointer | .bitfield _ => true

def splitSafeAll : List TypeNode → Bool
  | [] => true
  | t :: ts => t.splitSafe && splitSafeAll ts

def splitSafeBody : Option (List (Option String × TypeNode)) → Bool
  | none => true
  | some fields => splitSafeFields fields

def splitSafeFields : List (Option String × TypeNode) → Bool
  | [] => true
  | (name, t) :: fs => (name.all fun n => !n.toList.contains '"') && t.splitSafe && splitSafeFields fs

end

end TypeNode

namespace AttributeScan

theorem not_mark_of_isDigit {c : Char} (digit : c.isDigit = true) : c ∉ marks := by
  intro mark
  simp only [marks, List.mem_cons, List.not_mem_nil, or_false] at mark
  rcases mark with rfl | rfl | rfl | rfl | rfl | rfl | rfl | rfl | rfl | rfl <;> simp at digit

theorem passes_digits {lowest : Int} (n : Nat) : Passes lowest (Nat.toDigits 10 n) :=
  passes_plain fun _ mem => not_mark_of_isDigit (Nat.isDigit_of_mem_toDigits (by decide) (by decide) mem)

theorem passes_char {lowest : Int} {c : Char} (plain : c ∉ marks) : Passes lowest [c] :=
  passes_plain fun _ mem => List.mem_singleton.1 mem ▸ plain

theorem passes_cons {lowest : Int} {c : Char} {w : List Char} (plain : c ∉ marks)
    (rest : Passes lowest w) : Passes lowest (c :: w) :=
  (passes_char plain).append rest

theorem objectText_noQuote {className : Option String} {protocols : List String}
    (named : className.all (fun n => !n.toList.contains '"') = true)
    (listed : protocols.all (fun p => !p.toList.contains '"') = true) :
    '"' ∉ TypeNode.objectText className protocols := by
  simp only [TypeNode.objectText, List.mem_append, List.mem_flatMap, not_or, not_exists, not_and]
  refine ⟨?_, fun p mem => ?_⟩
  · cases className with
    | none => simp
    | some n => simpa using named
  · simp only [List.all_eq_true, Bool.not_eq_true', List.contains_eq_mem, decide_eq_false_iff_not] at listed
    simpa using listed p mem

mutual

theorem passes_encode : ∀ t : TypeNode, t.splitSafe = true → Passes 0 t.encode
  | .primitive p, _ => by
    have plain : p.code ∉ marks := by cases p <;> decide
    exact passes_char plain
  | .object none [], _ => passes_char (by decide)
  | .object (some n) ps, safe => by
    simp only [TypeNode.splitSafe, Bool.and_eq_true] at safe
    exact passes_cons (by decide) (passes_quoted (objectText_noQuote safe.1 safe.2))
  | .object none (p :: ps), safe => by
    simp only [TypeNode.splitSafe, Bool.and_eq_true] at safe
    exact passes_cons (by decide) (passes_quoted (objectText_noQuote safe.1 safe.2))
  | .block none, _ => passes_cons (by decide) (passes_char (by decide))
  | .block (some types), safe => by
    simp only [TypeNode.splitSafe] at safe
    exact passes_cons (by decide) (passes_cons (by decide)
      (passes_bracket rfl rfl ((passes_encodeAll types safe).mono (by norm_num))))
  | .functionPointer, _ => passes_cons (by decide) (passes_char (by decide))
  | .pointer target, safe => passes_cons (by decide) (passes_encode target safe)
  | .array count element, safe => by
    -- the count and the element stand inside the brackets
    have inner : Passes 1 (Nat.toDigits 10 count ++ element.encode) :=
      ((passes_digits count).append (passes_encode element safe)).mono (by norm_num)
    simpa [TypeNode.encode] using passes_bracket rfl rfl inner
  | .aggregate kind name fields, safe => by
    simp only [TypeNode.splitSafe, Bool.and_eq_true] at safe
    -- the name and the body stand inside the aggregate's brackets, where the name may hold commas
    have named : Passes 1 (name.getD "?").toList := by
      cases name with
      | none => exact passes_char (by decide)
      | some n => exact passes_of_closesBrackets true (by simpa using safe.1)
    have inner := named.append ((passes_encodeBody fields safe.2).mono (by norm_num))
    have layout := passes_bracket (o := kind.opening) (c := kind.closing)
      (by cases kind <;> rfl) (by cases kind <;> rfl) inner
    simpa [TypeNode.encode] using layout
  | .bitfield width, _ => passes_cons (by decide) (passes_digits width)
  | .modified m inner, safe => by
    have plain : m.code ∉ marks := by cases m <;> decide
    exact passes_cons plain (passes_encode inner safe)
  | .unknown raw, safe => passes_of_closesBrackets false safe

theorem passes_encodeAll : ∀ ts : List TypeNode, TypeNode.splitSafeAll ts = true →
    Passes 0 (TypeNode.encodeAll ts)
  | [], _ => passes_plain (by simp [TypeNode.encodeAll])
  | t :: ts, safe => by
    simp only [TypeNode.splitSafeAll, Bool.and_eq_true] at safe
    exact (passes_encode t safe.1).append (passes_encodeAll ts safe.2)

theorem passes_encodeBody : ∀ fields : Option (List (Option String × TypeNode)),
    TypeNode.splitSafeBody fields = true → Passes 0 (TypeNode.encodeBody fields)
  | none, _ => passes_plain (by simp [TypeNode.encodeBody])
  | some fields, safe => passes_cons (by decide) (passes_encodeFields fields safe)

theorem passes_encodeFields : ∀ fields : List (Option String × TypeNode),
    TypeNode.splitSafeFields fields = true → Passes 0 (TypeNode.encodeFields fields)
  | [], _ => passes_plain (by simp [TypeNode.encodeFields])
  | (none, t) :: fs, safe => by
    simp only [TypeNode.splitSafeFields, Bool.and_eq_true] at safe
    exact (passes_encode t safe.1.2).append (passes_encodeFields fs safe.2)
  | (some n, t) :: fs, safe => by
    simp only [TypeNode.splitSafeFields, Bool.and_eq_true] at safe
    have quoted : Passes 0 ('"' :: n.toList ++ ['"']) :=
      passes_quoted (by simpa using safe.1.1)
    have layout : TypeNode.encodeFields ((some n, t) :: fs) =
        ('"' :: n.toList ++ ['"']) ++ (t.encode ++ TypeNode.encodeFields fs) := by
      simp [TypeNode.encodeFields]
    rw [layout]
    exact quoted.append ((passes_encode t safe.1.2).append (passes_encodeFields fs safe.2))

end

end AttributeScan

open AttributeScan in
theorem keepsWhole_of_splitSafe {t : TypeNode} (safe : t.splitSafe = true) :
    KeepsWhole ('T' :: t.encode) := by
  have passes := passes_cons (c := 'T') (by decide) (passes_encode t safe) {} rfl (le_refl _)
  obtain ⟨stays, quoted, depth⟩ := passes
  exact ⟨stays.uncut, quoted, by rw [depth]⟩

-- the struct named `a>,b` closes a bracket it never opened, and is not safe
example : cutStruct.splitSafe = false := by decide

/-- An attribute string made of the type attribute of a type that reads back and whose copied
texts are safe, then the declared flags, accessors and instance variable in any order, is read
back as that property, with the class flag as the caller says and no problem. -/
theorem parseProperty_reads_splitSafe_type (name raw : String) (isClass : Bool) (t : TypeNode)
    (f : PropertyFlags) (getter setter ivar : Option String) (attrs : List (List Char))
    (reads : decode t.encoding = .ok t) (safe : t.splitSafe = true)
    (getterPlain : ∀ g ∈ getter, PlainName g) (setterPlain : ∀ s ∈ setter, PlainName s)
    (ivarPlain : ∀ v ∈ ivar, PlainName v) (named : ivar ≠ some "")
    (order : attrs.Perm (declaredAttributes f getter setter ivar))
    (spelled : raw.toList = 'T' :: t.encode ++ attrs.flatMap (',' :: ·)) :
    parseProperty name raw isClass =
      (⟨name, t, raw, { f with classProperty := isClass }, getter, setter, ivar⟩, none) :=
  parseProperty_reads_attributes name raw isClass t f getter setter ivar attrs reads
    (keepsWhole_of_splitSafe safe) getterPlain setterPlain ivarPlain named order spelled

def pairStruct : TypeNode :=
  .aggregate .struct (some "pair<int, int>")
    (some [(none, .primitive .int), (none, .primitive .int)])

def pairAttributes : List (List Char) := ["V_origin", "R", "GoriginValue", "N"].map String.toList

def pairRaw : String :=
  String.ofList ('T' :: pairStruct.encode ++ pairAttributes.flatMap (',' :: ·))

open TypeEncoding in
theorem parseProperty_reads_pair_attributes :
    parseProperty "origin" pairRaw false =
      (⟨"origin", pairStruct, pairRaw, { readonly := true, nonatomic := true },
        some "originValue", none, some "_origin"⟩, none) :=
  parseProperty_reads_splitSafe_type "origin" pairRaw false pairStruct
    { readonly := true, nonatomic := true } (some "originValue") none (some "_origin")
    pairAttributes
    (by
      have read := parseType_encode Scope.top pairStruct [] (by decide)
      rw [List.append_nil, ← String.toList_ofList (l := pairStruct.encode)] at read
      exact decode_of_read read)
    (by decide)
    (by simp [PlainName, AttributeScan.marks]) (by simp) (by simp [PlainName, AttributeScan.marks])
    (by decide) (by decide) String.toList_ofList

end ObjcImage
