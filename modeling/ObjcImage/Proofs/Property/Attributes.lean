import Mathlib
import ObjcImage.Runtime.Property
import ObjcImage.Proofs.TypeEncoding.RoundTrip

set_option autoImplicit false

/-!
Reading back the attribute string of a property. The split counts quotes and brackets and does not
read the type grammar, so a name such as `a>,b` closes a bracket early and is cut at its comma.
-/

namespace ObjcImage

/-! ### The split -/

namespace AttributeScan

/-- The scan is at the top level outside quotes and with no bracket open: a comma there ends an
attribute. -/
def TopLevel (s : AttributeScan) : Prop := s.quoted = false ∧ s.depth ≤ 0

instance (s : AttributeScan) : Decidable s.TopLevel := inferInstanceAs (Decidable (_ ∧ _))

def items (s : AttributeScan) : List (List Char) := (s.current.reverse :: s.done).reverse

def marks : List Char := [',', '"', '{', '(', '[', '<', '}', ')', ']', '>']

theorem step_of_not_split {s : AttributeScan} {c : Char} (stays : ¬ (c = ',' ∧ s.TopLevel)) :
    (s.step c).current = c :: s.current ∧ (s.step c).done = s.done := by
  unfold step
  split_ifs with quote opens closes comma
  all_goals try exact ⟨rfl, rfl⟩
  simp only [Bool.and_eq_true, beq_iff_eq, Bool.not_eq_true', decide_eq_true_eq] at comma
  exact absurd ⟨comma.1.1, comma.1.2, comma.2⟩ stays

theorem step_comma {s : AttributeScan} (top : s.TopLevel) :
    s.step ',' = { s with current := [], done := s.current.reverse :: s.done } := by
  obtain ⟨unquoted, shallow⟩ := top
  simp [step, unquoted, shallow]

theorem step_plain {s : AttributeScan} {c : Char} (plain : c ∉ marks) :
    s.step c = { s with current := c :: s.current } := by
  simp only [marks, List.mem_cons, List.not_mem_nil, or_false, not_or] at plain
  obtain ⟨comma, quote, o1, o2, o3, o4, c1, c2, c3, c4⟩ := plain
  simp [step, comma, quote, o1, o2, o3, o4, c1, c2, c3, c4]

theorem foldl_step_whole {s : AttributeScan} {text : List Char}
    (whole : ∀ i < text.length, text[i]? = some ',' → ¬ ((text.take i).foldl step s).TopLevel) :
    (text.foldl step s).current = text.reverse ++ s.current ∧
      (text.foldl step s).done = s.done := by
  induction text generalizing s with
  | nil => exact ⟨rfl, rfl⟩
  | cons c rest ih =>
    have first : ¬ (c = ',' ∧ s.TopLevel) := fun ⟨comma, top⟩ =>
      whole 0 (by simp) (by simp [comma]) (by simpa using top)
    -- the text after `c` is scanned from the state that `c` leaves
    have later := @ih (s.step c) fun i below found =>
      whole (i + 1) (by simp [below]) (by simpa using found)
    obtain ⟨joined, same⟩ := step_of_not_split first
    rw [List.foldl_cons, later.1, later.2, joined, same]
    simp

theorem foldl_step_plain {s : AttributeScan} {text : List Char} (plain : ∀ c ∈ text, c ∉ marks) :
    text.foldl step s = { s with current := text.reverse ++ s.current } := by
  induction text generalizing s with
  | nil => rfl
  | cons c rest ih =>
    rw [List.foldl_cons, step_plain (plain c (by simp)), ih fun d mem => plain d (by simp [mem])]
    simp

theorem items_foldl_attributes {s : AttributeScan} (top : s.TopLevel) :
    ∀ {attrs : List (List Char)}, (∀ a ∈ attrs, ∀ c ∈ a, c ∉ marks) →
      ((attrs.flatMap (',' :: ·)).foldl step s).items = s.items ++ attrs
  | [], _ => by simp
  | a :: rest, plain => by
    have read : (',' :: a).foldl step s =
        { s with current := a.reverse, done := s.current.reverse :: s.done } := by
      rw [List.foldl_cons, step_comma top, foldl_step_plain (plain a (by simp))]
      simp
    have top' : ((',' :: a).foldl step s).TopLevel := by rw [read]; exact top
    have plainRest : ∀ b ∈ rest, ∀ c ∈ b, c ∉ marks := fun b mem =>
      plain b (List.mem_cons_of_mem a mem)
    have more := items_foldl_attributes top' plainRest
    rw [List.flatMap_cons, List.foldl_append, more, read]
    simp [items]

end AttributeScan

open AttributeScan in
/-- The split keeps `text`, the start of an attribute string, in one piece and ends it there: no
comma of it comes at the top level, and after it the scan is back at the top level. -/
def KeepsWhole (text : List Char) : Prop :=
  (∀ i < text.length, text[i]? = some ',' → ¬ ((text.take i).foldl step {}).TopLevel) ∧
    (text.foldl step {}).TopLevel

instance (text : List Char) : Decidable (KeepsWhole text) := inferInstanceAs (Decidable (_ ∧ _))

theorem splitAttributes_keepsWhole {text : List Char} (whole : KeepsWhole text)
    {attrs : List (List Char)} (plain : ∀ a ∈ attrs, ∀ c ∈ a, c ∉ AttributeScan.marks) :
    splitAttributes (text ++ attrs.flatMap (',' :: ·)) = text :: attrs := by
  obtain ⟨inside, after⟩ := whole
  obtain ⟨current, done⟩ := AttributeScan.foldl_step_whole inside
  have first : (text.foldl AttributeScan.step {}).items = [text] := by
    simp [AttributeScan.items, current, done]
  have split := AttributeScan.items_foldl_attributes after plain
  rw [first] at split
  rw [splitAttributes, List.foldl_append]
  exact split

/-! ### Reading the attributes -/

def PropertyFlags.attributes (f : PropertyFlags) : List (List Char) :=
  [(f.readonly, 'R'), (f.nonatomic, 'N'), (f.copy, 'C'), (f.retain, '&'), (f.weak, 'W'),
    (f.dynamic, 'D')].filterMap fun (set, code) => if set then some [code] else none

def declaredAttributes (f : PropertyFlags) (getter setter ivar : Option String) :
    List (List Char) :=
  f.attributes ++ (getter.map ('G' :: ·.toList)).toList ++ (setter.map ('S' :: ·.toList)).toList ++
    (ivar.map ('V' :: ·.toList)).toList

def PlainName (n : String) : Prop := ∀ c ∈ n.toList, c ∉ AttributeScan.marks

instance (n : String) : Decidable (PlainName n) := inferInstanceAs (Decidable (∀ c ∈ _, _))

namespace PropertyAttributes

def codes : List Char := ['T', 'R', 'N', 'C', '&', 'W', 'D', 'G', 'S', 'V']

theorem add_of_not_mem {c : Char} (other : c ∉ codes) (a : PropertyAttributes)
    (value : List Char) : a.add (c :: value) = a := by
  simp only [codes, List.mem_cons, List.not_mem_nil, or_false, not_or] at other
  obtain ⟨t, r, n, c', rt, w, d, g, s, v⟩ := other
  exact add.eq_12 a c value t r n c' rt w d g s v

theorem add_add_comm (a : PropertyAttributes) {x y : List Char} (differ : x.head? ≠ y.head?) :
    (a.add x).add y = (a.add y).add x := by
  match x, y, differ with
  | [], _, _ => rfl
  | _ :: _, [], _ => rfl
  | c :: v, d :: w, differ =>
    simp only [List.head?_cons, ne_eq, Option.some.injEq] at differ
    by_cases known : c ∈ codes
    · by_cases known' : d ∈ codes
      · -- both kinds are read: one case for each pair of kinds, where both orders compute the
        -- same record, the pairs of one kind twice aside
        simp only [codes, List.mem_cons, List.not_mem_nil, or_false] at known known'
        rcases known with rfl | rfl | rfl | rfl | rfl | rfl | rfl | rfl | rfl | rfl <;>
          rcases known' with rfl | rfl | rfl | rfl | rfl | rfl | rfl | rfl | rfl | rfl <;>
          first | exact absurd rfl differ | rfl
      · rw [add_of_not_mem known', add_of_not_mem known']
    · rw [add_of_not_mem known, add_of_not_mem known]

theorem foldl_add_flags (type : Option String) (f : PropertyFlags) :
    f.attributes.foldl add { type, flags := { classProperty := f.classProperty } } =
      { type, flags := f } := by
  obtain ⟨r, n, c, rt, w, d, cl⟩ := f
  cases r <;> cases n <;> cases c <;> cases rt <;> cases w <;> cases d <;> rfl

theorem foldl_add_declared (type : Option String) (f : PropertyFlags)
    (getter setter ivar : Option String) :
    (declaredAttributes f getter setter ivar).foldl add
        { type, flags := { classProperty := f.classProperty } } =
      { type, flags := f, getter, setter, ivar } := by
  rw [declaredAttributes, List.foldl_append, List.foldl_append, List.foldl_append,
    foldl_add_flags]
  cases getter <;> cases setter <;> cases ivar <;> simp [add]

end PropertyAttributes

theorem mem_declaredAttributes {f : PropertyFlags} {getter setter ivar : Option String}
    {x : List Char} (mem : x ∈ declaredAttributes f getter setter ivar) :
    (∃ c ∈ ['R', 'N', 'C', '&', 'W', 'D'], x = [c]) ∨ (∃ g ∈ getter, x = 'G' :: g.toList) ∨
      (∃ s ∈ setter, x = 'S' :: s.toList) ∨ ∃ v ∈ ivar, x = 'V' :: v.toList := by
  simp only [declaredAttributes, List.mem_append, Option.mem_toList, Option.map_eq_some_iff]
    at mem
  rcases mem with ((flag | ⟨g, named, rfl⟩) | ⟨s, named, rfl⟩) | ⟨v, named, rfl⟩
  · obtain ⟨⟨set, code⟩, listed, made⟩ := List.mem_filterMap.1 flag
    refine .inl ⟨code, ?_, ?_⟩
    · simpa using List.mem_map_of_mem (f := Prod.snd) listed
    · simp only [Option.ite_none_right_eq_some, Option.some.injEq] at made
      exact made.2.symm
  · exact .inr (.inl ⟨g, named, rfl⟩)
  · exact .inr (.inr (.inl ⟨s, named, rfl⟩))
  · exact .inr (.inr (.inr ⟨v, named, rfl⟩))

theorem declaredAttributes_plain {f : PropertyFlags} {getter setter ivar : Option String}
    (getterPlain : ∀ g ∈ getter, PlainName g) (setterPlain : ∀ s ∈ setter, PlainName s)
    (ivarPlain : ∀ v ∈ ivar, PlainName v) :
    ∀ x ∈ declaredAttributes f getter setter ivar, ∀ c ∈ x, c ∉ AttributeScan.marks := by
  intro x mem c inside
  have codes : ∀ d ∈ ['R', 'N', 'C', '&', 'W', 'D', 'G', 'S', 'V'], d ∉ AttributeScan.marks := by
    simp [AttributeScan.marks]
  rcases mem_declaredAttributes mem with ⟨code, flag, rfl⟩ | ⟨g, named, rfl⟩ | ⟨s, named, rfl⟩ |
      ⟨v, named, rfl⟩
  · rw [List.mem_singleton.1 inside]
    exact codes code (List.mem_append_left _ flag)
  · rcases List.mem_cons.1 inside with rfl | inName
    exacts [codes _ (by simp), getterPlain g named c inName]
  · rcases List.mem_cons.1 inside with rfl | inName
    exacts [codes _ (by simp), setterPlain s named c inName]
  · rcases List.mem_cons.1 inside with rfl | inName
    exacts [codes _ (by simp), ivarPlain v named c inName]

theorem declaredAttributes_head_inj {f : PropertyFlags} {getter setter ivar : Option String}
    {x y : List Char} (mx : x ∈ declaredAttributes f getter setter ivar)
    (my : y ∈ declaredAttributes f getter setter ivar) (same : x.head? = y.head?) : x = y := by
  rcases mem_declaredAttributes mx with ⟨c, flag, rfl⟩ | ⟨g, named, rfl⟩ | ⟨s, named, rfl⟩ |
      ⟨v, named, rfl⟩ <;>
    rcases mem_declaredAttributes my with ⟨c', flag', rfl⟩ | ⟨g', named', rfl⟩ |
      ⟨s', named', rfl⟩ | ⟨v', named', rfl⟩ <;>
    simp only [List.head?_cons, Option.some.injEq] at same <;> subst_vars <;> simp_all

/-! ### Reading a property back -/

theorem parseProperty_reads_attributes (name raw : String) (isClass : Bool) (t : TypeNode)
    (f : PropertyFlags) (getter setter ivar : Option String) (attrs : List (List Char))
    (reads : decode t.encoding = .ok t) (whole : KeepsWhole ('T' :: t.encode))
    (getterPlain : ∀ g ∈ getter, PlainName g) (setterPlain : ∀ s ∈ setter, PlainName s)
    (ivarPlain : ∀ v ∈ ivar, PlainName v) (named : ivar ≠ some "")
    (order : attrs.Perm (declaredAttributes f getter setter ivar))
    (spelled : raw.toList = 'T' :: t.encode ++ attrs.flatMap (',' :: ·)) :
    parseProperty name raw isClass =
      (⟨name, t, raw, { f with classProperty := isClass }, getter, setter, ivar⟩, none) := by
  have plain := declaredAttributes_plain (f := f) getterPlain setterPlain ivarPlain
  have split : splitAttributes raw.toList = ('T' :: t.encode) :: attrs := by
    rw [spelled]
    exact splitAttributes_keepsWhole whole fun a mem => plain a (order.subset mem)
  -- the attributes after the type are all of different kinds, so their order does not matter
  have swap : ∀ x ∈ attrs, ∀ y ∈ attrs, ∀ z : PropertyAttributes,
      (z.add x).add y = (z.add y).add x := by
    intro x mx y my z
    by_cases same : x = y
    · rw [same]
    · exact z.add_add_comm fun heads =>
        same (declaredAttributes_head_inj (order.subset mx) (order.subset my) heads)
  have read : (('T' :: t.encode) :: attrs).foldl PropertyAttributes.add
        { flags := { classProperty := isClass } } =
      { type := some t.encoding, flags := { f with classProperty := isClass }, getter, setter,
        ivar } := by
    rw [List.foldl_cons, order.foldl_eq' swap]
    exact PropertyAttributes.foldl_add_declared (some t.encoding)
      { f with classProperty := isClass } getter setter ivar
  simp only [parseProperty, split, read, reads, String.isEmpty_iff]
  -- an instance variable that is named is kept
  cases ivar with
  | none => rfl
  | some v =>
    have nonempty : v ≠ "" := fun empty => named (congrArg some empty)
    simp [nonempty]

/-! ### Where the split cuts a type -/

namespace TypeEncoding

theorem parseAggregate_unclosed {kind : AggregateKind} {scope : Scope} {input : List Char}
    (unclosed : ∀ c ∈ input, c ≠ '=' ∧ c ≠ kind.closing) :
    parseAggregate kind scope input = .error ⟨.char, []⟩ := by
  have gone : input.dropWhile (fun c => c != '=' && c != kind.closing) = [] :=
    List.dropWhile_eq_nil_iff.2 fun c mem => by simpa using unclosed c mem
  rw [parseAggregate]
  split
  · next stopped => simp [gone] at stopped
  · rfl

theorem parseType_aggregate_error {scope : Scope} {rest : List Char} {fault : Fault}
    (hd : scope.depth ≤ maxDepth) (kind : AggregateKind)
    (failed : parseAggregate kind scope rest = .error fault) :
    parseType scope (kind.opening :: rest) = .error fault := by
  rw [parseType]
  cases kind <;>
    simp [AggregateKind.opening, Nat.not_lt.2 hd, Modifier.ofCode?, Modifier.all, Modifier.code,
      failed, bind, Except.bind]

end TypeEncoding

/-- The struct named `a>,b` with one `int` field, encoded `{a>,b=i}`. Its name closes a bracket
it never opened. -/
def cutStruct : TypeNode := .aggregate .struct (some "a>,b") (some [(none, .primitive .int)])

open TypeEncoding in
/-- The struct named `a>,b` reads back from its encoding, but the split cuts its type attribute at
the comma of its name: the type is kept as the unknown `{a>`, with the problem beside it, and
`b=i}` is read as an attribute of no known kind. -/
theorem parseProperty_cuts_unbalanced_name :
    decode cutStruct.encoding = .ok cutStruct ∧
      parseProperty "p" ("T" ++ cutStruct.encoding ++ ",R") false =
        (⟨"p", .unknown "\x7ba>", "T" ++ cutStruct.encoding ++ ",R", { readonly := true }, none,
          none, none⟩, some ⟨"\x7ba>", .fault ⟨.char, []⟩⟩) := by
  constructor
  · have read := parseType_encode Scope.top cutStruct [] (by decide)
    rw [List.append_nil, ← String.toList_ofList (l := cutStruct.encode)] at read
    exact decode_of_read read
  · have split : splitAttributes ("T" ++ cutStruct.encoding ++ ",R").toList =
        [['T', '\x7b', 'a', '>'], ['b', '=', 'i', '\x7d'], ['R']] := by
      decide
    have cut : decode "\x7ba>" = .error ⟨"\x7ba>", .fault ⟨.char, []⟩⟩ := by
      have unclosed : parseAggregate .struct Scope.top ['a', '>'] = .error ⟨.char, []⟩ :=
        parseAggregate_unclosed (by simp [AggregateKind.closing])
      have failed : parseType Scope.top ['\x7b', 'a', '>'] = .error ⟨.char, []⟩ :=
        parseType_aggregate_error (by decide) .struct unclosed
      simp [decode, failed]
    simp only [parseProperty, split]
    simp [PropertyAttributes.add, cut]

end ObjcImage
