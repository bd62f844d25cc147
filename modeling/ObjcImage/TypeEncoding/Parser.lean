import ObjcImage.TypeEncoding.Basic
import ObjcImage.Text.Quoted

set_option autoImplicit false

/-!
Reading type encodings. Each step takes at least one character, and a type nested more than
`maxDepth` levels deep is refused, so reading ends on every input.
-/

namespace ObjcImage

inductive FaultKind where
  | eof | char | tooLarge | mapRes | digit
  deriving DecidableEq, Repr

def FaultKind.name : FaultKind → String
  | .eof => "Eof" | .char => "Char" | .tooLarge => "TooLarge" | .mapRes => "MapRes"
  | .digit => "Digit"

structure Fault where
  kind : FaultKind
  rest : List Char
  deriving DecidableEq, Repr

def Fault.describe (f : Fault) : String :=
  if f.rest.isEmpty then f.kind.name ++ " at end of input"
  else f.kind.name ++ " at " ++ Text.quote (String.ofList f.rest)

inductive EncodingProblem where
  | fault (f : Fault)
  | trailing (rest : List Char)
  | noTypes
  | untyped
  deriving DecidableEq, Repr

def EncodingProblem.describe : EncodingProblem → String
  | .fault f => f.describe
  | .trailing rest => "trailing input " ++ Text.quote (String.ofList rest)
  | .noTypes => "no types"
  | .untyped => "property has no type attribute"

structure MalformedEncoding where
  raw : String
  problem : EncodingProblem
  deriving DecidableEq, Repr

def MalformedEncoding.message (e : MalformedEncoding) : String :=
  "malformed type encoding " ++ Text.quote e.raw ++ ": " ++ e.problem.describe

namespace TypeEncoding

def maxDepth : Nat := 512

/-- Where a type is being read: how deep, and which closing bracket ends the aggregate whose named
fields are being read. That bracket tells `@"Name"` apart from an object followed by a field name. -/
structure Scope where
  close : Option Char
  depth : Nat

def Scope.top : Scope := ⟨none, 0⟩

def Scope.nested (s : Scope) (close : Option Char) : Scope := ⟨close, s.depth + 1⟩

abbrev Rest (input : List Char) := { r : List Char // r.length < input.length }

abbrev Remainder (input : List Char) := { r : List Char // r.length ≤ input.length }

def isDigit (c : Char) : Bool := '0' ≤ c && c ≤ '9'

def digitsValue (ds : List Char) : Nat :=
  ds.foldl (fun acc d => acc * 10 + (d.toNat - '0'.toNat)) 0

def skipFrameOffset (s : List Char) : List Char :=
  match s with
  | '+' :: r | '-' :: r => r.dropWhile isDigit
  | _ => s.dropWhile isDigit

theorem length_dropWhile_le (p : Char → Bool) (s : List Char) :
    (s.dropWhile p).length ≤ s.length :=
  (List.dropWhile_suffix p).length_le

theorem length_skipFrameOffset_le (s : List Char) : (skipFrameOffset s).length ≤ s.length := by
  unfold skipFrameOffset
  split
  · next r => have := length_dropWhile_le isDigit r; simp only [List.length_cons]; omega
  · next r => have := length_dropWhile_le isDigit r; simp only [List.length_cons]; omega
  · exact length_dropWhile_le isDigit s

/-- Protocol names from text of the form `<A><B>`: the name being read, reversed, then the rest.
A name that is never closed runs to the end; text after a `>` that opens no name is dropped. -/
def protocolNames (name : List Char) : List Char → List String
  | [] => [String.ofList name.reverse]
  | '>' :: r =>
    String.ofList name.reverse ::
      match r with
      | '<' :: r' => protocolNames [] r'
      | _ => []
  | c :: r => protocolNames (c :: name) r

def objectOfQuoted (text : List Char) : TypeNode :=
  let (className, tail) := text.span (· ≠ '<')
  let protocols := match tail with
    | '<' :: r => protocolNames [] r
    | _ => []
  .object (if className.isEmpty then none else some (String.ofList className)) protocols

def indexOf? (c : Char) (s : List Char) : Option Nat := s.findIdx? (· == c)

theorem length_drop_succ_lt {α : Type} (n : Nat) (c : α) (s : List α) :
    (s.drop n).length < (c :: s).length := by
  simp only [List.length_drop, List.length_cons]; omega

theorem length_lt_of_eq_cons {α : Type} {l s : List α} {c : α} (h : l = c :: s) :
    s.length < l.length := by
  subst h; exact Nat.lt_succ_self _

mutual

def parseType (scope : Scope) (input : List Char) : Except Fault (TypeNode × Rest input) :=
  if scope.depth > maxDepth then .error ⟨.tooLarge, input⟩ else
  match input with
  | [] => .error ⟨.eof, []⟩
  | c :: rest =>
    have _hlen : (c :: rest).length = rest.length + 1 := rfl
    match Modifier.ofCode? c with
    | some m => do
      let (inner, r) ← parseType (scope.nested scope.close) rest
      pure (.modified m inner, ⟨r.1, Nat.lt_succ_of_lt r.2⟩)
    | none =>
      match c with
      | '^' =>
        if rest.head? == some '?' then
          pure (.functionPointer, ⟨rest.drop 1, length_drop_succ_lt 1 c rest⟩)
        else do
          let (target, r) ← parseType (scope.nested scope.close) rest
          pure (.pointer target, ⟨r.1, Nat.lt_succ_of_lt r.2⟩)
      | '@' => do
        let (t, r) ← parseObject scope rest
        pure (t, ⟨r.1, Nat.lt_succ_of_le r.2⟩)
      | '[' => do
        let (t, r) ← parseArray scope rest
        pure (t, ⟨r.1, Nat.lt_succ_of_le r.2⟩)
      | '{' => do
        let (t, r) ← parseAggregate .struct scope rest
        pure (t, ⟨r.1, Nat.lt_succ_of_le r.2⟩)
      | '(' => do
        let (t, r) ← parseAggregate .union scope rest
        pure (t, ⟨r.1, Nat.lt_succ_of_le r.2⟩)
      | 'b' =>
        let digits := rest.takeWhile isDigit
        if digits.isEmpty then .error ⟨.digit, rest⟩
        else if digitsValue digits ≥ Nat.pow 2 32 then .error ⟨.mapRes, rest⟩
        else pure (.bitfield (digitsValue digits),
          ⟨rest.dropWhile isDigit, Nat.lt_succ_of_le (length_dropWhile_le isDigit rest)⟩)
      | ']' | '}' | ')' | '>' => .error ⟨.char, c :: rest⟩
      | c =>
        match Primitive.ofCode? c with
        | some p => pure (.primitive p, ⟨rest, Nat.lt_succ_self _⟩)
        | none => pure (.unknown (String.singleton c), ⟨rest, Nat.lt_succ_self _⟩)
termination_by 2 * input.length
decreasing_by all_goals omega

def parseObject (scope : Scope) (input : List Char) : Except Fault (TypeNode × Remainder input) :=
  match input with
  | '?' :: '<' :: sig => do
    have _hlen : ('?' :: '<' :: sig).length = sig.length + 2 := rfl
    let (types, r) ← parseSignature (scope.nested none) sig
    pure (.block (some types), ⟨r.1, Nat.le_succ_of_le (Nat.le_succ_of_le r.2)⟩)
  | '?' :: r => pure (.block none, ⟨r, Nat.le_succ _⟩)
  | '"' :: quoted =>
    match indexOf? '"' quoted with
    | some stop =>
      let after := quoted.drop (stop + 1)
      let isClassName := match scope.close with
        | none => true
        | some close => after.head? == some '"' || after.head? == some close
      if isClassName then
        pure (objectOfQuoted (quoted.take stop),
          ⟨after, Nat.le_of_lt (length_drop_succ_lt (stop + 1) '"' quoted)⟩)
      else pure (TypeNode.id, ⟨'"' :: quoted, Nat.le_refl _⟩)
    | none =>
      if scope.close.isNone then .error ⟨.char, '"' :: quoted⟩
      else pure (TypeNode.id, ⟨'"' :: quoted, Nat.le_refl _⟩)
  | other => pure (TypeNode.id, ⟨other, Nat.le_refl _⟩)
termination_by 2 * input.length + 1
decreasing_by omega

def parseSignature (scope : Scope) (input : List Char) :
    Except Fault (List TypeNode × Remainder input) :=
  match input with
  | '>' :: r => pure ([], ⟨r, Nat.le_succ _⟩)
  | other => do
    let (t, r) ← parseType scope other
    have hnext : (skipFrameOffset r.1).length < other.length :=
      Nat.lt_of_le_of_lt (length_skipFrameOffset_le r.1) r.2
    let (ts, r') ← parseSignature scope (skipFrameOffset r.1)
    pure (t :: ts, ⟨r'.1, Nat.le_of_lt (Nat.lt_of_le_of_lt r'.2 hnext)⟩)
termination_by 2 * input.length + 1
decreasing_by all_goals omega

def parseArray (scope : Scope) (input : List Char) : Except Fault (TypeNode × Remainder input) :=
  let digits := input.takeWhile isDigit
  have hdigits : (input.dropWhile isDigit).length ≤ input.length := length_dropWhile_le isDigit input
  if digitsValue digits ≥ Nat.pow 2 64 then .error ⟨.tooLarge, input⟩ else do
    let (element, r) ← parseType (scope.nested none) (input.dropWhile isDigit)
    match hr : r.1 with
    | ']' :: r' =>
      pure (.array (digitsValue digits) element,
        ⟨r', Nat.le_of_lt (Nat.lt_trans (length_lt_of_eq_cons hr) (Nat.lt_of_lt_of_le r.2 hdigits))⟩)
    | _ => .error ⟨.char, r.1⟩
termination_by 2 * input.length + 1
decreasing_by omega

def parseAggregate (kind : AggregateKind) (scope : Scope) (input : List Char) :
    Except Fault (TypeNode × Remainder input) :=
  let name := input.takeWhile (fun c => c != '=' && c != kind.closing)
  let label := if name.isEmpty || name == ['?'] then none else some (String.ofList name)
  have hname := length_dropWhile_le (fun c => c != '=' && c != kind.closing) input
  match h : input.dropWhile (fun c => c != '=' && c != kind.closing) with
  | c :: r =>
    if c == kind.closing then
      pure (.aggregate kind label none,
        ⟨r, Nat.le_of_lt (Nat.lt_of_lt_of_le (length_lt_of_eq_cons h) hname)⟩)
    else if c == '=' then
      let named := r.head? == some '"'
      let fieldScope := scope.nested (if named then some kind.closing else none)
      have hr : r.length < input.length := Nat.lt_of_lt_of_le (length_lt_of_eq_cons h) hname
      do
        let (fields, r') ← parseFields kind.closing fieldScope r
        pure (.aggregate kind label (some fields), ⟨r'.1, Nat.le_trans r'.2 (Nat.le_of_lt hr)⟩)
    else .error ⟨.char, c :: r⟩
  | [] => .error ⟨.char, []⟩
termination_by 2 * input.length + 1
decreasing_by omega

def parseFields (close : Char) (scope : Scope) (input : List Char) :
    Except Fault (List (Option String × TypeNode) × Remainder input) :=
  match input with
  | [] => do
    let (_t, r) ← parseType scope []
    have : r.1.length < 0 := r.2
    absurd this (Nat.not_lt_zero _)
  | c :: rest =>
    if c == close then pure ([], ⟨rest, Nat.le_succ _⟩)
    else if c == '"' then
      match indexOf? '"' rest with
      | none => .error ⟨.char, c :: rest⟩
      | some stop => do
        have hafter : (rest.drop (stop + 1)).length < (c :: rest).length :=
          length_drop_succ_lt _ c rest
        let (t, r) ← parseType scope (rest.drop (stop + 1))
        have hr : r.1.length < (c :: rest).length := Nat.lt_trans r.2 hafter
        let (fs, r') ← parseFields close scope r.1
        pure ((some (String.ofList (rest.take stop)), t) :: fs,
          ⟨r'.1, Nat.le_of_lt (Nat.lt_of_le_of_lt r'.2 hr)⟩)
    else do
      let (t, r) ← parseType scope (c :: rest)
      have hr : r.1.length < (c :: rest).length := r.2
      let (fs, r') ← parseFields close scope r.1
      pure ((none, t) :: fs, ⟨r'.1, Nat.le_of_lt (Nat.lt_of_le_of_lt r'.2 hr)⟩)
termination_by 2 * input.length + 1
decreasing_by all_goals omega

end

def parseMethodTypes (input : List Char) : Except Fault (List TypeNode) :=
  match input with
  | [] => pure []
  | c :: cs => do
    let (t, r) ← parseType Scope.top (c :: cs)
    have _shorter : (skipFrameOffset r.1).length < (c :: cs).length :=
      Nat.lt_of_le_of_lt (length_skipFrameOffset_le r.1) r.2
    let ts ← parseMethodTypes (skipFrameOffset r.1)
    pure (t :: ts)
termination_by input.length
decreasing_by omega

end TypeEncoding

open TypeEncoding in
def decode (encoding : String) : Except MalformedEncoding TypeNode :=
  match parseType Scope.top encoding.toList with
  | .ok (t, r) =>
    if r.1.isEmpty then .ok t else .error ⟨encoding, .trailing r.1⟩
  | .error f => .error ⟨encoding, .fault f⟩

open TypeEncoding in
/-- Reads a method signature: the return type, then every argument, `self` and `_cmd` included. -/
def decodeMethod (encoding : String) : Except MalformedEncoding (List TypeNode) :=
  match parseMethodTypes (skipFrameOffset encoding.toList) with
  | .ok [] => .error ⟨encoding, .noTypes⟩
  | .ok ts => .ok ts
  | .error f => .error ⟨encoding, .fault f⟩

end ObjcImage
