import ObjcImage.Text.Pattern.Basic
import ObjcImage.Text.Utf8

set_option autoImplicit false

/-!
Combining patterns in their normal form, and what can be known of a pattern without a text.
Lengths are counted in bytes of UTF-8.
-/

namespace ObjcImage

open Text

namespace Pattern

/-- The bound 2^64 on lengths: a shortest length is cut to one below it, and a longest length that
reaches it is counted as unknown. -/
def lengthLimit : Nat := 18446744073709551616

def utf8Size (c : Nat) : Nat :=
  if c < 0x80 then 1 else if c < 0x800 then 2 else if c < 0x10000 then 3 else 4

def CharSet.characters (s : CharSet) : CharSet := s.diff (CharSet.interval 0xD800 0xDFFF)

def never : Pattern := .chars CharSet.empty

def ofClass (s : CharSet) : Pattern :=
  let set := CharSet.characters s
  match set.ranges with
  | [(lo, hi)] => if lo == hi then .literal [Char.ofNat lo] else .chars set
  | _ => .chars set

def ofLiteral (cs : List Char) : Pattern := if cs.isEmpty then .empty else .literal cs

mutual

def minLength : Pattern → Option Nat
  | .empty => some 0
  | .literal cs => some (cs.foldl (fun n c => n + utf8Size c.toNat) 0)
  | .chars s => s.ranges.head?.map fun r => utf8Size r.1
  | .assert _ => some 0
  | .repetition least _ _ p => (minLength p).map fun m => min (m * least) (lengthLimit - 1)
  | .capture _ _ p => minLength p
  | .concat ps => minLengthSum ps
  | .alternation ps => minLengthLeast ps

def minLengthSum : List Pattern → Option Nat
  | [] => some 0
  | p :: ps =>
    match minLength p, minLengthSum ps with
    | some a, some b => some (min (a + b) (lengthLimit - 1))
    | _, _ => none

def minLengthLeast : List Pattern → Option Nat
  | [] => none
  | [p] => minLength p
  | p :: ps =>
    match minLength p, minLengthLeast ps with
    | some a, some b => some (min a b)
    | _, _ => none

end

mutual

def maxLength : Pattern → Option Nat
  | .empty => some 0
  | .literal cs => some (cs.foldl (fun n c => n + utf8Size c.toNat) 0)
  | .chars s => s.ranges.getLast?.map fun r => utf8Size r.2
  | .assert _ => some 0
  | .repetition _ most _ p =>
    match most, maxLength p with
    | some n, some m => if m * n < lengthLimit then some (m * n) else none
    | _, _ => none
  | .capture _ _ p => maxLength p
  | .concat ps => maxLengthSum ps
  | .alternation ps => maxLengthGreatest ps

def maxLengthSum : List Pattern → Option Nat
  | [] => some 0
  | p :: ps =>
    match maxLength p, maxLengthSum ps with
    | some a, some b => if a + b < lengthLimit then some (a + b) else none
    | _, _ => none

def maxLengthGreatest : List Pattern → Option Nat
  | [] => none
  | [p] => maxLength p
  | p :: ps =>
    match maxLength p, maxLengthGreatest ps with
    | some a, some b => some (max a b)
    | _, _ => none

end

/-- Whether a pattern can match only the empty string, or cannot be known to match more. -/
def matchesOnlyEmpty (p : Pattern) : Bool := p.maxLength == some 0

mutual

def anchoredStart : Pattern → Bool
  | .assert a => a == .textStart
  | .repetition least _ _ p => least > 0 && anchoredStart p
  | .capture _ _ p => anchoredStart p
  | .concat ps => anchoredStartSeq ps
  | .alternation ps => anchoredStartAll ps
  | _ => false

/-- Whether a sequence is anchored at the start by one of its parts before the first that can
match more than the empty string, that part included. -/
def anchoredStartSeq : List Pattern → Bool
  | [] => false
  | p :: ps => anchoredStart p || (p.maxLength == some 0 && anchoredStartSeq ps)

def anchoredStartAll : List Pattern → Bool
  | [] => true
  | p :: ps => anchoredStart p && anchoredStartAll ps

end

def allEmptyWidth (ps : List Pattern) : Bool := ps.all fun p => p.maxLength == some 0

mutual

def anchoredEnd : Pattern → Bool
  | .assert a => a == .textEnd
  | .repetition least _ _ p => least > 0 && anchoredEnd p
  | .capture _ _ p => anchoredEnd p
  | .concat ps => anchoredEndSeq ps
  | .alternation ps => anchoredEndAll ps
  | _ => false

def anchoredEndSeq : List Pattern → Bool
  | [] => false
  | p :: ps => anchoredEndSeq ps || (anchoredEnd p && allEmptyWidth ps)

def anchoredEndAll : List Pattern → Bool
  | [] => true
  | p :: ps => anchoredEnd p && anchoredEndAll ps

end

/-! ### Sequences -/

def flushLiteral (pending : List Char) (acc : List Pattern) : List Pattern :=
  if pending.isEmpty then acc else .literal pending :: acc

def addPart (state : List Pattern × List Char) (p : Pattern) : List Pattern × List Char :=
  match p with
  | .literal cs => (state.1, state.2 ++ cs)
  | other => (other :: flushLiteral state.2 state.1, [])

def seq (ps : List Pattern) : Pattern :=
  let parts := ps.flatMap fun p =>
    match p with
    | .empty => []
    | .concat qs => qs
    | other => [other]
  let (acc, pending) := parts.foldl addPart ([], [])
  match (flushLiteral pending acc).reverse with
  | [] => .empty
  | [p] => p
  | qs => .concat qs

/-! ### Alternations -/

def singleChars : List Pattern → Option (List Char)
  | [] => some []
  | .literal [c] :: more => (singleChars more).map (c :: ·)
  | _ => none

def classUnion : List Pattern → Option CharSet
  | [] => some CharSet.empty
  | .chars s :: more => (classUnion more).map (CharSet.union s)
  | _ => none

def sequences : List Pattern → Option (List (List Pattern))
  | [] => some []
  | .concat qs :: more => (sequences more).map (qs :: ·)
  | _ => none

def commonPrefix : List (List Pattern) → List Pattern
  | [] => []
  | first :: more =>
    more.foldl (fun pre qs => (pre.zip qs).takeWhile (fun (a, b) => a == b) |>.map (·.1)) first

def branchesOf (ps : List Pattern) : List Pattern :=
  ps.flatMap fun p =>
    match p with
    | .alternation qs => qs
    | other => [other]

/-- Any one of the patterns, moving a common first part out at most `fuel` times. Each move takes
at least one part off every branch, so the parts of the longest branch are enough fuel. -/
def altWith : Nat → List Pattern → Pattern
  | fuel, ps =>
    let flat := branchesOf ps
    match flat with
    | [] => never
    | [p] => p
    | _ =>
      match singleChars flat with
      | some cs => ofClass (CharSet.ofRanges (cs.map fun c => (c.toNat, c.toNat)))
      | none =>
        match classUnion flat with
        | some s => ofClass s
        | none =>
          match fuel, sequences flat with
          | fuel + 1, some seqs =>
            let pre := commonPrefix seqs
            if pre.isEmpty then .alternation flat
            else seq (pre ++ [altWith fuel (seqs.map fun qs => seq (qs.drop pre.length))])
          | _, _ => .alternation flat

def partCount : Pattern → Nat
  | .concat qs => qs.length
  | _ => 1

def alt (ps : List Pattern) : Pattern :=
  altWith ((branchesOf ps).foldl (fun n p => max n (partCount p)) 0) ps

/-! ### Repetitions -/

def rep (least : Nat) (most : Option Nat) (greedy : Bool) (p : Pattern) : Pattern :=
  let (least, most) :=
    if p.maxLength == some 0 then (min least 1, some ((most.getD 1).min 1)) else (least, most)
  if least == 0 && most == some 0 then .empty
  else if least == 1 && most == some 1 then p
  else .repetition least most greedy p

end Pattern

end ObjcImage
