import ObjcImage.Text.Pattern.CharClass

set_option autoImplicit false

/-!
Matching a pattern somewhere in a name, by the sorted set of positions where a match can end.
-/

namespace ObjcImage

open Text

def Assertion.holds (text : Array Char) (pos : Nat) : Assertion → Bool
  | .textStart => pos == 0
  | .textEnd => pos == text.size
  | .lineStart false => pos == 0 || text[pos - 1]? == some '\n'
  | .lineEnd false => pos == text.size || text[pos]? == some '\n'
  | .lineStart true =>
    pos == 0 || text[pos - 1]? == some '\n' || (text[pos - 1]? == some '\r' && text[pos]? != some '\n')
  | .lineEnd true =>
    pos == text.size || text[pos]? == some '\r' ||
      (text[pos]? == some '\n' && (pos == 0 || text[pos - 1]? != some '\r'))
  | .word test unicode =>
    let before := pos != 0 && (text[pos - 1]?.map (CharClass.isWordChar unicode)).getD false
    let after := (text[pos]?.map (CharClass.isWordChar unicode)).getD false
    match test with
    | .boundary => before != after
    | .notBoundary => before == after
    | .start => !before && after
    | .finish => before && !after
    | .startHalf => !before
    | .finishHalf => !after

namespace Pattern

def normalize (ps : List Nat) : List Nat := (ps.mergeSort fun a b => a ≤ b).eraseDups

def advance (step : Nat → List Nat) (ps : List Nat) : List Nat := normalize (ps.flatMap step)

/-- The positions reached after `n` more rounds, stopping early when none is left or a round
changes nothing, since every later round would then give the same. -/
def exactRounds (step : Nat → List Nat) : Nat → List Nat → List Nat
  | 0, ps => ps
  | n + 1, ps =>
    if ps.isEmpty then ps
    else
      let next := advance step ps
      if next == ps then ps else exactRounds step n next

def optionalRounds (step : Nat → List Nat) : Nat → List Nat → List Nat → List Nat
  | 0, _, seen => seen
  | n + 1, ps, seen =>
    let next := advance step ps
    if next.isEmpty || next == ps then seen
    else optionalRounds step n next (normalize (seen ++ next))

/-- Every position reachable from the frontier by rounds, given those already seen. Each round
adds a new position, and there are no more than `fuel` rounds. -/
def closure (step : Nat → List Nat) : Nat → List Nat → List Nat → List Nat
  | 0, seen, _ => seen
  | fuel + 1, seen, frontier =>
    let next := (advance step frontier).filter (!seen.contains ·)
    if next.isEmpty then seen else closure step fuel (normalize (seen ++ next)) next

def literalEnd (text : Array Char) : List Char → Nat → Option Nat
  | [], pos => some pos
  | c :: cs, pos => if text[pos]? == some c then literalEnd text cs (pos + 1) else none

mutual

def ends (text : Array Char) : Pattern → Nat → List Nat
  | .empty, pos => [pos]
  | .literal cs, pos => (literalEnd text cs pos).toList
  | .chars s, pos =>
    match text[pos]? with
    | some c => if s.contains c.toNat then [pos + 1] else []
    | none => []
  | .assert a, pos => if a.holds text pos then [pos] else []
  | .repetition least most _ p, pos =>
    let required := exactRounds (ends text p) least [pos]
    match most with
    | none => closure (ends text p) (text.size + 1) required required
    | some most => optionalRounds (ends text p) (most - least) required required
  | .capture _ _ p, pos => ends text p pos
  | .concat ps, pos => endsSeq text ps pos
  | .alternation ps, pos => endsAlt text ps pos

def endsSeq (text : Array Char) : List Pattern → Nat → List Nat
  | [], pos => [pos]
  | p :: ps, pos => advance (endsSeq text ps) (ends text p pos)

def endsAlt (text : Array Char) : List Pattern → Nat → List Nat
  | [], _ => []
  | p :: ps, pos => normalize (ends text p pos ++ endsAlt text ps pos)

end

def occursIn (p : Pattern) (s : String) : Bool :=
  let text := s.toList.toArray
  (List.range (text.size + 1)).any fun pos => !(ends text p pos).isEmpty

end Pattern

end ObjcImage
