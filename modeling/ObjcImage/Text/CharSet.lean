set_option autoImplicit false

/-!
Sets of characters, kept as sorted, disjoint inclusive ranges of code points with gaps between
neighbours.
-/

namespace ObjcImage.Text

def maxCodePoint : Nat := 0x10FFFF

/-- A set of code points, as inclusive ranges. -/
structure CharSet where
  ranges : List (Nat × Nat)
  deriving DecidableEq, Repr

namespace CharSet

/-- Joins a range to sorted ranges read so far (kept last first), when it overlaps or touches the
last of them. -/
def absorb (acc : List (Nat × Nat)) (r : Nat × Nat) : List (Nat × Nat) :=
  match acc with
  | last :: more => if r.1 ≤ last.2 + 1 then (last.1, Nat.max last.2 r.2) :: more else r :: acc
  | [] => [r]

def coalesce (rs : List (Nat × Nat)) : List (Nat × Nat) :=
  (rs.foldl absorb []).reverse

def ofRanges (rs : List (Nat × Nat)) : CharSet :=
  ⟨coalesce ((rs.filter fun r => r.1 ≤ r.2).mergeSort fun a b => a.1 ≤ b.1)⟩

/-- The set a table gives: a table is already sorted, disjoint and with gaps. -/
def ofTable (t : Array (Nat × Nat)) : CharSet := ⟨t.toList⟩

def empty : CharSet := ⟨[]⟩

def all : CharSet := ⟨[(0, maxCodePoint)]⟩

def single (c : Nat) : CharSet := ⟨[(c, c)]⟩

def interval (lo hi : Nat) : CharSet := ofRanges [(lo, hi)]

def contains (s : CharSet) (c : Nat) : Bool :=
  s.ranges.any fun r => r.1 ≤ c && c ≤ r.2

def union (a b : CharSet) : CharSet := ofRanges (a.ranges ++ b.ranges)

def unionAll (ss : List CharSet) : CharSet := ofRanges (ss.flatMap (·.ranges))

def gaps (next : Nat) : List (Nat × Nat) → List (Nat × Nat)
  | [] => if next ≤ maxCodePoint then [(next, maxCodePoint)] else []
  | r :: rest => (if next < r.1 then [(next, r.1 - 1)] else []) ++ gaps (r.2 + 1) rest

def complement (s : CharSet) : CharSet := ⟨gaps 0 (ofRanges s.ranges).ranges⟩

def inter (a b : CharSet) : CharSet := complement (union (complement a) (complement b))

def diff (a b : CharSet) : CharSet := inter a (complement b)

def symmDiff (a b : CharSet) : CharSet := union (diff a b) (diff b a)

def isAscii (s : CharSet) : Bool := s.ranges.all fun r => r.1 > r.2 || r.2 ≤ 0x7F

end CharSet

end ObjcImage.Text
