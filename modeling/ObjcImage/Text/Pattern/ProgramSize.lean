import ObjcImage.Text.Pattern.Combine

set_option autoImplicit false

/-!
The size of the matching program of a name filter, and the limit on it. The filter runs as an
automaton over UTF-8 bytes, built forwards and backwards; the build stops once it takes more than
10 MiB, and the filter is refused. The size depends only on how the pattern is written.
-/

namespace ObjcImage

open Text

namespace Pattern

def sizeLimit : Nat := 10 * 1024 * 1024

def stateBytes : Nat := 32

def transitionBytes : Nat := 8

def branchBytes : Nat := 4

structure Tally where
  states : Nat := 0
  bytes : Nat := 0
  deriving DecidableEq, Repr

abbrev Build := StateT Tally (Except Unit)

/-- What the pieces around a built piece need to know of it: whether its exit state is a fork,
which gets a branch when the exit is joined to what follows. -/
structure Piece where
  forkExit : Bool
  deriving DecidableEq, Repr

namespace Build

def grow (count extra : Nat) : Build Unit := fun t =>
  let bytes := t.bytes + stateBytes * count + extra
  if bytes > sizeLimit then .error () else .ok ((), ⟨t.states + count, bytes⟩)

def add (extra : Nat) : Build Nat := fun t =>
  match grow 1 extra t with
  | .ok ((), t') => .ok (t.states, t')
  | .error e => .error e

def branch : Build Unit := grow 0 branchBytes

def join (p : Piece) : Build Unit := if p.forkExit then branch else pure ()

def single : Build Piece := do
  let _ ← add 0
  pure ⟨false⟩

end Build

open Build

/-! ### UTF-8 byte sequences -/

def encodePoint (c : Nat) : List Nat :=
  if c < 0x80 then [c]
  else if c < 0x800 then [0xC0 + c / 64, 0x80 + c % 64]
  else if c < 0x10000 then [0xE0 + c / 4096, 0x80 + c / 64 % 64, 0x80 + c % 64]
  else [0xF0 + c / 262144, 0x80 + c / 4096 % 64, 0x80 + c / 64 % 64, 0x80 + c % 64]

def blockSplit (lo hi : Nat) : Option Nat :=
  [64, 4096, 262144].findSome? fun block =>
    if lo / block == hi / block then none
    else if lo % block != 0 then some (lo - lo % block + block - 1)
    else if hi % block != block - 1 then some (hi - hi % block - 1)
    else none

/-- The byte ranges that match the code points from `lo` to `hi` in UTF-8, as sequences of
ranges, one range per byte, in increasing order. Surrogates are left out, the range is cut
where the length of the encoding changes, and then where the leading bytes change, until the
code points of each part are exactly those whose bytes lie in the ranges. Each cut leaves
shorter ranges, so `hi + 1 - lo` rounds are enough. -/
def byteRangesWith : Nat → Nat → Nat → List (List (Nat × Nat))
  | 0, _, _ => []
  | fuel + 1, lo, hi =>
    if lo > hi then []
    else if lo < 0xE000 && hi > 0xD7FF then
      byteRangesWith fuel lo 0xD7FF ++ byteRangesWith fuel 0xE000 hi
    else
      match [0x7F, 0x7FF, 0xFFFF].find? (fun m => lo ≤ m && m < hi) with
      | some m => byteRangesWith fuel lo m ++ byteRangesWith fuel (m + 1) hi
      | none =>
        if hi ≤ 0x7F then [[(lo, hi)]]
        else
          match blockSplit lo hi with
          | some m => byteRangesWith fuel lo m ++ byteRangesWith fuel (m + 1) hi
          | none => [(encodePoint lo).zip (encodePoint hi)]

def byteRanges (lo hi : Nat) : List (List (Nat × Nat)) := byteRangesWith (hi + 1 - lo) lo hi

/-! ### Tables of shared states -/

def fnvStep (h : UInt64) (x : Nat) : UInt64 := (h ^^^ x.toUInt64) * 1099511628211

def fnvStart : UInt64 := 14695981039346656037

abbrev Transition := Nat × Nat × Nat

def transitionsHash (ts : List Transition) : Nat :=
  (ts.foldl (fun h (lo, hi, next) => fnvStep (fnvStep (fnvStep h lo) hi) next) fnvStart).toNat

abbrev StateTable := Array (Option (List Transition × Nat))

/-- The state with these transitions: the one in the slot of their hash if it has exactly these,
or else a new state, which then takes the slot. -/
def shareState (table : StateTable) (ts : List Transition) : Build (Nat × StateTable) := do
  let slot := transitionsHash ts % table.size
  let hit := match table[slot]? with
    | some (some (key, id)) => if key == ts then some id else none
    | _ => none
  match hit with
  | some id => pure (id, table)
  | none =>
    let id ← add (transitionBytes * ts.length)
    pure (id, table.setIfInBounds slot (some (ts, id)))

/-! ### Classes forwards: a trie of byte sequences -/

structure OpenNode where
  done : List Transition := []
  pending : Option (Nat × Nat) := none

def OpenNode.close (n : OpenNode) (next : Nat) : List Transition :=
  match n.pending with
  | some (lo, hi) => n.done ++ [(lo, hi, next)]
  | none => n.done

structure SequenceTrie where
  target : Nat
  table : StateTable
  path : List OpenNode

namespace SequenceTrie

def buildBeyond (u : SequenceTrie) (keep : Nat) : Build SequenceTrie := do
  let kept := u.path.take (keep + 1)
  let beyond := u.path.drop (keep + 1)
  let (next, table) ← beyond.reverse.foldlM
    (fun (acc : Nat × StateTable) node => shareState acc.2 (node.close acc.1)) (u.target, u.table)
  let path := match kept.getLast? with
    | some top => kept.dropLast ++ [{ done := top.close next }]
    | none => kept
  pure { u with table, path }

/-- Adds a sequence, greater than all before it: the part it shares with the open path stays
open, the rest of the path is built, and the rest of the sequence becomes the new open path. -/
def add (u : SequenceTrie) (seq : List (Nat × Nat)) : Build SequenceTrie := do
  let shared := ((seq.zip u.path).takeWhile fun (r, n) => n.pending == some r).length
  let u ← u.buildBeyond shared
  match seq.drop shared with
  | [] => pure u
  | first :: rest =>
    let path := match u.path.getLast? with
      | some top => u.path.dropLast ++ [{ top with pending := some first }]
      | none => u.path
    pure { u with path := path ++ rest.map fun r => { pending := some r } }

def finish (u : SequenceTrie) : Build Piece := do
  let u ← u.buildBeyond 0
  let _ ← shareState u.table ((u.path.head?.map (·.done)).getD [])
  pure ⟨false⟩

end SequenceTrie

def classForwards (s : CharSet) : Build Piece := do
  let target ← add 0
  let trie : SequenceTrie := { target, table := Array.replicate 10000 none, path := [{}] }
  let trie ← (s.ranges.flatMap fun (lo, hi) => byteRanges lo hi).foldlM SequenceTrie.add trie
  trie.finish

/-! ### Classes backwards: chains that share their ends -/

abbrev TestTable := Array (Option (Transition × Nat))

def testHash (key : Transition) : Nat :=
  (fnvStep (fnvStep (fnvStep fnvStart key.1) key.2.1) key.2.2).toNat

def shareTest (table : TestTable) (next lo hi : Nat) : Build (Nat × TestTable) := do
  let key : Transition := (next, lo, hi)
  let slot := testHash key % table.size
  let hit := match table[slot]? with
    | some (some (k, id)) => if k == key then some id else none
    | _ => none
  match hit with
  | some id => pure (id, table)
  | none =>
    let id ← add 0
    pure (id, table.setIfInBounds slot (some (key, id)))

/-- A class backwards: a fork with a chain of byte tests per sequence, read from its last byte,
chains sharing the tests of the bytes they end with. -/
def classBackwards (s : CharSet) : Build Piece := do
  let _ ← add 0
  let finish ← add 0
  let seqs := s.ranges.flatMap fun (lo, hi) => byteRanges lo hi
  let _ ← seqs.foldlM (fun (table : TestTable) seq => do
      let (_, table) ← seq.foldlM
        (fun (acc : Nat × TestTable) (r : Nat × Nat) => shareTest acc.2 acc.1 r.1 r.2)
        (finish, table)
      branch
      pure table)
    (Array.replicate 1000 none)
  pure ⟨false⟩

def classPiece (backwards : Bool) (s : CharSet) : Build Piece :=
  if s.isAscii then do
    let _ ← add 0
    let _ ← add (transitionBytes * s.ranges.length)
    pure ⟨false⟩
  else if backwards then classBackwards s
  else classForwards s

/-! ### Alternations of literals: a trie -/

/-- A node of a trie of literals. Its edges by byte fall into runs, each closed where a literal
ends at the node; a literal that ends here is preferred to the runs after it only. -/
structure LiteralNode where
  runs : List (List (Nat × Nat)) := []
  current : List (Nat × Nat) := []

def LiteralNode.isLeaf (n : LiteralNode) : Bool := n.runs.all List.isEmpty && n.current.isEmpty

def insertEdge (e : Nat × Nat) : List (Nat × Nat) → List (Nat × Nat)
  | [] => [e]
  | f :: more => if e.1 < f.1 then e :: f :: more else f :: insertEdge e more

def addLiteral (nodes : Array LiteralNode) (bytes : List Nat) : Array LiteralNode :=
  let (nodes, last) := bytes.foldl (fun (acc : Array LiteralNode × Nat) b =>
    let node := acc.1.getD acc.2 {}
    match node.current.find? (·.1 == b) with
    | some (_, child) => (acc.1, child)
    | none =>
      let child := acc.1.size
      ((acc.1.setIfInBounds acc.2 { node with current := insertEdge (b, child) node.current }).push {},
        child)) (nodes, 0)
  let node := nodes.getD last {}
  if node.isLeaf && !node.runs.isEmpty then nodes
  else nodes.setIfInBounds last { runs := node.runs ++ [node.current], current := [] }

/-- The states and the extra bytes of a trie of literals: the joining state; for the root and
each node with edges, a fork with a branch per run with edges and one to the joining state per
run after the first, and a state per run with edges, which tests one byte or several. -/
def literalTrieSize (nodes : Array LiteralNode) : Nat × Nat :=
  nodes.toList.zipIdx.foldl (fun (acc : Nat × Nat) (node, i) =>
    if node.isLeaf && i != 0 then acc
    else
      let runs := node.runs ++ [node.current]
      let full := runs.filter fun r => !r.isEmpty
      let tests := (full.filter fun r => r.length ≥ 2).foldl
        (fun n r => n + transitionBytes * r.length) 0
      (acc.1 + 1 + full.length, acc.2 + tests + branchBytes * (full.length + runs.length - 1)))
    (1, 0)

def literalBranches : List Pattern → Option (List (List Char))
  | [] => some []
  | .literal cs :: more => (literalBranches more).map (cs :: ·)
  | _ => none

def charBytes (cs : List Char) : List Nat := cs.flatMap fun c => encodePoint c.toNat

def literalTrie (backwards : Bool) (lits : List (List Char)) : Build Piece := do
  let trie := lits.foldl (fun nodes cs =>
    addLiteral nodes (if backwards then (charBytes cs).reverse else charBytes cs)) #[{}]
  let (count, extra) := literalTrieSize trie
  grow count extra
  pure ⟨false⟩

/-! ### Combining pieces -/

def chainCopies (sub : Build Piece) (last : Piece) : Nat → Build Piece
  | 0 => pure last
  | n + 1 => fun t =>
    match sub t with
    | .error e => .error e
    | .ok (q, t) =>
      match join last t with
      | .error e => .error e
      | .ok ((), t) => chainCopies sub q n t

def copies (sub : Build Piece) : Nat → Build Piece
  | 0 => single
  | n + 1 => do
    let p ← sub
    chainCopies sub p n

def optionalCopies (sub : Build Piece) (last : Piece) : Nat → Build Piece
  | 0 => pure last
  | n + 1 => fun t =>
    let round : Build Piece := do
      let _ ← add 0
      let q ← sub
      join last
      branch
      branch
      pure q
    match round t with
    | .error e => .error e
    | .ok (q, t) => optionalCopies sub q n t

def chainAll : List (Build Piece) → Build Piece
  | [] => single
  | first :: more => do
    let p ← first
    more.foldlM (fun last next => do
      let q ← next
      join last
      pure q) p

def alternatives : List (Build Piece) → Build Piece
  | [] => single
  | [only] => only
  | first :: second :: more => do
    let a ← first
    let b ← second
    let _ ← add 0
    let _ ← add 0
    branch
    join a
    branch
    join b
    for next in more do
      let c ← next
      branch
      join c
    pure ⟨false⟩

/-- A repetition of a piece, whose shortest match is `shortest` bytes when it can match. -/
def repeated (sub : Build Piece) (shortest : Option Nat) (least : Nat) (most : Option Nat) :
    Build Piece :=
  match least, most with
  | 0, some 1 => do
    let _ ← add 0
    let p ← sub
    let _ ← add 0
    branch
    branch
    join p
    pure ⟨false⟩
  | 0, none =>
    if shortest.any (· > 0) then do
      let _ ← add 0
      let p ← sub
      branch
      join p
      pure ⟨true⟩
    else do
      let p ← sub
      let _ ← add 0
      join p
      branch
      let _ ← add 0
      let _ ← add 0
      branch
      branch
      branch
      pure ⟨false⟩
  | 1, none => do
    let p ← sub
    let _ ← add 0
    join p
    branch
    pure ⟨true⟩
  | n + 2, none => do
    let p ← copies sub (n + 1)
    let q ← sub
    let _ ← add 0
    join p
    join q
    branch
    pure ⟨true⟩
  | n, some m =>
    if n == m then copies sub n
    else do
      let p ← copies sub n
      let _ ← add 0
      let q ← optionalCopies sub p (m - n)
      join q
      pure ⟨false⟩

def captured (body : Build Piece) : Build Piece := do
  let _ ← add 0
  let p ← body
  let _ ← add 0
  join p
  pure ⟨false⟩

mutual

/-- The piece of a pattern, forwards or backwards. Backwards, sequences and literals are built
from their ends and groups capture nothing. -/
def piece (backwards : Bool) : Pattern → Build Piece
  | .empty => single
  | .literal cs => do
    grow (charBytes cs).length 0
    pure ⟨false⟩
  | .chars s => classPiece backwards s
  | .assert _ => single
  | .repetition least most _ p => repeated (piece backwards p) p.minLength least most
  | .capture _ _ p => if backwards then piece backwards p else captured (piece backwards p)
  | .concat ps =>
    let each := pieces backwards ps
    chainAll (if backwards then each.reverse else each)
  | .alternation ps =>
    match literalBranches ps with
    | some lits => if lits.length ≥ 2 then literalTrie backwards lits
      else alternatives (pieces backwards ps)
    | none => alternatives (pieces backwards ps)

def pieces (backwards : Bool) : List Pattern → List (Build Piece)
  | [] => []
  | p :: ps => piece backwards p :: pieces backwards ps

end

def anyPrefix : Build Piece := do
  let _ ← add 0
  let _ ← add 0
  let _ ← add transitionBytes
  branch
  pure ⟨true⟩

/-- The whole program, forwards or backwards: the loop before a match unless the pattern is
anchored on that side, the pattern inside the group of the whole match (forwards), and the
state of a match. -/
def program (backwards : Bool) (p : Pattern) : Build Unit := do
  let anchored := if backwards then p.anchoredEnd else p.anchoredStart
  let start ← if anchored then single else anyPrefix
  let body ← if backwards then p.piece true else captured (p.piece false)
  let _ ← add 0
  join body
  join start

def fitsSizeLimit (p : Pattern) : Bool :=
  ((program false p).run {}).toBool && ((program true p).run {}).toBool

end Pattern

end ObjcImage
