import Mathlib
import ObjcImage.Fixup.Table

set_option autoImplicit false

/-!
Chained fixups: which slots a chain writes, and where the chains of a segment start. Nothing in a
chain bounds its length, but a non-zero distance moves forward and a read past the file fails, so
every walk of a chain ends.
-/

namespace ObjcImage

/-! ### Walking one chain -/

/-- Where a chain is read: the file's bytes and their order, the segment whose slots it links, the
pointer format of the slots, the imports that binds name, and the address the image is loaded at. -/
structure ChainSite where
  bytes : ByteArray
  endian : Endian
  segment : Segment
  format : PointerFormat
  imports : List ChainedImport
  imageBase : Nat

namespace ChainSite

variable (c : ChainSite)

def slotWidth : Nat := if c.format.isNarrow then 4 else 8

def link (delta : Nat) : Option (ChainedPointer × Nat) :=
  match Source.readWord c.bytes c.endian (c.segment.fileoff + delta) c.slotWidth with
  | .ok raw => ChainedPointer.decode raw c.format
  | .error _ => none

/-- What a decoded slot holds once fixed up: a relative rebase is an offset from the image base,
wrapped at 2^64; a bind names its import when the ordinal lies within the import table and is
null otherwise. -/
def value : ChainedPointer → SlotValue
  | .rebase target true => .value ((c.imageBase + target) % Nat.pow 2 64)
  | .rebase target false => .value target
  | .bind ordinal _ => if h : ordinal < c.imports.length then .bind c.imports[ordinal].name else .null

def next (delta : Nat) : Nat := delta + ((c.link delta).map Prod.snd).getD 0

def offset (start k : Nat) : Nat := c.next^[k] start

def write (start k : Nat) : Nat × SlotValue :=
  (c.segment.vmaddr + c.offset start k,
    ((c.link (c.offset start k)).map fun l => c.value l.1).getD .null)

theorem lt_size_of_link {delta : Nat} {l : ChainedPointer × Nat} (linked : c.link delta = some l) :
    delta < c.bytes.size := by
  unfold link at linked
  split at linked
  · next raw read =>
    have fits := Source.readWord_ok_bound read
    have wide : 4 ≤ c.slotWidth := by unfold slotWidth; split <;> omega
    omega
  · cases linked

theorem next_of_link {delta : Nat} {p : ChainedPointer} {n : Nat}
    (linked : c.link delta = some (p, n)) : c.next delta = delta + n := by
  simp [next, linked]

theorem offset_zero (start : Nat) : c.offset start 0 = start := rfl

theorem offset_succ (start k : Nat) : c.offset start (k + 1) = c.offset (c.next start) k :=
  Function.iterate_succ_apply c.next k start

theorem value_eq (p : ChainedPointer) :
    (match p with
      | .rebase target true => SlotValue.value ((c.imageBase + target) % Nat.pow 2 64)
      | .rebase target false => .value target
      | .bind ordinal _ =>
        match c.imports[ordinal]? with
        | some i => .bind i.name
        | none => .null) = c.value p := by
  rcases p with ⟨target, _ | _⟩ | ⟨ordinal, addend⟩
  · rfl
  · rfl
  · by_cases within : ordinal < c.imports.length <;> simp [value, within]

theorem chainWrites_eq (delta : Nat) :
    FixupTable.chainWrites c.bytes c.endian c.segment c.format c.imports c.imageBase delta =
      match c.link delta with
      | none => []
      | some (p, 0) => [(c.segment.vmaddr + delta, c.value p)]
      | some (p, n + 1) => (c.segment.vmaddr + delta, c.value p) ::
          FixupTable.chainWrites c.bytes c.endian c.segment c.format c.imports c.imageBase
            (delta + (n + 1)) := by
  rw [FixupTable.chainWrites]
  unfold link slotWidth
  split
  · next f read => simp only [read]
  · next raw read =>
    simp only [read]
    split
    · next decoded => simp only [decoded]
    · next p n decoded =>
      simp only [decoded]
      -- the walk's own match on the pointer is `value` up to unfolding
      have same := c.value_eq p
      cases n
      · exact congrArg (fun v => [(c.segment.vmaddr + delta, v)]) same
      · exact congrArg (fun v => (c.segment.vmaddr + delta, v) :: _) same

theorem write_zero_of_link {start : Nat} {p : ChainedPointer} {n : Nat}
    (linked : c.link start = some (p, n)) :
    c.write start 0 = (c.segment.vmaddr + start, c.value p) := by
  simp [write, offset_zero, linked]

theorem map_write_range_succ (start K : Nat) :
    (List.range (K + 1)).map (c.write start) =
      c.write start 0 :: (List.range K).map (c.write (c.next start)) := by
  rw [List.range_succ_eq_map, List.map_cons, List.map_map]
  -- the iterate unfolds from the inside: slot `k + 1` from `start` is slot `k` from the next
  rfl

/-- The walk of a chain ends, and writes one slot per link it follows. Some `K` links in a row
each have a successor; link `K` either cannot be read, and the walk writes the `K` links before
it, or has distance zero, and the walk writes it too. The `k`-th slot written is the one at the
`k`-th offset of the chain, with the value its word decodes to. -/
theorem chainWrites_links (start : Nat) :
    ∃ K, (∀ k < K, ∃ p n, c.link (c.offset start k) = some (p, n + 1)) ∧
      ((c.link (c.offset start K) = none ∧
          FixupTable.chainWrites c.bytes c.endian c.segment c.format c.imports c.imageBase start =
            (List.range K).map (c.write start)) ∨
        ∃ p, c.link (c.offset start K) = some (p, 0) ∧
          FixupTable.chainWrites c.bytes c.endian c.segment c.format c.imports c.imageBase start =
            (List.range (K + 1)).map (c.write start)) := by
  -- the walk moves forward and stays within the file, so the room left after `start` drops
  induction h : c.bytes.size - start using Nat.strong_induction_on generalizing start with
  | _ room ih =>
    cases linked : c.link start with
    | none =>
      refine ⟨0, fun k below => absurd below (Nat.not_lt_zero k), .inl ⟨linked, ?_⟩⟩
      rw [chainWrites_eq, linked, List.range_zero, List.map_nil]
    | some l =>
      obtain ⟨p, _ | n⟩ := l
      · refine ⟨0, fun k below => absurd below (Nat.not_lt_zero k), .inr ⟨p, linked, ?_⟩⟩
        rw [chainWrites_eq, linked, List.range_one, List.map_singleton, c.write_zero_of_link linked]
      · have within := c.lt_size_of_link linked
        have moved := c.next_of_link linked
        obtain ⟨K, links, ends⟩ :=
          ih (c.bytes.size - (start + (n + 1))) (by omega) (start + (n + 1)) rfl
        rw [← moved] at links ends
        have walked : FixupTable.chainWrites c.bytes c.endian c.segment c.format c.imports
            c.imageBase start = c.write start 0 :: FixupTable.chainWrites c.bytes c.endian c.segment
              c.format c.imports c.imageBase (c.next start) := by
          rw [chainWrites_eq, linked, c.write_zero_of_link linked, moved]
        refine ⟨K + 1, ?_, ?_⟩
        · intro k below
          cases k with
          | zero => exact ⟨p, n, linked⟩
          | succ k => rw [offset_succ]; exact links k (by omega)
        · rw [offset_succ, walked, map_write_range_succ]
          rcases ends with ⟨stops, rest⟩ | ⟨q, last, rest⟩
          · exact .inl ⟨stops, by rw [rest]⟩
          · exact .inr ⟨q, last, by rw [rest, c.map_write_range_succ start (K + 1)]⟩

end ChainSite

/-! ### Where the chains of a segment start -/

theorem Except.bind_eq_ok {ε α β : Type} {x : Except ε α} {f : α → Except ε β} {b : β} :
    x >>= f = .ok b ↔ ∃ a, x = .ok a ∧ f a = .ok b := by
  cases x <;> simp [bind, Except.bind]

namespace ByteStream

theorem takeUInt_eq_ok {e : Endian} {width : Nat} {input rest : List UInt8} {v : Nat} :
    takeUInt e width input = .ok (v, rest) ↔
      width ≤ input.length ∧ v = e.value (input.take width) ∧ rest = input.drop width := by
  unfold takeUInt
  split
  · next short => simp only [reduceCtorEq, false_iff]; omega
  · next long => simp [eq_comm, Nat.le_of_not_lt long]

theorem takeMany_eq_ok {e : Endian} {width : Nat} :
    ∀ {count : Nat} {input rest : List UInt8} {vs : List Nat},
      takeMany e width count input = .ok (vs, rest) →
        width * count ≤ input.length ∧
          vs = (List.range count).map fun i => e.value ((input.drop (width * i)).take width)
  | 0, input, rest, vs, read => by
    simp only [takeMany, Except.ok.injEq, Prod.mk.injEq] at read
    simp [← read.1]
  | count + 1, input, rest, vs, read => by
    obtain ⟨⟨v, r⟩, first, read⟩ := Except.bind_eq_ok.1 read
    obtain ⟨⟨vs', r'⟩, others, read⟩ := Except.bind_eq_ok.1 read
    simp only [pure, Except.pure, Except.ok.injEq, Prod.mk.injEq] at read
    obtain ⟨fits, rfl, rfl⟩ := takeUInt_eq_ok.1 first
    obtain ⟨fitsRest, rfl⟩ := takeMany_eq_ok others
    simp only [List.length_drop] at fitsRest
    refine ⟨by rw [Nat.mul_succ]; omega, ?_⟩
    rw [← read.1, List.range_succ_eq_map, List.map_cons, List.map_map]
    refine congrArg₂ _ (by simp) (List.map_congr_left fun i _ => ?_)
    rw [Function.comp_apply, List.drop_drop, Nat.mul_succ, Nat.add_comm width]

end ByteStream

namespace ChainedFixups

def entryWord (e : Endian) (bytes : List UInt8) (i : Nat) : Nat :=
  e.value ((bytes.drop (22 + 2 * i)).take 2)

def entriesFrom (e : Endian) (bytes : List UInt8) (i : Nat) : List Nat :=
  (List.range ((bytes.length - (22 + 2 * i)) / 2)).map fun j => entryWord e bytes (i + j)

/-- The chain starts of page `p`, by its entry: nothing for the entry that marks a page without
chains; the entry itself when its bit 15 is clear; otherwise the overflow run that its low fifteen
bits point to, up to and including the first entry with bit 15 set, each with that bit cleared. -/
def pageChainStarts (e : Endian) (bytes : List UInt8) (p : Nat) : List (Nat × Nat) :=
  let start := entryWord e bytes p
  if start = 0xffff then []
  else if !start.testBit 15 then [(p, start)]
  else
    let run := entriesFrom e bytes (start &&& 0x7fff)
    (run.take (run.findIdx (·.testBit 15) + 1)).map fun v => (p, v &&& 0x7fff)

theorem value_pair_lt (e : Endian) (b0 b1 : UInt8) : e.value [b0, b1] < 0x10000 := by
  have := b0.toNat_lt
  have := b1.toNat_lt
  cases e <;> simp [Endian.value] <;> omega

theorem entryWord_lt (e : Endian) (bytes : List UInt8) (i : Nat) :
    entryWord e bytes i < 0x10000 := by
  unfold entryWord
  have short := List.length_take_le 2 (bytes.drop (22 + 2 * i))
  generalize (bytes.drop (22 + 2 * i)).take 2 = word at short
  match word, short with
  | [], _ => cases e <;> simp [Endian.value]
  | [b], _ => cases e <;> simp [Endian.value] <;> exact Nat.lt_trans b.toNat_lt (by decide)
  | [b0, b1], _ => exact value_pair_lt e b0 b1

theorem testBit_entryWord (e : Endian) (bytes : List UInt8) (i : Nat) :
    (entryWord e bytes i).testBit 15 = decide (0x8000 ≤ entryWord e bytes i) := by
  have := entryWord_lt e bytes i
  rw [Nat.testBit_eq_decide_div_mod_eq, decide_eq_decide]
  omega

theorem and_low_bits (x : Nat) : x &&& 0x7fff = x % 0x8000 := by
  have low := Nat.and_two_pow_sub_one_eq_mod x 15
  norm_num at low
  exact low

theorem entryWord_and_low_of_marked {e : Endian} {bytes : List UInt8} {i : Nat}
    (marked : 0x8000 ≤ entryWord e bytes i) :
    entryWord e bytes i &&& 0x7fff = entryWord e bytes i - 0x8000 := by
  have := entryWord_lt e bytes i
  rw [and_low_bits]
  omega

theorem entriesFrom_of_lt {e : Endian} {bytes : List UInt8} {i : Nat}
    (short : bytes.length < 22 + 2 * i + 2) : entriesFrom e bytes i = [] := by
  have none : (bytes.length - (22 + 2 * i)) / 2 = 0 := by omega
  simp [entriesFrom, none]

theorem entriesFrom_of_le {e : Endian} {bytes : List UInt8} {i : Nat}
    (fits : 22 + 2 * i + 2 ≤ bytes.length) :
    entriesFrom e bytes i = entryWord e bytes i :: entriesFrom e bytes (i + 1) := by
  have count : (bytes.length - (22 + 2 * i)) / 2 = (bytes.length - (22 + 2 * (i + 1))) / 2 + 1 := by
    omega
  rw [entriesFrom, count, List.range_succ_eq_map, List.map_cons, List.map_map, entriesFrom]
  congr 1
  exact List.map_congr_left fun j _ => by simp only [Function.comp_apply]; congr 1; omega

theorem overflowRun_drop (e : Endian) (bytes : List UInt8) (i : Nat) :
    overflowRun e (bytes.drop (22 + 2 * i)) =
      ((entriesFrom e bytes i).take ((entriesFrom e bytes i).findIdx (·.testBit 15) + 1)).map
        (· &&& 0x7fff) := by
  -- each entry read moves two bytes on, so the bytes left after entry `i` drop
  induction h : bytes.length - (22 + 2 * i) using Nat.strong_induction_on generalizing i with
  | _ room ih =>
    by_cases fits : 22 + 2 * i + 2 ≤ bytes.length
    · obtain ⟨b0, b1, rest, split⟩ : ∃ b0 b1 rest, bytes.drop (22 + 2 * i) = b0 :: b1 :: rest := by
        match w : bytes.drop (22 + 2 * i), fits with
        | b0 :: b1 :: rest, _ => exact ⟨b0, b1, rest, rfl⟩
        | [], fits => have := congrArg List.length w; simp at this; omega
        | [_], fits => have := congrArg List.length w; simp at this; omega
      have word : entryWord e bytes i = e.value [b0, b1] := by simp [entryWord, split]
      have after : bytes.drop (22 + 2 * (i + 1)) = rest := by
        rw [show 22 + 2 * (i + 1) = (22 + 2 * i) + 2 by omega, ← List.drop_drop, split]
        rfl
      have more := ih (bytes.length - (22 + 2 * (i + 1))) (by omega) (i + 1) rfl
      rw [after] at more
      rw [split, overflowRun, entriesFrom_of_le fits, ← word]
      have bit := testBit_entryWord e bytes i
      by_cases last : 0x8000 ≤ entryWord e bytes i
      · -- the marked entry ends the run
        simp [last, bit, List.findIdx_cons, entryWord_and_low_of_marked last]
      · have low : entryWord e bytes i &&& 0x7fff = entryWord e bytes i := by
          rw [and_low_bits, Nat.mod_eq_of_lt (by omega)]
        simp [last, bit, more, List.findIdx_cons, low]
    · rw [entriesFrom_of_lt (by omega)]
      match w : bytes.drop (22 + 2 * i) with
      | [] => rfl
      | [_] => rfl
      | _ :: _ :: _ => have := congrArg List.length w; simp at this; omega

theorem zipIdx_map_range {α : Type} (f : Nat → α) (n : Nat) :
    ((List.range n).map f).zipIdx = (List.range n).map fun p => (f p, p) :=
  List.ext_getElem (by simp) fun i _ _ => by simp [List.getElem_zipIdx]

theorem pageChainStarts_eq (e : Endian) (bytes : List UInt8) (p : Nat) :
    (if entryWord e bytes p == 0xffff then []
      else if entryWord e bytes p < 0x8000 then [(p, entryWord e bytes p)]
      else (overflowRun e (bytes.drop (22 + 2 * (entryWord e bytes p - 0x8000)))).map (p, ·)) =
      pageChainStarts e bytes p := by
  have bit := testBit_entryWord e bytes p
  unfold pageChainStarts
  by_cases none : entryWord e bytes p = 0xffff
  · simp [none]
  by_cases single : entryWord e bytes p < 0x8000
  · simp [none, single, bit]
  · -- a page with several chains: its low fifteen bits index the overflow run
    have index := entryWord_and_low_of_marked (Nat.le_of_not_lt single)
    simp only [beq_iff_eq, none, if_false, single, bit, index, overflowRun_drop, List.map_map]
    simp [Function.comp_def, Nat.le_of_not_lt single]

theorem flattenStarts_entries (e : Endian) (bytes : List UInt8) (n : Nat) :
    flattenStarts e bytes ((List.range n).map (entryWord e bytes)) =
      (List.range n).flatMap (pageChainStarts e bytes) := by
  rw [flattenStarts, zipIdx_map_range, List.flatMap_map]
  exact List.flatMap_congr fun p _ => pageChainStarts_eq e bytes p

theorem parseSegmentStarts_eq_ok {e : Endian} {segment : Nat} {bytes : List UInt8}
    {starts : SegmentStarts} (parsed : parseSegmentStarts e segment bytes = .ok starts) :
    starts.pageStarts =
      flattenStarts e bytes ((List.range starts.pageCount).map (entryWord e bytes)) := by
  unfold parseSegmentStarts at parsed
  obtain ⟨⟨size, r1⟩, read1, parsed⟩ := Except.bind_eq_ok.1 parsed
  obtain ⟨⟨pageSize, r2⟩, read2, parsed⟩ := Except.bind_eq_ok.1 parsed
  obtain ⟨⟨formatCode, r3⟩, read3, parsed⟩ := Except.bind_eq_ok.1 parsed
  dsimp only at parsed
  split at parsed
  · next format known =>
    obtain ⟨⟨segmentOffset, r4⟩, read4, parsed⟩ := Except.bind_eq_ok.1 parsed
    obtain ⟨⟨maxValid, r5⟩, read5, parsed⟩ := Except.bind_eq_ok.1 parsed
    obtain ⟨⟨pageCount, r6⟩, read6, parsed⟩ := Except.bind_eq_ok.1 parsed
    obtain ⟨⟨raws, r7⟩, read7, parsed⟩ := Except.bind_eq_ok.1 parsed
    simp only [pure, Except.pure, Except.ok.injEq] at parsed
    subst parsed
    obtain ⟨-, -, rfl⟩ := ByteStream.takeUInt_eq_ok.1 read1
    obtain ⟨-, -, rfl⟩ := ByteStream.takeUInt_eq_ok.1 read2
    obtain ⟨-, -, rfl⟩ := ByteStream.takeUInt_eq_ok.1 read3
    obtain ⟨-, -, rfl⟩ := ByteStream.takeUInt_eq_ok.1 read4
    obtain ⟨-, -, rfl⟩ := ByteStream.takeUInt_eq_ok.1 read5
    obtain ⟨-, -, rfl⟩ := ByteStream.takeUInt_eq_ok.1 read6
    obtain ⟨-, rfl⟩ := ByteStream.takeMany_eq_ok read7
    dsimp only
    congr 1
    refine List.map_congr_left fun i _ => ?_
    simp only [entryWord, List.drop_drop]
  · simp at parsed

/-- Reading the chain starts of a segment flattens its page table page by page: a page contributes
nothing when its entry is `0xffff`, its one start when bit 15 of the entry is clear, and otherwise
the overflow entries from the one that its low fifteen bits index, up to and including the first
with bit 15 set or up to the end of the bytes, each with bit 15 cleared. -/
theorem parseSegmentStarts_pageStarts {e : Endian} {segment : Nat} {bytes : List UInt8}
    {starts : SegmentStarts} (parsed : parseSegmentStarts e segment bytes = .ok starts) :
    starts.pageStarts = (List.range starts.pageCount).flatMap (pageChainStarts e bytes) := by
  rw [parseSegmentStarts_eq_ok parsed, flattenStarts_entries]

/-- The chain starts of a segment of three pages: page 0 has one chain at `0x10`, page 1 has two,
listed in the overflow area at entries 3 and 4, and page 2 has none. -/
def sampleStartBytes : List UInt8 :=
  [0x18, 0, 0, 0, 0, 0x40, 6, 0, 0, 0x40, 0, 0, 0, 0, 0, 0, 0, 0, 0, 0, 3, 0,
    0x10, 0, 0x03, 0x80, 0xff, 0xff, 0x20, 0, 0x40, 0x80]

def sampleStarts : SegmentStarts :=
  ⟨1, 0x18, 0x4000, .ptr64Offset, 0x4000, 0, 3, [(0, 0x10), (1, 0x20), (1, 0x40)]⟩

set_option maxRecDepth 4000 in
theorem parseSegmentStarts_pageStarts_sample :
    parseSegmentStarts .little 1 sampleStartBytes = .ok sampleStarts ∧
      sampleStarts.pageStarts =
        (List.range sampleStarts.pageCount).flatMap (pageChainStarts .little sampleStartBytes) :=
  have parsed : parseSegmentStarts .little 1 sampleStartBytes = .ok sampleStarts := by rfl
  ⟨parsed, parseSegmentStarts_pageStarts parsed⟩

end ChainedFixups

end ObjcImage
