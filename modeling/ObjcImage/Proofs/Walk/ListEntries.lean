import Mathlib
import ObjcImage.Proofs.Walk.Notes
import ObjcImage.Proofs.MachO.Translate

set_option autoImplicit false

/-!
Reading the entries of a nested list, up to the first entry that is not mapped.
-/

namespace ObjcImage

namespace MachImage

/-- A range that an image which reads can translate ends below the last 64-bit address: it lies
inside one section, and reading the image checks that every section does. -/
theorem translate_end_lt {arith : AddressArithmetic} {bytes : ByteArray} {img : MachImage}
    (parsed : parse arith bytes = .ok (.ok img)) {address size : Nat} {b : List UInt8}
    (translated : img.translate address size = .ok b) : address + size < addressLimit := by
  obtain ⟨offset, found⟩ : ∃ offset, img.fileOffset address size = .ok offset := by
    unfold translate at translated
    cases found : img.fileOffset address size with
    | error e => simp [found, bind, Except.bind] at translated
    | ok offset => exact ⟨offset, rfl⟩
  obtain ⟨s, mapped, fits, -⟩ := fileOffset_eq_ok found
  obtain ⟨mem, -, inside⟩ := mappedSection?_eq_some mapped
  obtain ⟨seg, segMem, inSeg⟩ := List.mem_flatMap.1 mem
  have ends := (parse_layout_sound parsed).2.1 seg segMem s inSeg
  simp only [Section.contains, Bool.and_eq_true, decide_eq_true_eq] at inside
  omega

end MachImage

namespace Metadata

variable (img : MachImage)

/-- Where reading `count` entries of `entsize` bytes from `first` on stops: every entry before the
`k`-th can be read, and the `k`-th cannot unless `k` is the count. -/
structure FirstUnread (first entsize count k : Nat) : Prop where
  le_count : k ≤ count
  reads : ∀ i < k, ∃ b, img.translate (first + i * entsize) entsize = .ok b
  fails : k < count → ∃ e, img.translate (first + k * entsize) entsize = .error e

variable {img}

theorem FirstUnread.unique {first entsize count k k' : Nat}
    (stops : FirstUnread img first entsize count k) (stops' : FirstUnread img first entsize count k') :
    k = k' := by
  -- an entry before the other stop reads, so it is not where reading stops
  have not_before : ∀ {j j'}, FirstUnread img first entsize count j →
      FirstUnread img first entsize count j' → ¬ j < j' := by
    intro j j' at_j at_j' before
    obtain ⟨e, failed⟩ := at_j.fails (Nat.lt_of_lt_of_le before at_j'.le_count)
    obtain ⟨b, read⟩ := at_j'.reads j before
    rw [failed] at read
    cases read
  have := not_before stops stops'
  have := not_before stops' stops
  omega

variable (img)

theorem mappedRun_from (first entsize : Nat) : ∀ i n,
    i ≤ mappedRun img first entsize i n ∧ mappedRun img first entsize i n ≤ i + n ∧
      (∀ j, i ≤ j → j < mappedRun img first entsize i n →
        ∃ b, img.translate (first + j * entsize) entsize = .ok b) ∧
      (mappedRun img first entsize i n < i + n →
        ∃ e, img.translate (first + mappedRun img first entsize i n * entsize) entsize = .error e)
  | i, 0 => by
    rw [mappedRun]
    exact ⟨Nat.le_refl i, by omega, fun j after before => absurd before (by omega),
      fun short => absurd short (by omega)⟩
  | i, n + 1 => by
    unfold mappedRun
    split
    next b read =>
      obtain ⟨low, high, reads, fails⟩ := mappedRun_from first entsize (i + 1) n
      refine ⟨by omega, by omega, fun j after before => ?_, fun short => fails (by omega)⟩
      -- the entry at `i` has just been read; those after it are the rest of the run
      by_cases here : j = i
      · exact ⟨b, here ▸ read⟩
      · exact reads j (by omega) before
    next e failed =>
      exact ⟨Nat.le_refl i, by omega, fun j after before => absurd before (by omega),
        fun _ => ⟨e, failed⟩⟩

theorem firstUnread_mappedRun (first entsize count : Nat) :
    FirstUnread img first entsize count (mappedRun img first entsize 0 count) := by
  obtain ⟨-, high, reads, fails⟩ := mappedRun_from img first entsize 0 count
  exact ⟨by simpa using high, fun i before => reads i (Nat.zero_le i) before,
    fun short => fails (by simpa using short)⟩

variable {img}

/-- Reading a list of `count` entries of `entsize` bytes from `first` on, where reading stops at
entry `k`: the entries are the `k` before it, none at all under the strict policy when `k` falls
short of the count, and exactly one note that the list is cut short, with the count declared and
the `k` entries readable, is added when it does. On an image that reads, every entry address
computed on the way, up to the one where reading stops, lies below the last 64-bit address. -/
theorem listEntries_truncation {arith : AddressArithmetic} {bytes : ByteArray} {img : MachImage}
    (parsed : MachImage.parse arith bytes = .ok (.ok img)) (policy : ListPolicy) (list : ListKind)
    {first count entsize k : Nat} (stops : FirstUnread img first entsize count k)
    (low : first < addressLimit) (n : Notes) :
    (listEntries img policy list first count entsize).run n =
        (if k < count ∧ policy = .strict then [] else (List.range k).map fun i => first + i * entsize,
          if k < count then
            { n with diagnostics := n.diagnostics ++ [⟨some first, .truncatedList list count k policy⟩] }
          else n) ∧
      ∀ i < count, i ≤ k → first + i * entsize < addressLimit := by
  have stopped : mappedRun img first entsize 0 count = k :=
    (firstUnread_mappedRun img first entsize count).unique stops
  refine ⟨?_, fun i declared upTo => ?_⟩
  · by_cases cut : k < count
    · cases policy with
      | strict =>
        rw [← stopped] at cut ⊢
        simp only [run_listEntries_strict_of_lt img list first count entsize cut, cut, and_self,
          if_true]
      | salvage =>
        simp only [listEntries, stopped, cut, if_true]
        rfl
    · rw [listEntries_of_not_lt img policy list first count entsize (stopped ▸ cut), stopped]
      simp only [cut, false_and, if_false]
      rfl
  · -- the entry before the `i`-th was read, so it ends inside a section
    cases i with
    | zero => simpa using low
    | succ j =>
      obtain ⟨b, read⟩ := stops.reads j (by omega)
      have ends := MachImage.translate_end_lt parsed read
      rw [Nat.succ_mul]
      omega

set_option maxRecDepth 20000 in
/-- Three entries of eight bytes from the start of the sample's second section, which holds two:
reading stops at the third, and the salvaged list keeps the first two. -/
theorem listEntries_truncation_sample :
    FirstUnread (MachImage.sampleImage MachImage.sampleSections) 0x1120 8 3 2 ∧
      (listEntries (MachImage.sampleImage MachImage.sampleSections) .salvage .protocol 0x1120 3 8).run {} =
        ([0x1120, 0x1128], { diagnostics := [⟨some 0x1120, .truncatedList .protocol 3 2 .salvage⟩] }) ∧
      ∀ i < 3, i ≤ 2 → 0x1120 + i * 8 < addressLimit := by
  have stops : FirstUnread (MachImage.sampleImage MachImage.sampleSections) 0x1120 8 3 2 := by
    refine ⟨by decide, fun i before => ⟨List.replicate 8 0, ?_⟩, fun _ => ⟨.unmapped 0x1130 8, ?_⟩⟩
    · interval_cases i <;> decide
    · decide
  obtain ⟨run, low⟩ := listEntries_truncation MachImage.parse_sampleFile .salvage .protocol stops
    (by decide) {}
  refine ⟨stops, ?_, low⟩
  rw [run]
  rfl

end Metadata

end ObjcImage
