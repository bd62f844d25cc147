import Mathlib
import ObjcImage.MachO.Image

set_option autoImplicit false

/-!
What reading an image establishes about its layout. The overlap check compares neighbours in
address order only; it still accepts exactly the sections that are pairwise apart.
-/

namespace ObjcImage

theorem countP_range_le_one {α : Type} (start length : α → Nat) {l : List α}
    (apart : l.Pairwise fun s t => start s + length s ≤ start t ∨ start t + length t ≤ start s)
    (x : Nat) : l.countP (fun s => start s ≤ x && x - start s < length s) ≤ 1 := by
  induction apart with
  | nil => simp
  | @cons s rest headApart _ ih =>
    by_cases inside : (start s ≤ x && x - start s < length s) = true
    · have outside : rest.countP (fun s => start s ≤ x && x - start s < length s) = 0 :=
        List.countP_eq_zero.2 fun t mem => by
          have := headApart t mem
          simp only [Bool.and_eq_true, decide_eq_true_eq] at inside ⊢
          omega
      simp [inside, outside]
    · simpa [inside] using ih

namespace Section

def Apart (s t : Section) : Prop := s.addr + s.size ≤ t.addr ∨ t.addr + t.size ≤ s.addr

instance (s t : Section) : Decidable (s.Apart t) := inferInstanceAs (Decidable (_ ∨ _))

theorem Apart.symm {s t : Section} (apart : s.Apart t) : t.Apart s := Or.symm apart

theorem size_pos_of_contains {s : Section} {address : Nat} (inside : s.contains address = true) :
    0 < s.size := by
  simp only [contains, Bool.and_eq_true, decide_eq_true_eq] at inside
  omega

theorem countP_contains_le_one {l : List Section} (apart : l.Pairwise Apart) (address : Nat) :
    l.countP (·.contains address) ≤ 1 :=
  countP_range_le_one Section.addr Section.size apart address

end Section

namespace Segment

def Apart (s t : Segment) : Prop := 0 < s.vmsize → 0 < t.vmsize → s.vmEnd ≤ t.vmaddr ∨ t.vmEnd ≤ s.vmaddr

theorem apart_of_overlaps_eq_false {s t : Segment} (disjoint : s.overlaps t = false) : s.Apart t := by
  intro sized tSized
  simp only [overlaps, Bool.and_eq_false_iff, decide_eq_false_iff_not] at disjoint
  omega

end Segment

namespace MachImage

def backedSections (segments : List Segment) : List Section :=
  (segments.flatMap (·.sections)).filter fun s => !s.isZerofill && s.size > 0

def SectionFits (fileSize : Nat) (seg : Segment) (sect : Section) : Prop :=
  seg.vmaddr ≤ sect.addr ∧ sect.addr + sect.size ≤ seg.vmEnd ∧
    (sect.isZerofill = false → 0 < sect.size → sect.offset + sect.size ≤ fileSize)

theorem forIn_checks_eq_ok_iff {ε α : Type} (passes : α → Prop) :
    ∀ {l : List α} {body : α → PUnit → Except ε (ForInStep PUnit)},
      (∀ a, body a .unit = .ok (.yield .unit) ↔ passes a) → (∀ a, body a .unit ≠ .ok (.done .unit)) →
      ((forIn l PUnit.unit body >>= fun _ => Except.ok ()) = .ok () ↔ ∀ a ∈ l, passes a)
  | [], _, _, _ => by simp
  | a :: l, body, spec, stops => by
    rw [List.forIn_cons]
    cases step : body a .unit with
    | error e =>
      have fails : ¬ passes a := by rw [← spec, step]; simp
      simp [bind, Except.bind, fails]
    | ok next =>
      cases next with
      | done b => exact absurd step (stops a)
      | yield b =>
        simp only [List.forall_mem_cons, (spec a).1 step, true_and]
        exact forIn_checks_eq_ok_iff passes spec stops

theorem checkSegment_eq_ok_iff {fileSize : Nat} {seg : Segment} {later : List Segment} :
    checkSegment fileSize seg later = .ok () ↔
      seg.fileoff + seg.filesize ≤ fileSize ∧ (∀ t ∈ later, seg.overlaps t = false) ∧
        ∀ sect ∈ seg.sections, SectionFits fileSize seg sect := by
  unfold checkSegment
  by_cases exceeds : seg.fileoff + seg.filesize > fileSize
  · simp only [exceeds, if_true, throw, throwThe, MonadExceptOf.throw, bind, Except.bind]
    simp only [reduceCtorEq, false_iff, not_and]
    omega
  · cases found : later.find? seg.overlaps with
    | some other =>
      have overlapping := List.find?_some found
      have later := List.mem_of_find?_eq_some found
      simp [exceeds, throw, throwThe, MonadExceptOf.throw, bind, Except.bind]
      grind
    | none =>
      have apart : ∀ t ∈ later, seg.overlaps t = false := by simpa using found
      simp only [exceeds, throw, throwThe, MonadExceptOf.throw, pure, Except.pure, if_false]
      simp
      rw [forIn_checks_eq_ok_iff (SectionFits fileSize seg)]
      · exact ⟨fun fits => ⟨by omega, apart, fits⟩, fun checked => checked.2.2⟩
      · intro sect
        simp only [SectionFits, bind, Except.bind]
        split_ifs with outside exceedsFile
        · simp only [false_iff]
          omega
        · simp only [false_iff]
          rintro ⟨-, -, fits⟩
          have := fits exceedsFile.1.1 exceedsFile.1.2
          omega
        · simp only [true_iff]
          refine ⟨by omega, by omega, fun zero sized => ?_⟩
          exact Nat.le_of_not_lt fun beyond => exceedsFile ⟨⟨zero, sized⟩, beyond⟩
      · intro sect
        simp only [bind, Except.bind]
        split_ifs <;> simp


theorem checkSegments_eq_ok_iff {fileSize : Nat} : ∀ {segments : List Segment},
    checkSegments fileSize segments = .ok () ↔
      (∀ seg ∈ segments, seg.fileoff + seg.filesize ≤ fileSize ∧
        ∀ sect ∈ seg.sections, SectionFits fileSize seg sect) ∧
      segments.Pairwise fun s t => s.overlaps t = false
  | [] => by simp [checkSegments, pure, Except.pure]
  | seg :: later => by
    rw [checkSegments]
    cases head : checkSegment fileSize seg later with
    | error e =>
      have fails := mt checkSegment_eq_ok_iff.2 (by rw [head]; simp)
      simp only [bind, Except.bind, reduceCtorEq, false_iff, not_and]
      intro each pairwise
      exact fails ⟨(each seg (List.mem_cons_self ..)).1, fun t mem => List.rel_of_pairwise_cons pairwise mem,
        (each seg (List.mem_cons_self ..)).2⟩
    | ok u =>
      obtain ⟨inFile, apart, fits⟩ := checkSegment_eq_ok_iff.1 head
      simp only [bind, Except.bind, checkSegments_eq_ok_iff, List.forall_mem_cons, List.pairwise_cons]
      exact ⟨fun ⟨each, pairwise⟩ => ⟨⟨⟨inFile, fits⟩, each⟩, apart, pairwise⟩,
        fun ⟨⟨_, each⟩, _, pairwise⟩ => ⟨each, pairwise⟩⟩

/-- The first two neighbours whose ranges meet are none exactly when each section ends before the
next one starts; since ending before is transitive, each then ends before every later one. -/
theorem pairwise_ends_before_of_firstOverlap_eq_none : ∀ {l : List Section},
    firstOverlap l = none → l.Pairwise fun a b => a.addr + a.size ≤ b.addr
  | [], _ => .nil
  | [_], _ => List.pairwise_singleton _ _
  | a :: b :: rest, clear => by
    simp only [firstOverlap] at clear
    split at clear
    · contradiction
    · next before =>
      have tail := pairwise_ends_before_of_firstOverlap_eq_none clear
      refine List.Pairwise.cons (fun c mem => ?_) tail
      rcases List.mem_cons.1 mem with rfl | later
      · omega
      · have := List.rel_of_pairwise_cons tail later
        omega

/-- Sorted by address, sections that are pairwise apart and not empty have no neighbours that
meet: of two sections with the same address, the first would reach past the second's start. -/
theorem firstOverlap_eq_none_of_pairwise : ∀ {l : List Section},
    l.Pairwise Section.Apart → l.Pairwise (fun a b => a.addr ≤ b.addr) → (∀ s ∈ l, 0 < s.size) →
      firstOverlap l = none
  | [], _, _, _ => rfl
  | [_], _, _, _ => rfl
  | a :: b :: rest, apart, sorted, sized => by
    have headApart : a.Apart b := List.rel_of_pairwise_cons apart (List.mem_cons_self ..)
    have ordered : a.addr ≤ b.addr := List.rel_of_pairwise_cons sorted (List.mem_cons_self ..)
    have bSized := sized b (by simp)
    have before : ¬ a.addr + a.size > b.addr := by unfold Section.Apart at headApart; omega
    simp only [firstOverlap, before, if_false]
    exact firstOverlap_eq_none_of_pairwise apart.of_cons sorted.of_cons
      fun s mem => sized s (List.mem_cons_of_mem _ mem)

theorem checkSectionOverlap_eq_ok_iff {segments : List Segment} :
    checkSectionOverlap segments = .ok () ↔ (backedSections segments).Pairwise Section.Apart := by
  have permuted := List.mergeSort_perm (backedSections segments) fun a b => a.addr ≤ b.addr
  constructor
  · intro checked
    have clear : firstOverlap ((backedSections segments).mergeSort fun a b => a.addr ≤ b.addr) = none := by
      simp only [checkSectionOverlap] at checked
      split at checked
      · contradiction
      · assumption
    have ordered := pairwise_ends_before_of_firstOverlap_eq_none clear
    exact (permuted.pairwise_iff Section.Apart.symm).1 (ordered.imp Or.inl)
  · intro apart
    have sorted := @List.pairwise_mergeSort Section (fun a b => decide (a.addr ≤ b.addr))
      (fun a b c ab bc => by simp only [decide_eq_true_eq] at *; omega)
      (fun a b => by simp only [Bool.or_eq_true, decide_eq_true_eq]; omega) (backedSections segments)
    have clear := firstOverlap_eq_none_of_pairwise ((permuted.pairwise_iff Section.Apart.symm).2 apart)
      (sorted.imp fun h => by simpa using h) fun s mem => by
        have := (List.mem_filter.1 (List.mem_mergeSort.1 mem)).2
        simp only [Bool.and_eq_true, decide_eq_true_eq] at this
        exact this.2
    simp only [backedSections] at clear
    simp only [checkSectionOverlap, clear]

theorem layout_eq_ok_iff {bytes : ByteArray} {header : Header} {commands : List LoadCommand}
    {segments : List Segment} :
    layout bytes = .ok (header, commands, segments) ↔
      Header.parse bytes.data.toList = .ok header ∧
      LoadCommand.parseAll bytes.data.toList header = .ok commands ∧ segments = segmentsOf commands ∧
      checkSegments bytes.size segments = .ok () ∧ checkSectionOverlap segments = .ok () := by
  unfold layout
  simp only [bind, Except.bind, pure, Except.pure]
  cases hh : Header.parse bytes.data.toList with
  | error e => simp
  | ok h =>
    cases hc : LoadCommand.parseAll bytes.data.toList h with
    | error e =>
      simp only [hc, reduceCtorEq, false_iff, not_and, Except.ok.injEq]
      rintro rfl
      simp [hc]
    | ok cs =>
      cases hs : checkSegments bytes.size (segmentsOf cs) with
      | error e =>
        simp only [hc, hs, reduceCtorEq, false_iff, not_and, Except.ok.injEq]
        rintro rfl parsed rfl checked
        rw [hc, Except.ok.injEq] at parsed
        subst parsed
        simp [hs] at checked
      | ok u =>
        cases ho : checkSectionOverlap (segmentsOf cs) with
        | error e =>
          simp only [hc, hs, ho, reduceCtorEq, false_iff, not_and, Except.ok.injEq]
          rintro rfl parsed rfl -
          rw [hc, Except.ok.injEq] at parsed
          subst parsed
          simp [ho]
        | ok v =>
          simp only [hc, hs, ho, Except.ok.injEq, Prod.mk.injEq]
          constructor
          · rintro ⟨rfl, rfl, rfl⟩
            exact ⟨rfl, hc, rfl, hs, ho⟩
          · rintro ⟨rfl, parsed, rfl, -, -⟩
            rw [hc, Except.ok.injEq] at parsed
            subst parsed
            exact ⟨rfl, rfl, rfl⟩

theorem parse_eq_ok_ok {arith : AddressArithmetic} {bytes : ByteArray} {img : MachImage}
    (parsed : parse arith bytes = .ok (.ok img)) :
    layout bytes = .ok (img.header, img.commands, img.segments) ∧ img.bytes = bytes := by
  unfold parse at parsed
  split at parsed
  · simp at parsed
  · next header commands segments laid =>
    cases built : FixupTable.build arith bytes header.architecture segments commands with
    | error f => simp [built, Except.map] at parsed
    | ok fixups =>
      simp only [built, Except.map, Except.ok.injEq] at parsed
      subst parsed
      exact ⟨laid, rfl⟩

theorem vmEnd_lt_addressLimit (seg : Segment) : seg.vmEnd < addressLimit := by
  have limit : Nat.pow 2 64 = 18446744073709551616 := rfl
  simp only [Segment.vmEnd, addressLimit, limit]
  omega

theorem find?_eq_some_of_countP_le_one {α : Type} {p : α → Bool} : ∀ {l : List α} {s : α},
    l.countP p ≤ 1 → s ∈ l → p s = true → l.find? p = some s
  | x :: l, s, unique, mem, holds => by
    by_cases first : p x
    · rw [List.find?_cons_of_pos first]
      rcases List.mem_cons.1 mem with rfl | later
      · rfl
      · rw [List.countP_cons_of_pos first] at unique
        have : 0 < l.countP p := List.countP_pos_iff.2 ⟨s, later, holds⟩
        omega
    · rw [List.find?_cons_of_neg first]
      rcases List.mem_cons.1 mem with rfl | later
      · exact absurd holds first
      · rw [List.countP_cons_of_neg first] at unique
        exact find?_eq_some_of_countP_le_one unique later holds

/-- What a successful read guarantees about the segments of an image, in a file of `fileSize`
bytes. -/
structure LayoutSound (fileSize : Nat) (segments : List Segment) : Prop where
  segment_in_file : ∀ seg ∈ segments, seg.fileoff + seg.filesize ≤ fileSize
  segments_apart : segments.Pairwise Segment.Apart
  section_in_segment : ∀ seg ∈ segments, ∀ sect ∈ seg.sections,
    seg.vmaddr ≤ sect.addr ∧ sect.addr + sect.size ≤ seg.vmEnd
  backed_in_file : ∀ sect ∈ backedSections segments, sect.offset + sect.size ≤ fileSize
  backed_apart : (backedSections segments).Pairwise Section.Apart

theorem layoutSound_of_checks {fileSize : Nat} {segments : List Segment}
    (checked : checkSegments fileSize segments = .ok ())
    (separate : checkSectionOverlap segments = .ok ()) : LayoutSound fileSize segments := by
  obtain ⟨each, pairwise⟩ := checkSegments_eq_ok_iff.1 checked
  refine ⟨fun seg mem => (each seg mem).1, pairwise.imp Segment.apart_of_overlaps_eq_false,
    fun seg mem sect inSeg => ?_, fun sect mem => ?_, checkSectionOverlap_eq_ok_iff.1 separate⟩
  · obtain ⟨low, high, _⟩ := (each seg mem).2 sect inSeg
    exact ⟨low, high⟩
  · obtain ⟨inSegments, backed⟩ := List.mem_filter.1 mem
    obtain ⟨seg, segMem, inSeg⟩ := List.mem_flatMap.1 inSegments
    simp only [Bool.and_eq_true, Bool.not_eq_true', decide_eq_true_eq] at backed
    exact ((each seg segMem).2 sect inSeg).2.2 backed.1 backed.2

namespace LayoutSound

variable {fileSize : Nat} {segments : List Segment}

theorem section_end_lt_addressLimit (sound : LayoutSound fileSize segments) {seg : Segment}
    (mem : seg ∈ segments) {sect : Section} (inSeg : sect ∈ seg.sections) :
    sect.addr + sect.size < addressLimit :=
  Nat.lt_of_le_of_lt (sound.section_in_segment seg mem sect inSeg).2 (vmEnd_lt_addressLimit seg)

theorem countP_mapped_le_one (sound : LayoutSound fileSize segments) (address : Nat) :
    ((segments.flatMap (·.sections)).countP fun s => !s.isZerofill && s.contains address) ≤ 1 := by
  have same : ((segments.flatMap (·.sections)).countP fun s => !s.isZerofill && s.contains address) =
      (backedSections segments).countP (·.contains address) := by
    rw [backedSections, List.countP_filter]
    congr 1
    funext s
    by_cases inside : s.contains address
    · simp [inside, Section.size_pos_of_contains inside]
    · simp [inside]
  rw [same]
  exact Section.countP_contains_le_one sound.backed_apart address

end LayoutSound

/-- Reading an image checks its layout: its segments lie in the file and take up disjoint
addresses, its sections lie in their segments and end below the last 64-bit address, and the
sections the file backs lie in the file and take up disjoint addresses. Every address is therefore
backed by at most one section, which is the one `mappedSection?` finds. -/
theorem parse_layout_sound {arith : AddressArithmetic} {bytes : ByteArray} {img : MachImage}
    (parsed : parse arith bytes = .ok (.ok img)) :
    LayoutSound bytes.size img.segments ∧
      (∀ seg ∈ img.segments, ∀ sect ∈ seg.sections, sect.addr + sect.size < addressLimit) ∧
      ∀ address, (img.sections.countP fun s => !s.isZerofill && s.contains address) ≤ 1 ∧
        ∀ s ∈ img.sections, s.isZerofill = false → s.contains address = true →
          img.mappedSection? address = some s := by
  obtain ⟨laid, -⟩ := parse_eq_ok_ok parsed
  obtain ⟨-, -, -, checked, separate⟩ := layout_eq_ok_iff.1 laid
  have sound := layoutSound_of_checks checked separate
  refine ⟨sound, fun seg mem sect inSeg => sound.section_end_lt_addressLimit mem inSeg,
    fun address => ⟨sound.countP_mapped_le_one address, fun s mem backed inside => ?_⟩⟩
  exact find?_eq_some_of_countP_le_one (sound.countP_mapped_le_one address) mem
    (by simp [backed, inside])

/-! A sample image: a little-endian 64-bit x86 library of `0x140` bytes whose one segment,
`__TEXT`, maps the whole file at address `0x1000` and holds the given sections. -/

def littleEndianBytes (width n : Nat) : List UInt8 :=
  (List.range width).map fun i => (n / Nat.pow 256 i % 256).toUInt8

def nameField (name : String) : List UInt8 :=
  name.toList.map (·.toNat.toUInt8) ++ List.replicate (16 - name.length) 0

def sampleSection (name : String) (addr size offset : Nat) : Section :=
  ⟨name, "__TEXT", addr, size, offset, 0, 0, 0, 0, 0, 0, 0⟩

def sampleSegment (sections : List Section) : Segment :=
  ⟨.segment64, 72 + 80 * sections.length, "__TEXT", 0x1000, 0x1000, 0, 0x140, 7, 5,
    sections.length, 0, sections⟩

def sampleHeader (sections : List Section) : Header :=
  ⟨.little64, .x86_64, CpuSubType.ofRaw .x86_64 3, .dylib, 1, 72 + 80 * sections.length, 0⟩

/-- The bytes of the sample: header, segment command and section headers, then nuls. -/
def sampleFile (sections : List Section) : ByteArray :=
  let word (n : Nat) := littleEndianBytes 4 n
  let cmdsize := 72 + 80 * sections.length
  let header := word 0xfeedfacf ++ word 0x01000007 ++ word 3 ++ word 6 ++ word 1 ++ word cmdsize ++
    word 0 ++ word 0
  let segment := word 0x19 ++ word cmdsize ++ nameField "__TEXT" ++ littleEndianBytes 8 0x1000 ++
    littleEndianBytes 8 0x1000 ++ littleEndianBytes 8 0 ++ littleEndianBytes 8 0x140 ++ word 7 ++
    word 5 ++ word sections.length ++ word 0
  let headers := sections.flatMap fun s =>
    nameField s.sectname ++ nameField "__TEXT" ++ littleEndianBytes 8 s.addr ++
      littleEndianBytes 8 s.size ++ word s.offset ++ List.replicate 28 0
  let body := header ++ segment ++ headers
  ⟨(body ++ List.replicate (0x140 - body.length) 0).toArray⟩

def sampleImage (sections : List Section) : MachImage :=
  ⟨sampleFile sections, sampleHeader sections, (sampleHeader sections).architecture,
    [.segment (sampleSegment sections)], [sampleSegment sections], ⟨∅, 0x1000, false⟩, none, .checked⟩

def sampleSections : List Section :=
  [sampleSection "__text" 0x1110 0x10 0x110, sampleSection "__const" 0x1120 0x10 0x120]

theorem parse_sampleFile_of_layout {sections : List Section}
    (laid : layout (sampleFile sections) = .ok (sampleHeader sections,
      [.segment (sampleSegment sections)], [sampleSegment sections])) :
    parse .checked (sampleFile sections) = .ok (.ok (sampleImage sections)) := by
  simp only [parse, laid]
  rfl

theorem parse_sampleFile :
    parse .checked (sampleFile sampleSections) = .ok (.ok (sampleImage sampleSections)) :=
  parse_sampleFile_of_layout (layout_eq_ok_iff.2 ⟨by decide +kernel, by decide +kernel, rfl,
    by decide +kernel, checkSectionOverlap_eq_ok_iff.2 (by decide)⟩)

theorem parse_layout_sound_sample :
    parse .checked (sampleFile sampleSections) = .ok (.ok (sampleImage sampleSections)) ∧
      LayoutSound (sampleFile sampleSections).size (sampleImage sampleSections).segments ∧
      (∀ seg ∈ (sampleImage sampleSections).segments, ∀ sect ∈ seg.sections,
        sect.addr + sect.size < addressLimit) ∧
      ∀ address, ((sampleImage sampleSections).sections.countP fun s =>
          !s.isZerofill && s.contains address) ≤ 1 ∧
        ∀ s ∈ (sampleImage sampleSections).sections, s.isZerofill = false →
          s.contains address = true → (sampleImage sampleSections).mappedSection? address = some s :=
  ⟨parse_sampleFile, parse_layout_sound parse_sampleFile⟩

end MachImage

end ObjcImage
