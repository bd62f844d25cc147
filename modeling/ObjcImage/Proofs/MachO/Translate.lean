import Mathlib
import ObjcImage.Proofs.MachO.Layout

set_option autoImplicit false

/-!
From an address to its file offset and back. Reading keeps the address ranges of the backed
sections apart but not their file ranges, so the way back leads to the first section backed by
the bytes.
-/

namespace ObjcImage

namespace Section

def FileApart (s t : Section) : Prop := s.offset + s.size ≤ t.offset ∨ t.offset + t.size ≤ s.offset

instance (s t : Section) : Decidable (s.FileApart t) := inferInstanceAs (Decidable (_ ∨ _))

/-- The section is backed by the file and holds the `size` bytes from `address` on. -/
def Backs (s : Section) (address size : Nat) : Prop :=
  s.isZerofill = false ∧ s.addr ≤ address ∧ address < s.addr + s.size ∧
    size ≤ s.addr + s.size - address

theorem backs_iff {s : Section} {address size : Nat} :
    s.Backs address size ↔
      s.isZerofill = false ∧ s.contains address = true ∧ size ≤ s.size - (address - s.addr) := by
  simp only [Backs, contains, Bool.and_eq_true, decide_eq_true_eq]
  constructor
  · rintro ⟨backed, low, high, fits⟩
    exact ⟨backed, ⟨low, by omega⟩, by omega⟩
  · rintro ⟨backed, ⟨low, high⟩, fits⟩
    exact ⟨backed, low, by omega, by omega⟩

end Section

/-- A slice is the run of the file's bytes from its offset on. Concrete images are evaluated in
this form: the kernel takes a run from a list far faster than it copies one out of an array. -/
theorem Source.slice_eq_take_drop (bytes : ByteArray) (offset size : Nat) :
    Source.slice bytes offset size =
      if offset + size ≤ bytes.size then .ok ((bytes.data.toList.drop offset).take size)
      else .error (.outOfBounds offset size bytes.size) := by
  simp only [Source.slice, ByteArray.data_extract, Array.toList_extract, List.extract_eq_take_drop,
    Nat.add_sub_cancel_left]

namespace MachImage

theorem encryptedRange_lt {commands : List LoadCommand} {start stop : Nat}
    (found : encryptedRange commands = some (start, stop)) : start < stop := by
  obtain ⟨c, -, ranged⟩ := List.exists_of_findSome?_eq_some found
  cases c with
  | encryptionInfo e =>
    simp only [EncryptionInfo.range?] at ranged
    split at ranged
    · cases ranged
    · next nonzero =>
      simp only [Bool.or_eq_true, beq_iff_eq, not_or] at nonzero
      cases ranged
      omega
  | _ => simp at ranged

theorem mappedSection?_eq_some {img : MachImage} {address : Nat} {s : Section}
    (mapped : img.mappedSection? address = some s) :
    s ∈ img.sections ∧ s.isZerofill = false ∧ s.contains address = true := by
  have holds := List.find?_some mapped
  simp only [Bool.and_eq_true, Bool.not_eq_true'] at holds
  exact ⟨List.mem_of_find?_eq_some mapped, holds⟩

theorem fileOffset_eq_ok {img : MachImage} {address size offset : Nat}
    (found : img.fileOffset address size = .ok offset) :
    ∃ s, img.mappedSection? address = some s ∧ size ≤ s.size - (address - s.addr) ∧
      offset = s.offset + (address - s.addr) := by
  unfold fileOffset at found
  split at found
  · contradiction
  · next s mapped =>
    refine ⟨s, mapped, ?_⟩
    by_cases exceeds : size > s.size - (address - s.addr)
    · simp [exceeds] at found
    · refine ⟨Nat.le_of_not_lt exceeds, ?_⟩
      simp only [exceeds, if_false] at found
      split at found
      · split at found
        · contradiction
        · exact (Except.ok.inj found).symm
      · exact (Except.ok.inj found).symm

theorem addressOfOffset_test {s : Section} {offset : Nat} :
    (!s.isZerofill && decide (s.offset ≤ offset) && decide (offset - s.offset < s.size)) = true ↔
      s.isZerofill = false ∧ s.offset ≤ offset ∧ offset - s.offset < s.size := by
  simp [Bool.and_assoc]

theorem countP_holdsOffset_le_one {segments : List Segment}
    (apart : (backedSections segments).Pairwise Section.FileApart) (offset : Nat) :
    ((segments.flatMap (·.sections)).countP fun s =>
      !s.isZerofill && decide (s.offset ≤ offset) && decide (offset - s.offset < s.size)) ≤ 1 := by
  have same : ((segments.flatMap (·.sections)).countP fun s =>
      !s.isZerofill && decide (s.offset ≤ offset) && decide (offset - s.offset < s.size)) =
      (backedSections segments).countP fun s => s.offset ≤ offset && offset - s.offset < s.size := by
    rw [backedSections, List.countP_filter]
    congr 1
    funext s
    by_cases inside : s.offset ≤ offset ∧ offset - s.offset < s.size
    · have sized : 0 < s.size := by omega
      simp [inside, sized, Bool.and_comm]
    · simp only [not_and] at inside
      by_cases low : s.offset ≤ offset
      · simp [low, inside low]
      · simp [low]
  rw [same]
  exact countP_range_le_one Section.offset Section.size apart offset

/-- The way back from a file offset. For an address whose range `fileOffset` maps, `addressOfOffset`
finds a backed section whose file range holds the offset and answers the address that section
gives it; when the backed sections' file ranges are pairwise apart, that is the address itself. -/
theorem addressOfOffset_fileOffset {img : MachImage} {address size offset : Nat}
    (found : img.fileOffset address size = .ok offset) :
    (∃ t ∈ img.sections, t.isZerofill = false ∧ t.offset ≤ offset ∧ offset - t.offset < t.size ∧
      img.addressOfOffset offset = some (t.addr + (offset - t.offset))) ∧
    ((backedSections img.segments).Pairwise Section.FileApart →
      img.addressOfOffset offset = some address) := by
  obtain ⟨s, mapped, -, located⟩ := fileOffset_eq_ok found
  obtain ⟨mem, backed, inside⟩ := mappedSection?_eq_some mapped
  simp only [Section.contains, Bool.and_eq_true, decide_eq_true_eq] at inside
  have holds : (!s.isZerofill && decide (s.offset ≤ offset) &&
      decide (offset - s.offset < s.size)) = true :=
    addressOfOffset_test.2 ⟨backed, by omega, by omega⟩
  constructor
  · cases first : img.sections.find? (fun t => !t.isZerofill && decide (t.offset ≤ offset) &&
        decide (offset - t.offset < t.size)) with
    | none => exact absurd holds (by simpa using List.find?_eq_none.1 first s mem)
    | some t =>
      have tHolds := List.find?_some first
      obtain ⟨tBacked, low, high⟩ := addressOfOffset_test.1 tHolds
      exact ⟨t, List.mem_of_find?_eq_some first, tBacked, low, high, by
        simp only [addressOfOffset, first, Option.map_some]⟩
  · intro apart
    have first := find?_eq_some_of_countP_le_one (countP_holdsOffset_le_one apart offset) mem holds
    simp only [addressOfOffset, sections] at first ⊢
    rw [first]
    simp only [Option.map_some, Option.some.injEq]
    omega

theorem addressOfOffset_fileOffset_sample :
    (sampleImage sampleSections).fileOffset 0x1124 4 = .ok 0x124 ∧
      (backedSections (sampleImage sampleSections).segments).Pairwise Section.FileApart ∧
      (∃ t ∈ (sampleImage sampleSections).sections, t.isZerofill = false ∧ t.offset ≤ 0x124 ∧
        0x124 - t.offset < t.size ∧
        (sampleImage sampleSections).addressOfOffset 0x124 = some (t.addr + (0x124 - t.offset))) ∧
      (sampleImage sampleSections).addressOfOffset 0x124 = some 0x1124 :=
  have found : (sampleImage sampleSections).fileOffset 0x1124 4 = .ok 0x124 := by decide
  have apart : (backedSections (sampleImage sampleSections).segments).Pairwise Section.FileApart := by
    decide
  ⟨found, apart, (addressOfOffset_fileOffset found).1, (addressOfOffset_fileOffset found).2 apart⟩

def aliasedSections : List Section :=
  [sampleSection "__text" 0x1110 0x10 0x110, sampleSection "__alias" 0x1120 0x10 0x110]

/-- The way back need not return to the address: `0x1120` lies at offset `0x110`, which leads back
to `0x1110`, the address of the first section backed by that byte. -/
theorem addressOfOffset_aliased :
    parse .checked (sampleFile aliasedSections) = .ok (.ok (sampleImage aliasedSections)) ∧
      (sampleImage aliasedSections).fileOffset 0x1120 1 = .ok 0x110 ∧
      (sampleImage aliasedSections).addressOfOffset 0x110 = some 0x1110 :=
  ⟨parse_sampleFile_of_layout (layout_eq_ok_iff.2 ⟨by decide +kernel, by decide +kernel, rfl,
    by decide +kernel, checkSectionOverlap_eq_ok_iff.2 (by decide)⟩), by decide, by decide⟩

def MeetsEncrypted (img : MachImage) (offset length : Nat) : Prop :=
  ∃ start stop, img.encrypted = some (start, stop) ∧
    ∃ x, offset ≤ x ∧ x < offset + length ∧ start ≤ x ∧ x < stop

theorem meetsEncrypted_iff {img : MachImage} {start stop : Nat}
    (range : img.encrypted = some (start, stop)) (nonempty : start < stop) {offset length : Nat}
    (sized : 0 < length) :
    img.MeetsEncrypted offset length ↔ offset < stop ∧ start < offset + length := by
  constructor
  · rintro ⟨start', stop', range', x, low, high, low', high'⟩
    rw [range] at range'
    obtain ⟨rfl, rfl⟩ := Prod.mk.inj (Option.some.inj range')
    omega
  · rintro ⟨before, after⟩
    exact ⟨start, stop, range, max offset start, by omega, by omega, by omega, by omega⟩

theorem encrypted_of_parse {arith : AddressArithmetic} {bytes : ByteArray} {img : MachImage}
    (parsed : parse arith bytes = .ok (.ok img)) : img.encrypted = encryptedRange img.commands := by
  unfold parse at parsed
  split at parsed
  · simp at parsed
  · next header commands segments laid =>
    cases built : FixupTable.build arith bytes header.architecture segments commands with
    | error f => simp [built, Except.map] at parsed
    | ok fixups =>
      simp only [built, Except.map, Except.ok.injEq] at parsed
      subst parsed
      rfl

theorem fileOffset_of_fits {img : MachImage} {address size : Nat} {s : Section}
    (mapped : img.mappedSection? address = some s) (fits : size ≤ s.size - (address - s.addr))
    (ranged : ∀ start stop, img.encrypted = some (start, stop) → start < stop) :
    (img.MeetsEncrypted (s.offset + (address - s.addr)) (max size 1) →
        img.fileOffset address size = .error (.encrypted address)) ∧
      (¬ img.MeetsEncrypted (s.offset + (address - s.addr)) (max size 1) →
        img.fileOffset address size = .ok (s.offset + (address - s.addr))) := by
  have within : ¬ size > s.size - (address - s.addr) := Nat.not_lt.2 fits
  unfold fileOffset
  simp only [mapped, within, if_false]
  cases range : img.encrypted with
  | none =>
    have never : ¬ img.MeetsEncrypted (s.offset + (address - s.addr)) (max size 1) := by
      rintro ⟨_, _, found, -⟩
      rw [range] at found
      cases found
    exact ⟨fun meets => absurd meets never, fun _ => rfl⟩
  | some bounds =>
    obtain ⟨start, stop⟩ := bounds
    rw [meetsEncrypted_iff range (ranged start stop range) (by omega)]
    dsimp only
    by_cases hit : s.offset + (address - s.addr) < stop ∧ start < s.offset + (address - s.addr) + max size 1
    · simp [hit]
    · simp only [Bool.and_eq_true, decide_eq_true_eq] at hit ⊢
      simp [hit]


theorem fileOffset_of_not_backs {img : MachImage} {address size : Nat}
    (none_ : ∀ s ∈ img.sections, ¬ s.Backs address size) :
    img.fileOffset address size = .error (.unmapped address size) := by
  unfold fileOffset
  cases mapped : img.mappedSection? address with
  | none => rfl
  | some s =>
    obtain ⟨mem, backed, inside⟩ := mappedSection?_eq_some mapped
    have exceeds : size > s.size - (address - s.addr) := by
      by_contra fits
      exact none_ s mem (Section.backs_iff.2 ⟨backed, inside, Nat.le_of_not_lt fits⟩)
    simp [exceeds]

theorem translate_of_fileOffset {img : MachImage} (sound : LayoutSound img.bytes.size img.segments)
    {address size offset : Nat} (found : img.fileOffset address size = .ok offset) :
    offset + size ≤ img.bytes.size ∧
      img.translate address size = .ok (img.bytes.extract offset (offset + size)).data.toList := by
  obtain ⟨s, mapped, fits, rfl⟩ := fileOffset_eq_ok found
  obtain ⟨mem, backed, inside⟩ := mappedSection?_eq_some mapped
  have isBacked : s ∈ backedSections img.segments :=
    List.mem_filter.2 ⟨mem, by simp [backed, Section.size_pos_of_contains inside]⟩
  have inFile := sound.backed_in_file s isBacked
  simp only [Section.contains, Bool.and_eq_true, decide_eq_true_eq] at inside
  have bound : s.offset + (address - s.addr) + size ≤ img.bytes.size := by omega
  refine ⟨bound, ?_⟩
  simp [translate, found, Source.slice, bound, bind, Except.bind, pure, Except.pure]

theorem readUInt_eq_map_translate {img : MachImage} (sound : LayoutSound img.bytes.size img.segments)
    (address width : Nat) :
    img.readUInt address width = (img.translate address width).map img.arch.endian.value := by
  cases found : img.fileOffset address width with
  | error e => simp [readUInt, translate, found, bind, Except.bind, Except.map]
  | ok offset =>
    obtain ⟨bound, translated⟩ := translate_of_fileOffset sound found
    rw [translated]
    simp [readUInt, found, Source.readWord, Source.slice, bound, bind, Except.bind, Except.map]

/-- What reading `size` bytes at `address` gives, said by the image's sections and encrypted range
alone. -/
structure TranslatesExactly (img : MachImage) (address size : Nat) : Prop where
  ok_iff : ∀ offset, img.fileOffset address size = .ok offset ↔
    ∃ s ∈ img.sections, s.Backs address size ∧ offset = s.offset + (address - s.addr) ∧
      ¬ img.MeetsEncrypted offset (max size 1)
  encrypted : (∃ s ∈ img.sections, s.Backs address size ∧
      img.MeetsEncrypted (s.offset + (address - s.addr)) (max size 1)) →
    img.fileOffset address size = .error (.encrypted address)
  unmapped : (¬ ∃ s ∈ img.sections, s.Backs address size) →
    img.fileOffset address size = .error (.unmapped address size)
  translate : ∀ offset, img.fileOffset address size = .ok offset →
    offset + size ≤ img.bytes.size ∧
      img.translate address size = .ok (img.bytes.extract offset (offset + size)).data.toList

theorem translatesExactly {arith : AddressArithmetic} {bytes : ByteArray} {img : MachImage}
    (parsed : parse arith bytes = .ok (.ok img)) (address size : Nat) :
    img.TranslatesExactly address size := by
  obtain ⟨sound, -, unique⟩ := parse_layout_sound parsed
  rw [← (parse_eq_ok_ok parsed).2] at sound
  have ranged : ∀ start stop, img.encrypted = some (start, stop) → start < stop := fun _ _ range =>
    encryptedRange_lt (encrypted_of_parse parsed ▸ range)
  -- a section that backs the range is the one `mappedSection?` finds
  have finds : ∀ s ∈ img.sections, s.Backs address size →
      img.mappedSection? address = some s ∧ size ≤ s.size - (address - s.addr) := by
    intro s mem backs
    obtain ⟨backed, inside, fits⟩ := Section.backs_iff.1 backs
    exact ⟨(unique address).2 s mem backed inside, fits⟩
  refine ⟨fun offset => ⟨fun found => ?_, ?_⟩, ?_, fun none_ => ?_, fun _ => translate_of_fileOffset sound⟩
  · obtain ⟨s, mapped, fits, rfl⟩ := fileOffset_eq_ok found
    obtain ⟨mem, backed, inside⟩ := mappedSection?_eq_some mapped
    refine ⟨s, mem, Section.backs_iff.2 ⟨backed, inside, fits⟩, rfl, fun meets => ?_⟩
    rw [((fileOffset_of_fits mapped fits ranged).1 meets)] at found
    cases found
  · rintro ⟨s, mem, backs, rfl, clear⟩
    obtain ⟨mapped, fits⟩ := finds s mem backs
    exact (fileOffset_of_fits mapped fits ranged).2 clear
  · rintro ⟨s, mem, backs, meets⟩
    obtain ⟨mapped, fits⟩ := finds s mem backs
    exact (fileOffset_of_fits mapped fits ranged).1 meets
  · exact fileOffset_of_not_backs fun s mem backs => none_ ⟨s, mem, backs⟩

/-- Address translation is exact. On an image that reads, `size` bytes at `address` have a file
offset exactly when a section backed by the file holds them and they do not meet the encrypted
range, at the address's distance from that section's start; the read is refused as encrypted when
such a section holds them but they meet the range, and as unmapped otherwise. The bytes then lie in
the file and are what the read gives, and words are read from them in the image's byte order. -/
theorem translate_exact {arith : AddressArithmetic} {bytes : ByteArray} {img : MachImage}
    (parsed : parse arith bytes = .ok (.ok img)) :
    (∀ address size, img.TranslatesExactly address size) ∧
      ∀ address, img.readU32 address = (img.translate address 4).map img.arch.endian.value ∧
        img.readU64 address = (img.translate address 8).map img.arch.endian.value ∧
        img.readWord address =
          (img.translate address img.arch.pointerWidth).map img.arch.endian.value := by
  have sound := (parse_layout_sound parsed).1
  rw [← (parse_eq_ok_ok parsed).2] at sound
  exact ⟨translatesExactly parsed, fun address => ⟨readUInt_eq_map_translate sound address 4,
    readUInt_eq_map_translate sound address 8,
    readUInt_eq_map_translate sound address img.arch.pointerWidth⟩⟩

theorem translate_exact_sample :
    parse .checked (sampleFile sampleSections) = .ok (.ok (sampleImage sampleSections)) ∧
      (∀ address size, (sampleImage sampleSections).TranslatesExactly address size) ∧
      ∀ address, (sampleImage sampleSections).readU32 address =
          ((sampleImage sampleSections).translate address 4).map
            (sampleImage sampleSections).arch.endian.value ∧
        (sampleImage sampleSections).readU64 address =
          ((sampleImage sampleSections).translate address 8).map
            (sampleImage sampleSections).arch.endian.value ∧
        (sampleImage sampleSections).readWord address =
          ((sampleImage sampleSections).translate address
            (sampleImage sampleSections).arch.pointerWidth).map
            (sampleImage sampleSections).arch.endian.value :=
  ⟨parse_sampleFile, translate_exact parse_sampleFile⟩

end MachImage

end ObjcImage
