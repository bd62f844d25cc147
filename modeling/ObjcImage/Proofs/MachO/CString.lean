import Mathlib
import ObjcImage.Proofs.MachO.Translate

set_option autoImplicit false

/-!
Reading a nul-terminated string at an address. The nul is looked for in the section that holds the
address only, so a string whose nul lies in the next section is refused as unmapped.
-/

namespace ObjcImage

namespace ByteStream

theorem takeCString_append_nul {text : List UInt8} (rest : List UInt8) (clear : 0 ∉ text) :
    takeCString (text ++ 0 :: rest) = (Text.lossyString text, rest) := by
  have nonzero : ∀ b ∈ text, (b != 0) = true := fun b mem => by
    have : b ≠ 0 := fun zero => clear (zero ▸ mem)
    simpa using this
  simp [takeCString, List.takeWhile_append_of_pos nonzero, List.dropWhile_append_of_pos nonzero]

end ByteStream

theorem idxOf?_zero_eq_some_iff {bytes : List UInt8} {n : Nat} :
    bytes.idxOf? 0 = some n ↔ ∃ text rest, bytes = text ++ 0 :: rest ∧ 0 ∉ text ∧ text.length = n := by
  rw [List.idxOf?_eq_some_iff]
  constructor
  · rintro ⟨bound, nul, before⟩
    refine ⟨bytes.take n, bytes.drop (n + 1), ?_, fun mem => ?_, by simp; omega⟩
    · conv => lhs; rw [← List.take_append_drop n bytes, List.drop_eq_getElem_cons bound, nul]
    · obtain ⟨j, within, found⟩ := List.mem_iff_getElem.1 mem
      rw [List.length_take] at within
      exact before j (by omega) (by simpa using found)
  · rintro ⟨text, rest, rfl, clear, rfl⟩
    refine ⟨by simp, by simp, fun j within found => clear ?_⟩
    rw [List.getElem_append_left within] at found
    exact found ▸ List.getElem_mem within

theorem exists_split_first_nul {bytes : List UInt8} (found : 0 ∈ bytes) :
    ∃ text rest, bytes = text ++ 0 :: rest ∧ 0 ∉ text := by
  obtain ⟨n, first⟩ := Option.isSome_iff_exists.1 (List.isSome_idxOf?.2 found)
  obtain ⟨text, rest, split, clear, -⟩ := idxOf?_zero_eq_some_iff.1 first
  exact ⟨text, rest, split, clear⟩

namespace MachImage

def bytesToEnd (img : MachImage) (s : Section) (address : Nat) : List UInt8 :=
  (img.bytes.extract (s.offset + (address - s.addr)) (s.offset + s.size)).data.toList

theorem extract_toList_take (bytes : ByteArray) {start stop k : Nat} (fits : start + k ≤ stop) :
    (bytes.extract start (start + k)).data.toList = (bytes.extract start stop).data.toList.take k := by
  simp only [ByteArray.data_extract, Array.toList_extract, List.extract_eq_take_drop,
    Nat.add_sub_cancel_left, List.take_take]
  congr 1
  omega

/-- What reading a nul-terminated string at `address` gives, said by the sections, the file bytes
and the encrypted range alone. -/
structure ReadsCStringExactly (img : MachImage) (address : Nat) : Prop where
  ok_iff : ∀ str, img.readCString address = .ok str ↔
    ∃ s ∈ img.sections, s.isZerofill = false ∧ s.contains address = true ∧
      ∃ text rest, img.bytesToEnd s address = text ++ 0 :: rest ∧ 0 ∉ text ∧
        ¬ img.MeetsEncrypted (s.offset + (address - s.addr)) (text.length + 1) ∧
        str = Text.lossyString text
  encrypted : (∃ s ∈ img.sections, s.isZerofill = false ∧ s.contains address = true ∧
      ∃ text rest, img.bytesToEnd s address = text ++ 0 :: rest ∧ 0 ∉ text ∧
        img.MeetsEncrypted (s.offset + (address - s.addr)) (text.length + 1)) →
    img.readCString address = .error (.encrypted address)
  unterminated : ∀ s ∈ img.sections, s.isZerofill = false → s.contains address = true →
    0 ∉ img.bytesToEnd s address →
    img.readCString address = .error (.unmapped address (s.size - (address - s.addr) + 1))
  unmapped : (¬ ∃ s ∈ img.sections, s.isZerofill = false ∧ s.contains address = true) →
    img.readCString address = .error (.unmapped address 1)

section Reads

variable {img : MachImage} {address : Nat} {s : Section}

theorem readCString_of_unmapped (unmapped : img.mappedSection? address = none) :
    img.readCString address = .error (.unmapped address 1) := by
  unfold readCString
  rw [unmapped]

theorem slice_bytesToEnd (sound : LayoutSound img.bytes.size img.segments)
    (mapped : img.mappedSection? address = some s) :
    Source.slice img.bytes (s.offset + (address - s.addr)) (s.size - (address - s.addr)) =
      .ok (img.bytesToEnd s address) := by
  obtain ⟨mem, backed, inside⟩ := mappedSection?_eq_some mapped
  have isBacked : s ∈ backedSections img.segments :=
    List.mem_filter.2 ⟨mem, by simp [backed, Section.size_pos_of_contains inside]⟩
  have inFile := sound.backed_in_file s isBacked
  simp only [Section.contains, Bool.and_eq_true, decide_eq_true_eq] at inside
  have ends : s.offset + (address - s.addr) + (s.size - (address - s.addr)) = s.offset + s.size := by
    omega
  simp only [Source.slice, ends, inFile, if_true, bytesToEnd]

theorem length_bytesToEnd (sound : LayoutSound img.bytes.size img.segments)
    (mapped : img.mappedSection? address = some s) :
    (img.bytesToEnd s address).length = s.size - (address - s.addr) := by
  obtain ⟨mem, backed, inside⟩ := mappedSection?_eq_some mapped
  have isBacked : s ∈ backedSections img.segments :=
    List.mem_filter.2 ⟨mem, by simp [backed, Section.size_pos_of_contains inside]⟩
  have inFile := sound.backed_in_file s isBacked
  simp only [Section.contains, Bool.and_eq_true, decide_eq_true_eq] at inside
  simp only [bytesToEnd, ByteArray.data_extract, Array.length_toList, Array.size_extract,
    ByteArray.size_data]
  omega

theorem readCString_of_unterminated (sound : LayoutSound img.bytes.size img.segments)
    (mapped : img.mappedSection? address = some s) (open_ : 0 ∉ img.bytesToEnd s address) :
    img.readCString address = .error (.unmapped address (s.size - (address - s.addr) + 1)) := by
  have missing : (img.bytesToEnd s address).idxOf? 0 = none := List.idxOf?_eq_none_iff.2 open_
  unfold readCString
  rw [mapped]
  dsimp only
  rw [slice_bytesToEnd sound mapped]
  dsimp only
  rw [missing]

theorem readCString_of_terminated (sound : LayoutSound img.bytes.size img.segments)
    (mapped : img.mappedSection? address = some s) {text rest : List UInt8}
    (split : img.bytesToEnd s address = text ++ 0 :: rest) (clear : 0 ∉ text) :
    img.readCString address =
      (img.translate address (text.length + 1)).map fun b => (ByteStream.takeCString b).1 := by
  have first : (img.bytesToEnd s address).idxOf? 0 = some text.length :=
    idxOf?_zero_eq_some_iff.2 ⟨text, rest, split, clear, rfl⟩
  unfold readCString
  rw [mapped]
  dsimp only
  rw [slice_bytesToEnd sound mapped]
  dsimp only
  rw [first]
  dsimp only
  cases img.translate address (text.length + 1) <;> rfl

theorem translate_string (sound : LayoutSound img.bytes.size img.segments)
    (ranged : ∀ start stop, img.encrypted = some (start, stop) → start < stop)
    (mapped : img.mappedSection? address = some s) {text rest : List UInt8}
    (split : img.bytesToEnd s address = text ++ 0 :: rest) :
    (img.MeetsEncrypted (s.offset + (address - s.addr)) (text.length + 1) →
        img.translate address (text.length + 1) = .error (.encrypted address)) ∧
      (¬ img.MeetsEncrypted (s.offset + (address - s.addr)) (text.length + 1) →
        img.translate address (text.length + 1) = .ok (text ++ [0])) := by
  have length := length_bytesToEnd sound mapped
  rw [split] at length
  simp only [List.length_append, List.length_cons] at length
  have fits : text.length + 1 ≤ s.size - (address - s.addr) := by omega
  have sized : max (text.length + 1) 1 = text.length + 1 := by omega
  have offsets := fileOffset_of_fits mapped fits ranged
  rw [sized] at offsets
  constructor
  · intro meets
    simp [translate, offsets.1 meets, bind, Except.bind]
  · intro clearOf
    obtain ⟨-, read⟩ := translate_of_fileOffset sound (offsets.2 clearOf)
    rw [read, extract_toList_take img.bytes (by omega : _ + (text.length + 1) ≤ s.offset + s.size)]
    have whole : (img.bytes.extract (s.offset + (address - s.addr)) (s.offset + s.size)).data.toList =
        text ++ 0 :: rest := split
    rw [whole]
    simp [List.take_append]

theorem readCString_eq_ok_iff_of_mapped (sound : LayoutSound img.bytes.size img.segments)
    (ranged : ∀ start stop, img.encrypted = some (start, stop) → start < stop)
    (mapped : img.mappedSection? address = some s) {str : String} :
    img.readCString address = .ok str ↔
      ∃ text rest, img.bytesToEnd s address = text ++ 0 :: rest ∧ 0 ∉ text ∧
        ¬ img.MeetsEncrypted (s.offset + (address - s.addr)) (text.length + 1) ∧
        str = Text.lossyString text := by
  constructor
  · intro read
    by_cases found : 0 ∈ img.bytesToEnd s address
    · obtain ⟨text, rest, split, clear⟩ := exists_split_first_nul found
      have strings := translate_string sound ranged mapped split
      rw [readCString_of_terminated sound mapped split clear] at read
      by_cases meets : img.MeetsEncrypted (s.offset + (address - s.addr)) (text.length + 1)
      · rw [strings.1 meets] at read
        cases read
      · rw [strings.2 meets] at read
        simp only [Except.map, ByteStream.takeCString_append_nul [] clear, Except.ok.injEq] at read
        exact ⟨text, rest, split, clear, meets, read.symm⟩
    · rw [readCString_of_unterminated sound mapped found] at read
      cases read
  · rintro ⟨text, rest, split, clear, meets, rfl⟩
    rw [readCString_of_terminated sound mapped split clear,
      (translate_string sound ranged mapped split).2 meets]
    simp [Except.map, ByteStream.takeCString_append_nul [] clear]

end Reads

/-- Reading a nul-terminated string stays inside one section. On an image that reads, the string
at `address` is read exactly when a section backed by the file holds the address, the section's
bytes from the address to its end hold a nul, and the text before it with the nul does not meet
the encrypted range; the string is then that text, decoded as UTF-8 with replacements. When only
the last condition fails the read is refused as encrypted; otherwise it is refused as unmapped,
also when the nul lies only in the section that follows. -/
theorem readCString_exact {arith : AddressArithmetic} {bytes : ByteArray} {img : MachImage}
    (parsed : parse arith bytes = .ok (.ok img)) (address : Nat) :
    img.ReadsCStringExactly address := by
  obtain ⟨sound, -, unique⟩ := parse_layout_sound parsed
  rw [← (parse_eq_ok_ok parsed).2] at sound
  have ranged : ∀ start stop, img.encrypted = some (start, stop) → start < stop := fun _ _ range =>
    encryptedRange_lt (encrypted_of_parse parsed ▸ range)
  -- a section that holds the address is the one `readCString` scans
  have finds : ∀ s ∈ img.sections, s.isZerofill = false → s.contains address = true →
      img.mappedSection? address = some s := (unique address).2
  refine ⟨fun str => ?_, ?_, ?_, ?_⟩
  · cases mapped : img.mappedSection? address with
    | none =>
      rw [readCString_of_unmapped mapped]
      simp only [reduceCtorEq, false_iff, not_exists, not_and]
      intro s mem backed inside
      rw [finds s mem backed inside] at mapped
      cases mapped
    | some s =>
      -- only the section found holds the address, so both sides are about its bytes
      obtain ⟨mem, backed, inside⟩ := mappedSection?_eq_some mapped
      rw [readCString_eq_ok_iff_of_mapped sound ranged mapped]
      constructor
      · intro read
        exact ⟨s, mem, backed, inside, read⟩
      · rintro ⟨s', mem', backed', inside', read⟩
        rw [finds s' mem' backed' inside', Option.some.injEq] at mapped
        exact mapped ▸ read
  · rintro ⟨s, mem, backed, inside, text, rest, split, clear, meets⟩
    have mapped := finds s mem backed inside
    rw [readCString_of_terminated sound mapped split clear,
      (translate_string sound ranged mapped split).1 meets]
    rfl
  · intro s mem backed inside open_
    exact readCString_of_unterminated sound (finds s mem backed inside) open_
  · intro none_
    cases mapped : img.mappedSection? address with
    | none => exact readCString_of_unmapped mapped
    | some s =>
      obtain ⟨mem, backed, inside⟩ := mappedSection?_eq_some mapped
      exact absurd ⟨s, mem, backed, inside⟩ none_

/-- Two sections of four bytes side by side at the start of the file: the first holds the magic
number, which has no nul, and the second the start of the CPU type, which has. -/
def headerSections : List Section :=
  [sampleSection "__magic" 0x1000 4 0, sampleSection "__cputype" 0x1004 4 4]

/-- The string at the first section's start is refused as unmapped, though the file's next nul
lies one byte into the next section. -/
theorem readCString_exact_headerSections :
    parse .checked (sampleFile headerSections) = .ok (.ok (sampleImage headerSections)) ∧
      (sampleImage headerSections).readCString 0x1000 = .error (.unmapped 0x1000 5) := by
  have parsed : parse .checked (sampleFile headerSections) = .ok (.ok (sampleImage headerSections)) :=
    parse_sampleFile_of_layout (layout_eq_ok_iff.2 ⟨by decide +kernel, by decide +kernel, rfl,
      by decide +kernel, checkSectionOverlap_eq_ok_iff.2 (by decide)⟩)
  have read := (readCString_exact parsed 0x1000).unterminated (sampleSection "__magic" 0x1000 4 0)
    (by simp [sections, sampleImage, sampleSegment, headerSections]) rfl rfl (by decide +kernel)
  exact ⟨parsed, read⟩

end MachImage

end ObjcImage
