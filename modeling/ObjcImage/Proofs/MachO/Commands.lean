import Mathlib
import ObjcImage.MachO.LoadCommand

set_option autoImplicit false

/-!
How the load commands are framed: the `k`-th command starts at the sum of the sizes before it, so
where it lies depends on every command before it.
-/

namespace ObjcImage

namespace LoadCommand

def commandArea (bytes : List UInt8) (h : Header) : List UInt8 := (bytes.drop h.size).take h.sizeofcmds

def sizeAt (e : Endian) (area : List UInt8) (offset : Nat) : Nat :=
  e.value ((area.drop (offset + 4)).take 4)

/-- A command of `size` bytes starts `offset` bytes into the area and reads as `c`: its kind and
size lie in the area, the size word says `size`, which covers those two words and stays inside the
area, and the command parser reads `c` from exactly those `size` bytes. -/
def CommandAt (e : Endian) (area : List UInt8) (offset size : Nat) (c : LoadCommand) : Prop :=
  offset + 8 ≤ area.length ∧ sizeAt e area offset = size ∧ 8 ≤ size ∧
    size ≤ area.length - offset ∧ parse e ((area.drop offset).take size) = some c

/-- The area holds the commands `cmds`, of sizes `sizes`, one after another from its start: the
`k`-th starts where the ones before it end. -/
def Framed (e : Endian) (area : List UInt8) (sizes : List Nat) (cmds : List LoadCommand) : Prop :=
  cmds.length = sizes.length ∧
    ∀ k (inSizes : k < sizes.length) (inCmds : k < cmds.length),
      CommandAt e area (sizes.take k).sum sizes[k] cmds[k]

theorem word_eq_some_iff {e : Endian} {width : Nat} {input rest : List UInt8} {v : Nat} :
    word e width input = some (v, rest) ↔
      width ≤ input.length ∧ v = e.value (input.take width) ∧ rest = input.drop width := by
  unfold word ByteStream.takeUInt
  by_cases short : input.length < width
  · simp [short, Except.toOption]
  · simp [short, Except.toOption, Nat.le_of_not_lt short, eq_comm]

theorem commandAt_drop {e : Endian} {area : List UInt8} {start offset size : Nat}
    {c : LoadCommand} :
    CommandAt e area (start + offset) size c ↔ CommandAt e (area.drop start) offset size c := by
  have sizeWord : area.drop (start + offset + 4) = (area.drop start).drop (offset + 4) := by
    rw [List.drop_drop, Nat.add_assoc]
  have window : area.drop (start + offset) = (area.drop start).drop offset := by
    rw [List.drop_drop]
  simp only [CommandAt, sizeAt, sizeWord, window, List.length_drop]
  constructor
  · rintro ⟨based, sized, least, fits, parsed⟩
    exact ⟨by omega, sized, least, by omega, parsed⟩
  · rintro ⟨based, sized, least, fits, parsed⟩
    exact ⟨by omega, sized, least, by omega, parsed⟩

theorem framed_nil_iff {e : Endian} {area : List UInt8} {cmds : List LoadCommand} :
    Framed e area [] cmds ↔ cmds = [] := by
  constructor
  · rintro ⟨length, -⟩
    exact List.eq_nil_of_length_eq_zero length
  · rintro rfl
    exact ⟨rfl, fun k inSizes => absurd inSizes (Nat.not_lt_zero k)⟩

theorem framed_cons_iff {e : Endian} {area : List UInt8} {size : Nat} {sizes : List Nat}
    {c : LoadCommand} {cmds : List LoadCommand} :
    Framed e area (size :: sizes) (c :: cmds) ↔
      CommandAt e area 0 size c ∧ Framed e (area.drop size) sizes cmds := by
  constructor
  · rintro ⟨length, each⟩
    refine ⟨each 0 (by simp) (by simp), by simpa using length, fun k inSizes inCmds => ?_⟩
    have later := each (k + 1) (by simp [inSizes]) (by simp [inCmds])
    simp only [List.take_succ_cons, List.sum_cons, List.getElem_cons_succ] at later
    exact commandAt_drop.1 later
  · rintro ⟨first, length, each⟩
    refine ⟨by simp [length], fun k inSizes inCmds => ?_⟩
    cases k with
    | zero => simpa using first
    | succ k =>
      simp only [List.take_succ_cons, List.sum_cons, List.getElem_cons_succ]
      exact commandAt_drop.2 (each k (by simpa using inSizes) (by simpa using inCmds))

theorem parseFrom_succ_of_commandAt {e : Endian} {index count size : Nat} {area : List UInt8}
    {c : LoadCommand} (frame : CommandAt e area 0 size c) :
    parseFrom e index (count + 1) area =
      (parseFrom e (index + 1) count (area.drop size)).map (c :: ·) := by
  obtain ⟨long, named, least, fits, reads⟩ := frame
  have kindWord : word e 4 area = some (e.value (area.take 4), area.drop 4) :=
    word_eq_some_iff.2 ⟨by omega, rfl, rfl⟩
  have sizeWord : word e 4 (area.drop 4) = some (size, (area.drop 4).drop 4) :=
    word_eq_some_iff.2 ⟨by simp only [List.length_drop]; omega, named.symm, rfl⟩
  have accepted : (decide (size < 8) || decide (size > area.length)) = false := by
    simp only [Bool.or_eq_false_iff, decide_eq_false_iff_not]
    omega
  rw [List.drop_zero] at reads
  rw [parseFrom, kindWord, sizeWord]
  simp only [accepted, Bool.false_eq_true, if_false, reads]
  cases parseFrom e (index + 1) count (area.drop size) <;> rfl

theorem commandAt_of_parseFrom_succ {e : Endian} {index count : Nat} {area : List UInt8}
    {cmds : List LoadCommand} (read : parseFrom e index (count + 1) area = .ok cmds) :
    ∃ size c, CommandAt e area 0 size c := by
  rw [parseFrom] at read
  split at read
  next raw afterKind cmdsize afterSize kindWord sizeWord =>
    obtain ⟨kindLength, -, -⟩ := word_eq_some_iff.1 kindWord
    obtain ⟨sizeLength, sized, -⟩ := word_eq_some_iff.1 sizeWord
    simp only [List.length_drop] at sizeLength
    split at read
    · cases read
    next accepted =>
      simp only [Bool.or_eq_true, decide_eq_true_eq, not_or, not_lt] at accepted
      split at read
      · cases read
      next c parsed =>
        exact ⟨cmdsize, c, by omega, by simp [sizeAt, sized], accepted.1, by omega,
          by simpa using parsed⟩
  · cases read

theorem parseFrom_succ_eq_ok_iff {e : Endian} {index count : Nat} {area : List UInt8}
    {cmds : List LoadCommand} :
    parseFrom e index (count + 1) area = .ok cmds ↔
      ∃ size c rest, CommandAt e area 0 size c ∧
        parseFrom e (index + 1) count (area.drop size) = .ok rest ∧ cmds = c :: rest := by
  constructor
  · intro read
    obtain ⟨size, c, frame⟩ := commandAt_of_parseFrom_succ read
    rw [parseFrom_succ_of_commandAt frame] at read
    cases later : parseFrom e (index + 1) count (area.drop size) with
    | error err =>
      rw [later] at read
      cases read
    | ok rest =>
      rw [later] at read
      exact ⟨size, c, rest, frame, later, (Except.ok.inj read).symm⟩
  · rintro ⟨size, c, rest, frame, later, rfl⟩
    rw [parseFrom_succ_of_commandAt frame, later]
    rfl

theorem parseFrom_eq_ok_iff {e : Endian} : ∀ {count index : Nat} {area : List UInt8}
    {cmds : List LoadCommand},
    parseFrom e index count area = .ok cmds ↔ ∃ sizes, sizes.length = count ∧ Framed e area sizes cmds
  | 0, index, area, cmds => by
    constructor
    · intro read
      simp only [parseFrom, Except.ok.injEq] at read
      exact ⟨[], rfl, framed_nil_iff.2 read.symm⟩
    · rintro ⟨sizes, length, framed⟩
      rw [List.eq_nil_of_length_eq_zero length, framed_nil_iff] at framed
      rw [framed]
      rfl
  | count + 1, index, area, cmds => by
    rw [parseFrom_succ_eq_ok_iff]
    constructor
    · rintro ⟨size, c, rest, first, later, rfl⟩
      obtain ⟨sizes, length, framed⟩ := parseFrom_eq_ok_iff.1 later
      exact ⟨size :: sizes, by simp [length], framed_cons_iff.2 ⟨first, framed⟩⟩
    · rintro ⟨sizes, length, framed⟩
      cases sizes with
      | nil => simp at length
      | cons size sizes =>
        cases cmds with
        | nil => exact absurd framed.1 (by simp)
        | cons c rest =>
          obtain ⟨first, framedRest⟩ := framed_cons_iff.1 framed
          exact ⟨size, c, rest, first,
            parseFrom_eq_ok_iff.2 ⟨sizes, by simpa using length, framedRest⟩, rfl⟩

theorem parseFrom_eq_error {e : Endian} : ∀ {count index : Nat} {area : List UInt8}
    {err : ImageError}, parseFrom e index count area = .error err → ∃ p, err = .malformedHeader p
  | 0, _, _, _, read => by simp [parseFrom] at read
  | count + 1, index, area, err, read => by
    rw [parseFrom] at read
    split at read
    · split at read
      · exact ⟨_, (Except.error.inj read).symm⟩
      · split at read
        · exact ⟨_, (Except.error.inj read).symm⟩
        · simp only [bind, Except.bind] at read
          split at read
          · next failed later =>
            rw [← Except.error.inj read]
            exact parseFrom_eq_error later
          · cases read
    · exact ⟨_, (Except.error.inj read).symm⟩

section Branches

variable {bytes : List UInt8} {h : Header}

theorem parseAll_of_exceeds (outside : bytes.length < h.size + h.sizeofcmds) :
    parseAll bytes h = .error (.malformedHeader (.commandsExceedImage h.sizeofcmds)) := by
  simp [parseAll, outside]

theorem parseAll_of_crowded (fits : h.size + h.sizeofcmds ≤ bytes.length)
    (crowded : h.sizeofcmds < h.ncmds * 8) :
    parseAll bytes h = .error (.malformedHeader (.tooManyCommands h.ncmds h.sizeofcmds)) := by
  simp [parseAll, Nat.not_lt.2 fits, crowded]

theorem parseAll_of_fits (fits : h.size + h.sizeofcmds ≤ bytes.length)
    (roomy : h.ncmds * 8 ≤ h.sizeofcmds) :
    parseAll bytes h = parseFrom h.magic.endian 0 h.ncmds (commandArea bytes h) := by
  simp [parseAll, commandArea, Nat.not_lt.2 fits, Nat.not_lt.2 roomy]

end Branches

/-- What reading the load commands after a header gives: the two refusals of the whole area, the
area's size, the areas that read with what they give, and that every refusal is of a malformed
header. -/
structure FramesCommands (bytes : List UInt8) (h : Header) : Prop where
  exceeds : bytes.length < h.size + h.sizeofcmds →
    parseAll bytes h = .error (.malformedHeader (.commandsExceedImage h.sizeofcmds))
  crowded : h.size + h.sizeofcmds ≤ bytes.length → h.sizeofcmds < h.ncmds * 8 →
    parseAll bytes h = .error (.malformedHeader (.tooManyCommands h.ncmds h.sizeofcmds))
  area_length : h.size + h.sizeofcmds ≤ bytes.length → (commandArea bytes h).length = h.sizeofcmds
  ok_iff : ∀ cmds, parseAll bytes h = .ok cmds ↔
    h.size + h.sizeofcmds ≤ bytes.length ∧ h.ncmds * 8 ≤ h.sizeofcmds ∧
      ∃ sizes, sizes.length = h.ncmds ∧ Framed h.magic.endian (commandArea bytes h) sizes cmds
  malformed : ∀ err, parseAll bytes h = .error err → ∃ p, err = .malformedHeader p

/-- Load commands are framed by their sizes. Reading the commands after a header is refused as a
malformed header, before any command is read, when the command area does not fit in the file or
is too small to hold `ncmds` commands of eight bytes. Otherwise it reads exactly when, for each
`k < ncmds`, the `k`-th command, at the sum of the sizes before it, has its kind and size in the
area, a size of at least eight bytes that stays in the area, and bytes the command parser reads;
the result is then the `ncmds` commands read from those windows, in order. -/
theorem parseAll_frames_commands (bytes : List UInt8) (h : Header) : FramesCommands bytes h := by
  refine ⟨parseAll_of_exceeds, parseAll_of_crowded, fun fits => ?_, fun cmds => ?_, fun err => ?_⟩
  · simp only [commandArea, List.length_take, List.length_drop]
    omega
  -- the three branches of the header's checks, each read through its own lemma
  · by_cases fits : h.size + h.sizeofcmds ≤ bytes.length
    · by_cases roomy : h.ncmds * 8 ≤ h.sizeofcmds
      · rw [parseAll_of_fits fits roomy, parseFrom_eq_ok_iff]
        exact ⟨fun framed => ⟨fits, roomy, framed⟩, fun ⟨_, _, framed⟩ => framed⟩
      · rw [parseAll_of_crowded fits (Nat.lt_of_not_le roomy)]
        simp [roomy]
    · rw [parseAll_of_exceeds (Nat.lt_of_not_le fits)]
      simp [fits]
  · unfold parseAll
    split
    · intro refused
      exact ⟨_, (Except.error.inj refused).symm⟩
    · split
      · intro refused
        exact ⟨_, (Except.error.inj refused).symm⟩
      · exact parseFrom_eq_error

end LoadCommand

end ObjcImage
