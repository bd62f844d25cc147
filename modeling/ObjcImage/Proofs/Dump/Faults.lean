import Mathlib
import ObjcImage.Dump
import ObjcImage.Proofs.MachO.Layout

set_option autoImplicit false

/-!
Where reading and dumping a file fault. A chain's slot lies at its segment's address plus a
distance bounded by the file's size, not the segment's, so a segment at the top of the address
space can put a slot at `2^64`.
-/

namespace ObjcImage

theorem Except.map_eq_error_iff {ε α β : Type} {g : α → β} {t : Except ε α} {e : ε} :
    t.map g = .error e ↔ t = .error e := by
  cases t <;> simp [Except.map]

theorem mapM_eq_error_iff {α β : Type} {g : α → Except AddressFault β} {f : AddressFault} :
    ∀ {l : List α}, l.mapM g = .error f ↔ ∃ a ∈ l, ∃ f', g a = .error f'
  | [] => by simp [pure, Except.pure]
  | a :: l => by
    rw [List.mapM_cons]
    cases head : g a with
    | error f' =>
      cases f; cases f'
      simp only [bind, Except.bind, true_iff]
      exact ⟨a, List.mem_cons_self .., _, head⟩
    | ok b =>
      simp only [bind, Except.bind, List.mem_cons, exists_eq_or_imp, head, reduceCtorEq,
        exists_false, false_or]
      rw [← @mapM_eq_error_iff α β g f l]
      cases l.mapM g with
      | error f' => cases f; cases f'; simp
      | ok bs => simp [pure, Except.pure]

theorem bind_pure_eq_error_iff {ε α β : Type} {x : Except ε α} {k : α → β} {e : ε} :
    (x >>= fun a => pure (k a)) = .error e ↔ x = .error e := by
  cases x <;> simp [bind, Except.bind, pure, Except.pure]

namespace AddressArithmetic

theorem checked_fit_eq_error_iff {a : Nat} {f : AddressFault} :
    checked.fit a = .error f ↔ addressLimit ≤ a := by
  cases f
  by_cases fits : a < addressLimit <;> simp [fit, fits]
  all_goals omega

end AddressArithmetic

namespace FixupTable

theorem chainWrites_head {bytes : ByteArray} {e : Endian} {seg : Segment} {format : PointerFormat}
    {imports : List ChainedImport} {imageBase delta raw : Nat} {pointer : ChainedPointer}
    {next : Nat}
    (read : Source.readWord bytes e (seg.fileoff + delta) (if format.isNarrow then 4 else 8) =
      .ok raw)
    (decoded : ChainedPointer.decode raw format = some (pointer, next)) :
    ∃ v, (seg.vmaddr + delta, v) ∈ chainWrites bytes e seg format imports imageBase delta := by
  rw [chainWrites]
  split
  · next fault hr => simp [read] at hr
  · next raw' hr =>
    simp only [read, Except.ok.injEq] at hr
    subst hr
    simp only [decoded]
    cases next <;> simp

theorem mem_commandWrites_of_chain {bytes : ByteArray} {arch : Architecture}
    {segments : List Segment} {imageBase cmdsize off size : Nat} {blob : List UInt8}
    {fx : ChainedFixups} {starts : SegmentStarts} {seg : Segment} {page offset : Nat}
    {w : Nat × SlotValue}
    (sliced : Source.slice bytes off size = .ok blob)
    (parsed : parseChainedFixups arch.endian blob = .ok fx)
    (listed : starts ∈ fx.starts.segments) (found : segments[starts.segment]? = some seg)
    (started : (page, offset) ∈ starts.pageStarts)
    (written : w ∈ chainWrites bytes arch.endian seg starts.format fx.imports imageBase
      (page * starts.pageSize + offset)) :
    w ∈ commandWrites bytes arch segments imageBase (.chainedFixups cmdsize off size) := by
  simp only [commandWrites, sliced, parsed, chainedWrites, List.mem_flatMap]
  refine ⟨starts, listed, ?_⟩
  simp only [found, List.mem_flatMap]
  exact ⟨(page, offset), started, written⟩

/-- Building the table of an image faults exactly when one of the slots its fixups write lies at
or past the last 64-bit address. -/
theorem build_checked_eq_error_iff {bytes : ByteArray} {arch : Architecture}
    {segments : List Segment} {commands : List LoadCommand} {f : AddressFault} :
    build .checked bytes arch segments commands = .error f ↔
      ∃ w ∈ commands.flatMap (commandWrites bytes arch segments (imageBaseOf segments)),
        addressLimit ≤ w.1 := by
  -- The table is built once every slot address has been fitted into 64 bits.
  have fitted : ∀ slot (v : SlotValue) f', ((AddressArithmetic.checked.fit slot).map fun s => (s, v)) =
      .error f' ↔ addressLimit ≤ slot := fun _ _ _ =>
    Except.map_eq_error_iff.trans AddressArithmetic.checked_fit_eq_error_iff
  simp only [build, bind_pure_eq_error_iff]
  refine mapM_eq_error_iff.trans (exists_congr fun ⟨slot, v⟩ => and_congr_right fun _ => ?_)
  exact ⟨fun ⟨f', faults⟩ => (fitted slot v f').1 faults, fun past => ⟨f, (fitted slot v f).2 past⟩⟩

end FixupTable

namespace MachImage

theorem parse_checked_eq_error_iff {bytes : ByteArray} {f : AddressFault} :
    parse .checked bytes = .error f ↔
      ∃ header commands segments, layout bytes = .ok (header, commands, segments) ∧
        ∃ w ∈ commands.flatMap (FixupTable.commandWrites bytes header.architecture segments
          (FixupTable.imageBaseOf segments)), addressLimit ≤ w.1 := by
  unfold parse
  split
  · next e laid => simp [laid]
  · next header commands segments laid =>
    simp only [Except.map_eq_error_iff, FixupTable.build_checked_eq_error_iff]
    constructor
    · intro past
      exact ⟨header, commands, segments, laid, past⟩
    · rintro ⟨h, c, s, again, past⟩
      rw [laid] at again
      cases again
      exact past

end MachImage

theorem dump_eq_error_of_parse_eq_error {arith : AddressArithmetic} {bytes : ByteArray}
    {o : DumpOptions} {f : AddressFault} (thin : MachFile.parse bytes = .ok (.thin bytes))
    (faults : MachImage.parse arith bytes = .error f) : dump arith bytes o = .error f := by
  simp [dump, thin, MachFile.slices, faults, bind, Except.bind]

theorem dump_checked_eq_error_iff_of_parse {bytes : ByteArray} {o : DumpOptions} {img : MachImage}
    (thin : MachFile.parse bytes = .ok (.thin bytes))
    (parsed : MachImage.parse .checked bytes = .ok (.ok img)) :
    dump .checked bytes o = .error .addressOverflow ↔
      (o.arch = none ∨ o.arch = some img.arch.name) ∧ walk img o.listPolicy = .error .addressOverflow := by
  have walked : dumpImage img o = .error .addressOverflow ↔
      walk img o.listPolicy = .error .addressOverflow := Except.map_eq_error_iff
  simp only [dump, thin, MachFile.slices, parsed]
  cases picked : o.arch with
  | none =>
    simp [bind, Except.bind, pure, Except.pure]
    rw [← walked]
    cases dumpImage img o <;> simp
  | some a =>
    -- A slice of another architecture is filtered out, and the dump answers with an error value.
    by_cases same : img.arch.name = a
    · simp [same, bind, Except.bind, pure, Except.pure]
      rw [← walked]
      cases dumpImage img o <;> simp
    · simp [same, Ne.symm same, bind, Except.bind, pure, Except.pure]

/-- When dumping a thin file faults: its image lays out and one of the slots its fixups write lies
past the last 64-bit address, or the image reads, its slice is kept and walking it faults. -/
theorem dump_checked_eq_error_iff {bytes : ByteArray} (thin : MachFile.parse bytes = .ok (.thin bytes))
    (o : DumpOptions) :
    dump .checked bytes o = .error .addressOverflow ↔
      (∃ header commands segments, MachImage.layout bytes = .ok (header, commands, segments) ∧
        ∃ w ∈ commands.flatMap (FixupTable.commandWrites bytes header.architecture segments
          (FixupTable.imageBaseOf segments)), addressLimit ≤ w.1) ∨
      ∃ img, MachImage.parse .checked bytes = .ok (.ok img) ∧
        (o.arch = none ∨ o.arch = some img.arch.name) ∧ walk img o.listPolicy = .error .addressOverflow := by
  rw [← @MachImage.parse_checked_eq_error_iff bytes .addressOverflow]
  cases parsed : MachImage.parse .checked bytes with
  | error f =>
    cases f
    simp [dump_eq_error_of_parse_eq_error thin parsed]
  | ok image =>
    cases image with
    | error e =>
      -- An image that does not read is dumped as an error value, never as a fault.
      simp only [dump, thin, MachFile.slices, parsed]
      cases picked : o.arch with
      | none => simp [bind, Except.bind, pure, Except.pure]
      | some a =>
        by_cases same : "unknown" = a <;> simp [same, bind, Except.bind, pure, Except.pure]
    | ok img => simp [dump_checked_eq_error_iff_of_parse thin parsed]

/-! A library whose one segment takes the last sixteen 64-bit addresses and whose chained fixups
start a chain sixteen bytes into that segment, so that the chain's slot lies at `2^64`. -/

def topSegment : Segment :=
  ⟨.segment64, 72, "__TEXT", 0xfffffffffffffff0, 0x10, 0, 0xc0, 7, 5, 0, 0, []⟩

def topHeader : Header :=
  ⟨.little64, .x86_64, CpuSubType.ofRaw .x86_64 3, .dylib, 2, 88, 0⟩

/-- The chained fixups payload: a header with no imports, starts for segment 0 only, and one page
whose chain starts at offset `0x10`. -/
def topBlob : List UInt8 :=
  let word (n : Nat) := MachImage.littleEndianBytes 4 n
  let half (n : Nat) := MachImage.littleEndianBytes 2 n
  word 0 ++ word 0x20 ++ word 0x40 ++ word 0x40 ++ word 0 ++ word 1 ++ word 0 ++ word 0 ++
    word 1 ++ word 8 ++
    word 24 ++ half 0x1000 ++ half 2 ++ MachImage.littleEndianBytes 8 0 ++ word 0 ++ half 1 ++
      half 0x10

def topFile : ByteArray :=
  let word (n : Nat) := MachImage.littleEndianBytes 4 n
  let header := word 0xfeedfacf ++ word 0x01000007 ++ word 3 ++ word 6 ++ word 2 ++ word 88 ++
    word 0 ++ word 0
  let segment := word 0x19 ++ word 72 ++ MachImage.nameField "__TEXT" ++
    MachImage.littleEndianBytes 8 0xfffffffffffffff0 ++ MachImage.littleEndianBytes 8 0x10 ++
    MachImage.littleEndianBytes 8 0 ++ MachImage.littleEndianBytes 8 0xc0 ++ word 7 ++ word 5 ++
    word 0 ++ word 0
  let fixups := word 0x80000034 ++ word 16 ++ word 0x80 ++ word 0x40
  ⟨(header ++ segment ++ fixups ++ List.replicate 8 0 ++ topBlob).toArray⟩

set_option maxRecDepth 20000 in
example : topFile.size = 0xc0 := by decide

set_option maxRecDepth 8000 in
theorem topFile_thin : MachFile.parse topFile = .ok (.thin topFile) := by rfl

theorem topFile_layout : MachImage.layout topFile =
    .ok (topHeader, [.segment topSegment, .chainedFixups 16 0x80 0x40], [topSegment]) :=
  MachImage.layout_eq_ok_iff.2 ⟨by decide +kernel, by decide +kernel, rfl, by decide +kernel,
    MachImage.checkSectionOverlap_eq_ok_iff.2 (by decide)⟩

set_option maxRecDepth 20000 in
theorem topBlob_slice : Source.slice topFile 0x80 0x40 = .ok topBlob := by decide

set_option maxRecDepth 8000 in
theorem topBlob_parse : ∃ fx, parseChainedFixups .little topBlob = .ok fx ∧
    fx.imports = [] ∧ fx.starts.segments = [⟨0, 24, 0x1000, .ptr64, 0, 0, 1, [(0, 0x10)]⟩] :=
  ⟨_, rfl, rfl, rfl⟩

set_option maxRecDepth 20000 in
theorem topFile_parse_checked : MachImage.parse .checked topFile = .error .addressOverflow := by
  obtain ⟨fx, parsed, noImports, onlyStarts⟩ := topBlob_parse
  have read : Source.readWord topFile .little (topSegment.fileoff + (0 * 0x1000 + 0x10))
      (if PointerFormat.ptr64.isNarrow then 4 else 8) = .ok 0x5800000002 := by decide
  have decoded : ∃ p, ChainedPointer.decode 0x5800000002 .ptr64 = some (p, 0) := ⟨_, rfl⟩
  obtain ⟨p, decoded⟩ := decoded
  have head : ∃ v, (topSegment.vmaddr + (0 * 0x1000 + 0x10), v) ∈
      FixupTable.chainWrites topFile .little topSegment .ptr64 fx.imports
        (FixupTable.imageBaseOf [topSegment]) (0 * 0x1000 + 0x10) :=
    FixupTable.chainWrites_head read decoded
  obtain ⟨v, head⟩ := head
  have listed : (⟨0, 24, 0x1000, .ptr64, 0, 0, 1, [(0, 0x10)]⟩ : SegmentStarts) ∈
      fx.starts.segments := by simp [onlyStarts]
  have written : (topSegment.vmaddr + (0 * 0x1000 + 0x10), v) ∈
      FixupTable.commandWrites topFile topHeader.architecture [topSegment]
        (FixupTable.imageBaseOf [topSegment]) (.chainedFixups 16 0x80 0x40) :=
    FixupTable.mem_commandWrites_of_chain topBlob_slice parsed listed rfl (by simp) head
  refine MachImage.parse_checked_eq_error_iff.2 ⟨_, _, _, topFile_layout, _,
    List.mem_flatMap.2 ⟨_, by simp, written⟩, ?_⟩
  show addressLimit ≤ 0xfffffffffffffff0 + (0 * 0x1000 + 0x10)
  decide

/-- Dumping the sample faults. -/
theorem dump_checked_topFile : dump .checked topFile {} = .error .addressOverflow :=
  dump_eq_error_of_parse_eq_error topFile_thin topFile_parse_checked

theorem dump_checked_eq_error_iff_top :
    MachFile.parse topFile = .ok (.thin topFile) ∧
      (dump .checked topFile {} = .error .addressOverflow ↔
        (∃ header commands segments, MachImage.layout topFile = .ok (header, commands, segments) ∧
          ∃ w ∈ commands.flatMap (FixupTable.commandWrites topFile header.architecture segments
            (FixupTable.imageBaseOf segments)), addressLimit ≤ w.1) ∨
        ∃ img, MachImage.parse .checked topFile = .ok (.ok img) ∧
          (({} : DumpOptions).arch = none ∨ ({} : DumpOptions).arch = some img.arch.name) ∧
          walk img ({} : DumpOptions).listPolicy = .error .addressOverflow) :=
  ⟨topFile_thin, dump_checked_eq_error_iff topFile_thin {}⟩

end ObjcImage
