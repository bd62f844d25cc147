import Mathlib
import ObjcImage.Fixup.BindOpcode
import ObjcImage.Proofs.Fixup.Chains

set_option autoImplicit false

/-!
Bind opcode streams: where reading one fails, and which records one that reads gives.
-/

namespace ObjcImage

/-! ### LEB128 operands -/

namespace Leb128

/-- How an operand fails: its first ten bytes, or all of it when it is shorter, say that another
byte follows. When the bytes run out first nothing is left; when an eleventh byte follows, the
bytes after it are. -/
def Fault (input : List UInt8) (f : StreamFault) : Prop :=
  (∀ b ∈ input.take 10, 128 ≤ b.toNat) ∧
    if input.length ≤ 10 then f = ⟨.eof, []⟩ else f = ⟨.tooLarge, input.drop 11⟩

def Operand (input rest : List UInt8) : Prop :=
  ∃ k < 10, (∀ b ∈ input.take k, 128 ≤ b.toNat) ∧ ∃ b, input.drop k = b :: rest ∧ b.toNat < 128

theorem signedFrom_eq_error_iff {shift acc : Nat} {input : List UInt8} {f : StreamFault} :
    signedFrom shift acc input = .error f ↔ unsignedFrom shift acc input = .error f := by
  induction input generalizing shift acc with
  | nil => simp [signedFrom, unsignedFrom]
  | cons b rest ih =>
    simp only [signedFrom, unsignedFrom]
    split
    · simp
    · split
      · simp
      · exact ih

theorem unsignedFrom_eq_error_iff {i acc : Nat} {input : List UInt8} {f : StreamFault}
    (read : i ≤ 10) :
    unsignedFrom (7 * i) acc input = .error f ↔
      (∀ b ∈ input.take (10 - i), 128 ≤ b.toNat) ∧
        if input.length ≤ 10 - i then f = ⟨.eof, []⟩ else f = ⟨.tooLarge, input.drop (11 - i)⟩ := by
  induction input generalizing i acc with
  | nil => simp [unsignedFrom, eq_comm]
  | cons b rest ih =>
    simp only [unsignedFrom]
    split
    · next past =>
      -- the eleventh byte: the shift has passed 64
      have last : i = 10 := by omega
      subst last
      simp [eq_comm]
    · next within =>
      have more : 10 - i = (10 - (i + 1)) + 1 := by omega
      split
      · next stops =>
        simp only [reduceCtorEq, false_iff, more, List.take_succ_cons, List.mem_cons,
          forall_eq_or_imp, not_and]
        omega
      · next goesOn =>
        rw [show 7 * i + 7 = 7 * (i + 1) by omega, ih (by omega),
          show 11 - i = (11 - (i + 1)) + 1 by omega, List.drop_succ_cons, more, List.take_succ_cons]
        simp [Nat.le_of_not_lt goesOn]

theorem unsignedFrom_eq_ok_iff {i acc : Nat} {input rest : List UInt8} (read : i ≤ 10) :
    (∃ n, unsignedFrom (7 * i) acc input = .ok (n, rest)) ↔
      ∃ k < 10 - i, (∀ b ∈ input.take k, 128 ≤ b.toNat) ∧
        ∃ b, input.drop k = b :: rest ∧ b.toNat < 128 := by
  induction input generalizing i acc with
  | nil => simp [unsignedFrom]
  | cons b rest' ih =>
    simp only [unsignedFrom]
    split
    · next past => simp; omega
    · next within =>
      split
      · next stops =>
        constructor
        · rintro ⟨n, found⟩
          simp only [Except.ok.injEq, Prod.mk.injEq] at found
          exact ⟨0, by omega, by simp, b, by simp [found.2], stops⟩
        · rintro ⟨k, below, goOn, c, dropped, last⟩
          cases k with
          | zero =>
            simp only [List.drop_zero, List.cons.injEq] at dropped
            exact ⟨_, by rw [dropped.2]⟩
          | succ k =>
            exfalso
            have := goOn b (by simp)
            omega
      · next goesOn =>
        rw [show 7 * i + 7 = 7 * (i + 1) by omega, ih (by omega)]
        constructor
        · rintro ⟨k, below, goOn, c, dropped, last⟩
          refine ⟨k + 1, by omega, ?_, c, by simpa using dropped, last⟩
          simp only [List.take_succ_cons, List.mem_cons, forall_eq_or_imp]
          exact ⟨by omega, goOn⟩
        · rintro ⟨k, below, goOn, c, dropped, last⟩
          cases k with
          | zero =>
            simp only [List.drop_zero, List.cons.injEq] at dropped
            obtain ⟨rfl, -⟩ := dropped
            omega
          | succ k =>
            simp only [List.take_succ_cons, List.mem_cons, forall_eq_or_imp] at goOn
            exact ⟨k, by omega, goOn.2, c, by simpa using dropped, last⟩

theorem readUnsigned_eq_error_iff {input : List UInt8} {f : StreamFault} :
    readUnsigned input = .error f ↔ Fault input f :=
  unsignedFrom_eq_error_iff (i := 0) (Nat.zero_le _)

theorem readSigned_eq_error_iff {input : List UInt8} {f : StreamFault} :
    readSigned input = .error f ↔ Fault input f :=
  signedFrom_eq_error_iff.trans readUnsigned_eq_error_iff

theorem readUnsigned_eq_ok_iff {input rest : List UInt8} :
    (∃ n, readUnsigned input = .ok (n, rest)) ↔ Operand input rest :=
  unsignedFrom_eq_ok_iff (i := 0) (Nat.zero_le _)

theorem readUnsignedIn_eq_error_iff {input : List UInt8} {f : StreamFault} :
    readUnsignedIn input = .error f ↔ Fault input f := by
  rw [← readUnsigned_eq_error_iff, readUnsignedIn]
  split <;> simp_all

theorem readSignedIn_eq_error_iff {input : List UInt8} {f : StreamFault} :
    readSignedIn input = .error f ↔ Fault input f := by
  rw [← readSigned_eq_error_iff, readSignedIn]
  split <;> simp_all

theorem readUnsignedIn_eq_ok_iff {input : List UInt8} {n : Nat}
    {r : { r : List UInt8 // r.length ≤ input.length }} :
    readUnsignedIn input = .ok (n, r) ↔ readUnsigned input = .ok (n, r.1) := by
  rw [readUnsignedIn]
  split
  · next n' r' read =>
    simp only [Except.ok.injEq, Prod.mk.injEq, read]
    constructor
    · rintro ⟨rfl, rfl⟩; exact ⟨rfl, rfl⟩
    · rintro ⟨rfl, same⟩; exact ⟨rfl, Subtype.ext same⟩
  · next e read => simp [read]

end Leb128

theorem Except.fmap_eq_error_iff {ε α β : Type} {g : α → β} {x : Except ε α} {e : ε} :
    g <$> x = .error e ↔ x = .error e := by
  cases x <;> simp [Functor.map, Except.map]

theorem Except.bind_eq_error_iff {ε α β : Type} {x : Except ε α} {f : α → Except ε β} {e : ε} :
    x >>= f = .error e ↔ x = .error e ∨ ∃ a, x = .ok a ∧ f a = .error e := by
  cases x <;> simp [bind, Except.bind]

/-! ### One operation -/

theorem BindKind.ofCode_eq_none_iff {n : Nat} : BindKind.ofCode? n = none ↔ n = 0 ∨ 3 < n := by
  match n with
  | 0 | 1 | 2 | 3 => decide
  | n + 4 => simp [BindKind.ofCode?]

namespace BindOp

/-- How reading the operation that the opcode byte `b` opens fails, `rest` being the bytes after
the opcode: an operation, kind or threaded sub-operation that does not exist fails with `tag`,
leaving `rest`; an operand fails as `Leb128.Fault` says. -/
def Fault (b : UInt8) (rest : List UInt8) (f : StreamFault) : Prop :=
  match b.toNat / 16 with
  | 2 | 6 | 7 | 8 | 10 => Leb128.Fault rest f
  | 5 => (b.toNat % 16 = 0 ∨ 3 < b.toNat % 16) ∧ f = ⟨.tag, rest⟩
  | 12 => Leb128.Fault rest f ∨ ∃ r, Leb128.Operand rest r ∧ Leb128.Fault r f
  | 13 => (b.toNat % 16 = 0 ∧ Leb128.Fault rest f) ∨ (1 < b.toNat % 16 ∧ f = ⟨.tag, rest⟩)
  | 14 | 15 => f = ⟨.tag, rest⟩
  | _ => False

theorem twoOperands_eq_error_iff {rest : List UInt8} {f : StreamFault} {k : Nat → Nat → BindOp} :
    (do
      let (times, r) ← Leb128.readUnsignedIn rest
      let (skip, r') ← Leb128.readUnsignedIn r.1
      pure (k times skip, (⟨r'.1, Nat.le_trans r'.2 r.2⟩ : Remainder rest))) = .error f ↔
      Leb128.Fault rest f ∨ ∃ r, Leb128.Operand rest r ∧ Leb128.Fault r f := by
  rw [Except.bind_eq_error_iff, Leb128.readUnsignedIn_eq_error_iff]
  refine or_congr_right ⟨?_, ?_⟩
  · rintro ⟨⟨times, r⟩, first, second⟩
    rw [Except.bind_eq_error_iff] at second
    rcases second with second | ⟨⟨skip, r'⟩, -, never⟩
    · exact ⟨r.1, Leb128.readUnsigned_eq_ok_iff.1 ⟨times, Leb128.readUnsignedIn_eq_ok_iff.1 first⟩,
        Leb128.readUnsignedIn_eq_error_iff.1 second⟩
    · cases never
  · rintro ⟨r, operand, fault⟩
    obtain ⟨times, first⟩ := Leb128.readUnsigned_eq_ok_iff.2 operand
    refine ⟨(times, ⟨r, Nat.le_of_lt (Leb128.unsignedFrom_rest first)⟩),
      Leb128.readUnsignedIn_eq_ok_iff.2 first, ?_⟩
    rw [Except.bind_eq_error_iff, Leb128.readUnsignedIn_eq_error_iff]
    exact .inl fault

theorem decodeOne_eq_error_iff {b : UInt8} {rest : List UInt8} {f : StreamFault} :
    decodeOne b rest = .error f ↔ Fault b rest f := by
  have nibble : b.toNat / 16 < 16 := by have := b.toNat_lt; omega
  unfold decodeOne Fault
  dsimp only
  generalize b.toNat / 16 = n at nibble ⊢
  -- one case per operation; those without operands or checks never fail
  interval_cases n
  case «2» | «7» | «8» | «10» => simp [Except.fmap_eq_error_iff, Leb128.readUnsignedIn_eq_error_iff]
  case «6» => simp [Except.fmap_eq_error_iff, Leb128.readSignedIn_eq_error_iff]
  case «12» => exact twoOperands_eq_error_iff
  case «5» =>
    by_cases unknown : BindKind.ofCode? (b.toNat % 16) = none
    · simp only [unknown, Except.error.injEq]
      exact ⟨fun same => ⟨BindKind.ofCode_eq_none_iff.1 unknown, same.symm⟩, fun tag => tag.2.symm⟩
    · obtain ⟨k, known⟩ := Option.ne_none_iff_exists'.1 unknown
      simp only [known, reduceCtorEq, false_iff, not_and]
      exact fun bad => absurd (BindKind.ofCode_eq_none_iff.2 bad) unknown
  case «13» =>
    by_cases sizes : b.toNat % 16 = 0
    · simp [sizes, Except.fmap_eq_error_iff, Leb128.readUnsignedIn_eq_error_iff]
    by_cases applies : b.toNat % 16 = 1
    · simp [applies]
    · simp only [sizes, applies, if_false, Except.error.injEq, false_and, false_or]
      exact ⟨fun same => ⟨by omega, same.symm⟩, fun tag => tag.2.symm⟩
  case «14» | «15» => simp only [Except.error.injEq]; exact eq_comm
  all_goals simp

end BindOp

/-! ### The stream, operation by operation -/

inductive ReadsOps : List UInt8 → List BindOp → List UInt8 → Prop
  | nil (input : List UInt8) : ReadsOps input [] input
  | cons {b : UInt8} {rest : List UInt8} {op : BindOp} {r : BindOp.Remainder rest}
      {ops : List BindOp} {out : List UInt8} :
      BindOp.decodeOne b rest = .ok (op, r) → ReadsOps r.1 ops out →
        ReadsOps (b :: rest) (op :: ops) out

theorem decodeBindOps_of_readsOps {input out : List UInt8} {ops : List BindOp}
    (reads : ReadsOps input ops out) :
    decodeBindOps input = (decodeBindOps out).map (ops ++ ·) := by
  induction reads with
  | nil input => cases decodeBindOps input <;> rfl
  | @cons b rest op r ops out decoded _ ih =>
    rw [decodeBindOps, decoded]
    simp only [bind, Except.bind, ih]
    cases decodeBindOps out <;> rfl

theorem decodeBindOps_nil : decodeBindOps [] = .ok [] := by
  rw [decodeBindOps]

theorem decodeBindOps_eq_ok_iff {input : List UInt8} {ops : List BindOp} :
    decodeBindOps input = .ok ops ↔ ReadsOps input ops [] := by
  constructor
  · intro read
    induction h : input.length using Nat.strong_induction_on generalizing input ops with
    | _ length ih =>
      match input, read with
      | [], read =>
        rw [decodeBindOps_nil, Except.ok.injEq] at read
        exact read ▸ .nil []
      | b :: rest, read =>
        rw [decodeBindOps] at read
        obtain ⟨⟨op, r⟩, decoded, read⟩ := Except.bind_eq_ok.1 read
        obtain ⟨ops', others, read⟩ := Except.bind_eq_ok.1 read
        simp only [pure, Except.pure, Except.ok.injEq] at read
        subst read
        have shorter : r.1.length < length := by simp only [← h]; exact Nat.lt_succ_of_le r.2
        exact .cons decoded (ih r.1.length shorter others rfl)
  · intro reads
    rw [decodeBindOps_of_readsOps reads, decodeBindOps_nil]
    simp [Except.map]

theorem decodeBindOps_eq_error_iff {input : List UInt8} {f : StreamFault} :
    decodeBindOps input = .error f ↔
      ∃ ops b rest, ReadsOps input ops (b :: rest) ∧ BindOp.decodeOne b rest = .error f := by
  constructor
  · intro read
    induction h : input.length using Nat.strong_induction_on generalizing input with
    | _ length ih =>
      match input, read with
      | [], read => simp [decodeBindOps_nil] at read
      | b :: rest, read =>
        rw [decodeBindOps, Except.bind_eq_error_iff] at read
        rcases read with fails | ⟨⟨op, r⟩, decoded, read⟩
        · exact ⟨[], b, rest, .nil _, fails⟩
        · rw [Except.bind_eq_error_iff] at read
          rcases read with later | ⟨ops, -, never⟩
          · have shorter : r.1.length < length := by simp only [← h]; exact Nat.lt_succ_of_le r.2
            obtain ⟨ops, b', rest', reads, fails⟩ := ih r.1.length shorter later rfl
            exact ⟨op :: ops, b', rest', .cons decoded reads, fails⟩
          · cases never
  · rintro ⟨ops, b, rest, reads, fails⟩
    rw [decodeBindOps_of_readsOps reads, decodeBindOps, fails]
    rfl

/-! ### The records of a stream -/

namespace BindOp

def slots : BindOp → Nat
  | .bind | .threadedApply | .bindAdvance _ | .bindScaled _ => 1
  | .bindRepeat times _ => times
  | _ => 0

def stride (width : Nat) : BindOp → Nat
  | .bindAdvance delta => delta + width
  | .bindScaled scale => scale * width + width
  | .bindRepeat _ skip => skip + width
  | _ => width

def prepare (s : BindState) : BindOp → BindState
  | .setOrdinal o => { s with ordinal := o }
  | .setSymbol name => { s with symbol := name }
  | .setKind k => { s with kind := k }
  | .setAddend a => { s with addend := a }
  | .setSegment index offset => { s with segmentIndex := index, offset := offset }
  | .advance delta => s.advance delta
  | _ => s

end BindOp

/-- The records of operations run from state `s`: each operation binds its slots one after
another, recording the state at each and then moving the offset on by its stride. -/
def bindTrace (width : Nat) : BindState → List BindOp → List BindRecord
  | _, [] => []
  | s, op :: ops =>
    let slotState := fun j => (fun t : BindState => t.advance (op.stride width))^[j] (op.prepare s)
    (List.range op.slots).map (fun j => (slotState j).record) ++
      bindTrace width (slotState op.slots) ops

example : (bindTrace 8 {} [.setOrdinal 1, .setSymbol "_sym", .setKind .pointer, .setSegment 2 0x10,
    .bind, .bindScaled 1, .bindRepeat 2 8, .done]).map (·.segmentOffset) =
      [0x10, 0x18, 0x28, 0x38] := by decide

namespace BindState

theorem bindRepeat_eq (width skip : Nat) :
    ∀ (times : Nat) (s : BindState), bindRepeat width skip times s =
      ((fun t : BindState => t.advance (skip + width))^[times] s,
        (List.range times).map fun j =>
          ((fun t : BindState => t.advance (skip + width))^[j] s).record)
  | 0, s => rfl
  | times + 1, s => by
    rw [bindRepeat, bindRepeat_eq width skip times, List.range_succ_eq_map, List.map_cons,
      List.map_map]
    rfl

theorem step_eq (width : Nat) (s : BindState) (op : BindOp) :
    s.step width op =
      ((fun t : BindState => t.advance (op.stride width))^[op.slots] (op.prepare s),
        (List.range op.slots).map fun j =>
          ((fun t : BindState => t.advance (op.stride width))^[j] (op.prepare s)).record) := by
  cases op with
  | bindRepeat times skip => exact bindRepeat_eq width skip times s
  | _ => rfl

theorem run_eq_bindTrace (width : Nat) : ∀ (s : BindState) (ops : List BindOp),
    run width s ops = bindTrace width s ops
  | _, [] => rfl
  | s, op :: ops => by
    rw [run, step_eq, bindTrace]
    dsimp only
    rw [run_eq_bindTrace width _ ops]

end BindState

/-- Reading a bind stream fails exactly at the first operation that cannot be read, after
operations read whole, with the fault that `BindOp.Fault` gives for its opcode and the bytes after
it. A stream read to its end as operations gives their records as `bindTrace` lays them out from
the initial state. -/
theorem parseBindStream_outcome (bytes : List UInt8) (width : Nat) :
    (∀ f, parseBindStream bytes width = .error f ↔
      ∃ ops b rest, ReadsOps bytes ops (b :: rest) ∧ BindOp.Fault b rest f) ∧
    (∀ records, parseBindStream bytes width = .ok records ↔
      ∃ ops, ReadsOps bytes ops [] ∧ records = bindTrace width {} ops) := by
  constructor
  · intro f
    have faults := @decodeBindOps_eq_error_iff bytes f
    simp only [BindOp.decodeOne_eq_error_iff] at faults
    rw [← faults, parseBindStream]
    cases decodeBindOps bytes <;> simp [Except.map]
  · intro records
    simp only [parseBindStream, ← decodeBindOps_eq_ok_iff, ← BindState.run_eq_bindTrace]
    cases decodeBindOps bytes <;> simp [Except.map, eq_comm]

end ObjcImage
