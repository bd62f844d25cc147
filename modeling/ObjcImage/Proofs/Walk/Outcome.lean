import Mathlib
import ObjcImage.Proofs.Walk.Invariant
import ObjcImage.Proofs.Dump.Faults

set_option autoImplicit false

/-!
When the walk of an image's runtime metadata stops: at the first top-level list section that is
malformed, or with a fault where a protocol record's class properties lie past the last address.
-/

namespace ObjcImage

namespace Metadata

def ListSectionFails (img : MachImage) (sectname : String) (e : WalkError) : Prop :=
  match img.sectionNamed? sectname with
  | none => False
  | some (sect, _) =>
    (sect.size % img.arch.pointerWidth ≠ 0 ∧
        e = ⟨sectname ++ " size " ++ Text.hex sect.size ++ " is not a multiple of the pointer size",
          sect.addr⟩) ∨
      (sect.size % img.arch.pointerWidth = 0 ∧ ∃ err, img.translate sect.addr sect.size = .error err ∧
        e = ⟨sectname ++ " is unreadable: " ++ err.message, sect.addr⟩)

/-- The walk error of the first top-level list section that fails, in the order the walk reads
them: protocols, classes, categories. -/
def FirstListFailure (img : MachImage) (e : WalkError) : Prop :=
  ListSectionFails img "__objc_protolist" e ∨
    ((∀ e', ¬ListSectionFails img "__objc_protolist" e') ∧ ListSectionFails img "__objc_classlist" e) ∨
    ((∀ e', ¬ListSectionFails img "__objc_protolist" e') ∧
      (∀ e', ¬ListSectionFails img "__objc_classlist" e') ∧ ListSectionFails img "__objc_catlist" e)

theorem pointerList_eq_error_iff {img : MachImage} {sectname : String} {e : WalkError} :
    pointerList img sectname = .error e ↔ ListSectionFails img sectname e := by
  unfold pointerList ListSectionFails
  cases named : img.sectionNamed? sectname with
  | none => simp
  | some found =>
    obtain ⟨sect, bytes⟩ := found
    dsimp only
    by_cases whole : sect.size % img.arch.pointerWidth = 0
    next =>
      cases read : img.translate sect.addr sect.size with
      | error err =>
        simp only [whole, bne_self_eq_false, Bool.false_eq_true, if_false, Except.error.injEq,
          ne_eq, not_true_eq_false, true_and, false_and, false_or]
        exact ⟨fun made => ⟨err, rfl, made.symm⟩, fun ⟨_, same, made⟩ => by cases same; exact made.symm⟩
      | ok b => simp [whole]
    next =>
      have uneven : (sect.size % img.arch.pointerWidth != 0) = true := by simpa using whole
      simp only [uneven, if_true, Except.error.injEq, whole, ne_eq, not_false_eq_true, true_and,
        false_and, or_false]
      exact eq_comm

theorem topLists_eq_error_iff {img : MachImage} {e : WalkError} :
    topLists img = .error e ↔ FirstListFailure img e := by
  simp only [FirstListFailure, ← pointerList_eq_error_iff]
  unfold topLists
  cases protocols : pointerList img "__objc_protolist" with
  | error e₁ => simp [bind, Except.bind]
  | ok ps =>
    cases classes : pointerList img "__objc_classlist" with
    | error e₂ => simp [bind, Except.bind]
    | ok cs =>
      cases categories : pointerList img "__objc_catlist" <;> simp [bind, Except.bind, pure, Except.pure]

end Metadata

namespace ProtocolRecord

/-- Reading a protocol record faults exactly when arithmetic is checked and the record reads up to
its extended method types with a size that covers class properties whose address, two words past
them, lies past the last 64-bit address. -/
theorem read_eq_error_iff {img : MachImage} {address : Nat} {f : AddressFault} :
    read img address = .error f ↔ img.arithmetic = .checked ∧
      ∃ record, readHead img address = .ok record ∧
        8 * img.arch.pointerWidth + 8 + 3 * img.arch.pointerWidth ≤ record.size ∧
        addressLimit ≤ address + 8 * img.arch.pointerWidth + 8 + 2 * img.arch.pointerWidth := by
  unfold read
  cases head : readHead img address with
  | error e => simp
  | ok record =>
    by_cases covers : 8 * img.arch.pointerWidth + 8 + 3 * img.arch.pointerWidth ≤ record.size
    next =>
      cases arith : img.arithmetic with
      | checked =>
        simp only [covers, if_true, Except.map_eq_error_iff, AddressArithmetic.add,
          AddressArithmetic.checked_fit_eq_error_iff]
        simp [covers]
      | wrapping => simp [covers, AddressArithmetic.add, AddressArithmetic.fit, Except.map]
    next => simp [covers]

end ProtocolRecord

namespace Metadata

variable {img : MachImage}

theorem stable_true : Stable img fun _ => True :=
  ⟨fun _ _ _ _ _ _ _ => trivial, fun _ _ _ _ _ _ _ => trivial, fun _ _ _ => trivial⟩

end Metadata

open Metadata in
theorem walk_eq_error {img : MachImage} {policy : ListPolicy} {f : AddressFault}
    (faulted : walk img policy = .error f) : RecordFault img f := by
  unfold walk at faulted
  split at faulted
  next => cases faulted
  next protocols classes categories _ =>
    rw [Except.map_eq_error_iff] at faulted
    have stable : Stable img fun _ => True := stable_true
    have steps := walkSteps_preserves policy stable.nameClass
      (protocolAt_preserves stable policy (protocolFuel img)) (fun _ _ _ => trivial)
      (fun _ _ _ _ => trivial) (fun _ _ _ => trivial) (fun _ _ _ => trivial) protocols classes categories
      ((initialModel img).imageInfo.any (·.hasCategoryClassProperties))
    exact (steps _ trivial).2 f faulted

open Metadata in
/-- The walk of an image stops with a walk error exactly at the first top-level list section that
is present and not a whole number of pointers or not readable. Every other failure in reading the
image's records is kept as a diagnostic and the walk yields a model, unless it faults; and it
faults only with checked arithmetic, at a protocol record whose class properties lie past the last
64-bit address. -/
theorem walk_fails_only_at_lists (img : MachImage) (policy : ListPolicy) :
    (∀ e, walk img policy = .ok (.error e) ↔ FirstListFailure img e) ∧
    ∀ f, walk img policy = .error f → img.arithmetic = .checked ∧
      ∃ address record, ProtocolRecord.readHead img address = .ok record ∧
        8 * img.arch.pointerWidth + 8 + 3 * img.arch.pointerWidth ≤ record.size ∧
        addressLimit ≤ address + 8 * img.arch.pointerWidth + 8 + 2 * img.arch.pointerWidth := by
  refine ⟨fun e => ?_, fun f faulted => ?_⟩
  next =>
    rw [← topLists_eq_error_iff]
    unfold walk
    split
    next e' lists => simp [lists]
    next lists =>
      simp only [lists, reduceCtorEq, iff_false]
      cases (StateT.run _ _ : Except AddressFault _) <;> simp [Except.map]
  next =>
    obtain ⟨address, read⟩ := walk_eq_error faulted
    obtain ⟨checked, record, head, covers, past⟩ := ProtocolRecord.read_eq_error_iff.1 read
    exact ⟨checked, address, record, head, covers, past⟩

end ObjcImage
