import Mathlib
import ObjcImage.Proofs.Walk.Invariant

set_option autoImplicit false

/-!
The names the walk caches for class and protocol addresses are those their records give.
-/

namespace ObjcImage

namespace Metadata

variable (img : MachImage)

def classNameOf (address : Nat) : Except ImageError String :=
  (classHead img address).map fun (_, _, name) => name

def classRefOf (value : SlotValue) (isRoot : Bool) : ClassRef :=
  match value with
  | .value address =>
    match classNameOf img address with
    | .ok name => .named name
    | .error _ => .unresolved (some address)
  | .bind symbol => .named (symbolName symbol)
  | .null => if isRoot then .root else .unresolved none

/-- The name the protocol record at `address` gives, or why it cannot be read. A record whose
class properties lie past the last address has no name; a walk that meets it faults. -/
def protocolNameAt (address : Nat) : Except ImageError String :=
  match ProtocolRecord.read img address with
  | .ok record? => record? >>= fun record => img.readString record.name
  | .error _ => .error (.unmapped address 0)

structure NamesKnown (s : Walker) : Prop where
  classes : ∀ address name, s.classNames[address]? = some name → classNameOf img address = .ok name
  protocols : ∀ address name, s.protocolNames[address]? = some name →
    protocolNameAt img address = .ok name

theorem stable_namesKnown : Stable img (NamesKnown img) := by
  refine ⟨fun s address record data name head known => ⟨fun a n named => ?_, known.protocols⟩,
    fun s address record name read readName known => ⟨known.classes, fun a n named => ?_⟩,
    fun s p known => ⟨known.classes, known.protocols⟩⟩
  · rw [Std.HashMap.getElem?_insert] at named
    split at named
    next same =>
      cases named
      have : address = a := by simpa using same
      subst this
      simp [classNameOf, head, Except.map]
    next => exact known.classes a n named
  · rw [Std.HashMap.getElem?_insert] at named
    split at named
    next same =>
      cases named
      have : address = a := by simpa using same
      subst this
      simp [protocolNameAt, read, bind, Except.bind, readName]
    next => exact known.protocols a n named

theorem classNameAt_triple (address : Nat) :
    Triple (NamesKnown img) (classNameAt img address) fun r s =>
      r = classNameOf img address ∧ NamesKnown img s := by
  unfold classNameAt
  refine Triple.get fun s known => ?_
  split
  next name cached => exact Triple.pure fun _ known' => ⟨(known.classes address name cached).symm, known'⟩
  next =>
    split
    next record data name head =>
      refine Triple.bind (Triple.modify (Q := fun _ => NamesKnown img) fun s' known' =>
        (stable_namesKnown img).nameClass s' address record data name head known') fun _ => ?_
      exact Triple.pure fun _ known' => ⟨by simp [classNameOf, head, Except.map], known'⟩
    next e head => exact Triple.pure fun _ known' => ⟨by simp [classNameOf, head, Except.map], known'⟩

theorem classRef_triple (value : SlotValue) (isRoot : Bool) :
    Triple (NamesKnown img) (classRef img value isRoot) fun r s =>
      r = classRefOf img value isRoot ∧ NamesKnown img s := by
  cases value with
  | value address =>
    unfold classRef classRefOf
    dsimp only
    refine Triple.bind (classNameAt_triple img address) fun r => ?_
    cases r with
    | ok name => exact Triple.pure fun _ ⟨named, known⟩ => ⟨by rw [← named], known⟩
    | error e => exact Triple.pure fun _ ⟨named, known⟩ => ⟨by rw [← named], known⟩
  | bind symbol => exact Triple.pure fun _ known => ⟨rfl, known⟩
  | null => exact Triple.pure fun _ known => ⟨rfl, known⟩

theorem protocolNameAt_of_read {address : Nat} {record? : Except ImageError ProtocolRecord}
    (read : ProtocolRecord.read img address = .ok record?) :
    protocolNameAt img address =
      (do let record ← record?; pure (record, ← img.readString record.name)).map
        (fun read : ProtocolRecord × String => read.2) := by
  simp only [protocolNameAt, read]
  cases record? with
  | error e => rfl
  | ok record =>
    cases named : img.readString record.name <;>
      simp [named, bind, Except.bind, Except.map, pure, Except.pure]

theorem protocolAt_triple (policy : ListPolicy) (fuel address : Nat) :
    Triple (NamesKnown img) (protocolAt img policy (fuel + 1) address) fun r s =>
      r = protocolNameAt img address ∧ NamesKnown img s := by
  rw [protocolAt]
  refine Triple.get fun s known => ?_
  split
  next name cached =>
    exact Triple.pure fun _ known' => ⟨(known.protocols address name cached).symm, known'⟩
  next =>
    refine Triple.bindRead fun record? read => ?_
    dsimp only
    split
    next e head =>
      exact Triple.pure fun _ known' => ⟨by rw [protocolNameAt_of_read img read, head]; rfl, known'⟩
    next record name head =>
      have readName := protocolHead_eq_ok head
      -- reading the protocol's body only adds names and protocols to the walk
      refine Triple.bind (Triple.modify (Q := fun _ => NamesKnown img) fun s' known' =>
        (stable_namesKnown img).nameProtocol s' address record name (readName.1 ▸ read) readName.2
          known') fun _ => ?_
      refine Triple.bind (Preserves.triple (protocolBody_preserves policy
        (protocolAt_preserves (stable_namesKnown img) policy fuel) address record name {})) fun _ => ?_
      refine Triple.bind (Triple.modify (Q := fun _ => NamesKnown img) fun s' known' =>
        (stable_namesKnown img).addProtocol s' _ known') fun _ => ?_
      exact Triple.pure fun _ known' => ⟨by rw [protocolNameAt_of_read img read, head]; rfl, known'⟩

end Metadata

end ObjcImage