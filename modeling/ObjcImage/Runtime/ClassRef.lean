set_option autoImplicit false

/-!
How a record refers to a class: by name once resolved, as a root class that has no superclass, or
as unresolved, with the address it pointed to when there was one. A reference bound to a symbol of
another image is named by that symbol without its linker prefix.
-/

namespace ObjcImage

inductive ClassRef where
  | root
  | named (name : String)
  | unresolved (address : Option Nat)
  deriving DecidableEq, Repr

def ClassRef.name? : ClassRef → Option String
  | .named n => some n
  | _ => none

/-- The linker prefixes of class, metaclass and protocol symbols, tried in this order. -/
def symbolPrefixes : List String :=
  ["_OBJC_CLASS_$_", "_OBJC_METACLASS_$_", "__OBJC_PROTOCOL_$_", "_OBJC_PROTOCOL_$_"]

def symbolName (symbol : String) : String :=
  match symbolPrefixes.find? (fun p => p.isPrefixOf symbol) with
  | some p => String.ofList (symbol.toList.drop p.length)
  | none => symbol

end ObjcImage
