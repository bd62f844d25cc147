import ObjcImage.Text.Pattern.Filter
import ObjcImage.Runtime.Diagnostic

set_option autoImplicit false

/-!
What a dump shows and how it reads an image: which architecture, which entities (by a name
filter), in which order, with which details, and how far named structs are written out inside
struct definitions.
-/

namespace ObjcImage

structure DumpOptions where
  arch : Option String := none
  showIvarOffsets : Bool := false
  showMethodAddresses : Bool := false
  sortClasses : Bool := false
  sortByInheritance : Bool := false
  sortMethods : Bool := false
  stripCtor : Bool := false
  stripDtor : Bool := false
  hidePropertyAccessors : Bool := false
  /-- Matched against the names of protocols, classes and categories, and a category's class. -/
  classFilter : Option Pattern := none
  showHeader : Bool := true
  /-- How many levels of named structs are written out inside a struct definition. -/
  expandDepth : Nat := 1
  strictLists : Bool := false

namespace DumpOptions

def listPolicy (o : DumpOptions) : ListPolicy := if o.strictLists then .strict else .salvage

def strips (o : DumpOptions) (selector : String) : Bool :=
  (o.stripCtor && selector == ".cxx_construct") || (o.stripDtor && selector == ".cxx_destruct")

def admits (o : DumpOptions) (name : String) : Bool :=
  match o.classFilter with
  | some p => p.occursIn name
  | none => true

end DumpOptions

end ObjcImage
