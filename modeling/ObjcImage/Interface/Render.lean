import ObjcImage.Interface.Options
import ObjcImage.Runtime.Model
import ObjcImage.TypeEncoding.Declaration

set_option autoImplicit false

/-!
The declaration of one protocol, class or category: its warnings, its head line, its sections, and
`@end`. A placeholder is a comment naming it.
-/

namespace ObjcImage

namespace Interface

def indentUnit : String := "    "

def warning (d : Diagnostic) : String :=
  match d.address with
  | some address => "// warning: " ++ d.message ++ " [" ++ Text.hex address ++ "]"
  | none => "// warning: " ++ d.message

def block (warnings : List Diagnostic) (head : String) (sections : List String) : String :=
  let sections := sections.filter (!·.isEmpty)
  let body := if sections.isEmpty then ["@end"] else ["\n\n".intercalate sections, "", "@end"]
  "\n".intercalate (warnings.map warning ++ head :: body)

def placeholder (keyword name : String) (warnings : List Diagnostic) : String :=
  "\n".intercalate (("// " ++ keyword ++ " " ++ name) :: warnings.map warning)

def adopted (protocols : List String) : String :=
  if protocols.isEmpty then "" else " <" ++ ", ".intercalate protocols ++ ">"

def accessors (properties : List Property) : List (String × Bool) :=
  properties.flatMap fun p =>
    (p.getterName, p.flags.classProperty) :: (p.setterName.map (·, p.flags.classProperty)).toList

section

variable (o : DumpOptions)

def hiddenSelectors (properties : List Property) : List (String × Bool) :=
  if o.hidePropertyAccessors then accessors properties else []

/-- `@property(nonatomic, copy) NSString *title;`: the attributes in a fixed order, then the
declaration. -/
def propertyLine (p : Property) : String :=
  let f := p.flags
  let ownership :=
    if f.copy then ["copy"] else if f.retain then ["retain"] else if f.weak then ["weak"] else []
  let attributes :=
    (if f.nonatomic then ["nonatomic"] else []) ++ (if f.readonly then ["readonly"] else []) ++
      ownership ++ (p.getter.map ("getter=" ++ ·)).toList ++ (p.setter.map ("setter=" ++ ·)).toList ++
      (if f.classProperty then ["class"] else [])
  let decl := p.type.declaration o.expandDepth p.name
  if attributes.isEmpty then "@property " ++ decl ++ ";"
  else "@property(" ++ ", ".intercalate attributes ++ ") " ++ decl ++ ";"

def propertyLines (properties : List Property) : String :=
  "\n".intercalate (properties.map (propertyLine o))

/-- `- (id)initWithFrame:(struct CGRect)arg1 style:(long long)arg2;`: each part of the selector
before a colon takes the next argument type, `id` when the types run out. -/
def methodLine (m : Method) : String :=
  let sign := if m.isClass then "+" else "-"
  let colons := (m.selector.toList.filter (· == ':')).length
  let name :=
    if colons == 0 then m.selector
    else
      let pieces := (m.selector.splitOn ":").take colons
      " ".intercalate (pieces.zipIdx.map fun (piece, i) =>
        let type := (m.argTypes[i]?.map (·.typeName o.expandDepth)).getD "id"
        piece ++ ":(" ++ type ++ ")arg" ++ toString (i + 1))
  let line := sign ++ " (" ++ m.returnType.typeName o.expandDepth ++ ")" ++ name ++ ";"
  match o.showMethodAddresses, m.imp with
  | true, some imp => line ++ " // IMP=" ++ Text.hex imp
  | _, _ => line

def methodLines (methods : List Method) (hidden : List (String × Bool)) : String :=
  let shown := methods.filter fun m => !o.strips m.selector && !hidden.contains (m.selector, m.isClass)
  let shown := if o.sortMethods then shown.mergeSort fun a b => a.selector ≤ b.selector else shown
  "\n".intercalate (shown.map (methodLine o))

def ivarLine (ivar : Ivar) : String :=
  let line := indentUnit ++ ivar.type.member o.expandDepth ivar.name 1 ++ ";"
  if o.showIvarOffsets then
    line ++ " // " ++ toString ivar.offset ++ " = " ++ Text.hex ivar.offset
  else line

def protocolBlock (p : Protocol) : String :=
  if p.placeholder then placeholder "@protocol" p.name p.diagnostics
  else
    let hidden := hiddenSelectors o p.properties
    let optional := [methodLines o p.optionalClassMethods hidden,
      methodLines o p.optionalInstanceMethods hidden].filter (!·.isEmpty)
    let sections := [propertyLines o p.properties, methodLines o p.classMethods hidden,
      methodLines o p.instanceMethods hidden] ++
      (if optional.isEmpty then [] else ["@optional\n" ++ "\n".intercalate optional])
    block p.diagnostics ("@protocol " ++ p.name ++ adopted p.protocols) sections

def classBlock (c : ObjcClass) : String :=
  if c.placeholder then placeholder "@interface" c.name c.diagnostics
  else
    let superclass := match c.superclass with
      | .root => ""
      | .named name => " : " ++ name
      | .unresolved _ => " : /* unresolved superclass */"
    let head := "@interface " ++ c.name ++ superclass ++ adopted c.protocols
    let head := if c.isSwift then "// Swift class\n" ++ head else head
    let ivars :=
      if c.ivars.isEmpty then "" else "\n".intercalate ("\x7b" :: c.ivars.map (ivarLine o) ++ ["\x7d"])
    let hidden := hiddenSelectors o c.properties
    block c.diagnostics head [ivars, propertyLines o c.properties,
      methodLines o c.classMethods hidden, methodLines o c.instanceMethods hidden]

def categoryBlock (c : Category) : String :=
  if c.placeholder then placeholder "@interface" c.name c.diagnostics
  else
    let cls := match c.extendedClass with
      | .named name => name
      | _ => "/* unresolved class */"
    let hidden := hiddenSelectors o c.properties
    block c.diagnostics ("@interface " ++ cls ++ " (" ++ c.name ++ ")" ++ adopted c.protocols)
      [propertyLines o c.properties, methodLines o c.classMethods hidden,
        methodLines o c.instanceMethods hidden]

end

end Interface

end ObjcImage
