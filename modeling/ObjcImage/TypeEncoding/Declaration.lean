import ObjcImage.TypeEncoding.Basic

set_option autoImplicit false

/-!
Type trees written as C declarations. Named aggregates are written by name; inside a definition one
is spelled out while fewer than `expandDepth` written bodies enclose it.
-/

namespace ObjcImage

/-- Where a type is being written: how many written aggregate bodies enclose it, and the
indentation of its line, or none to keep bodies on one line. -/
structure Layout where
  level : Nat
  indent : Option Nat

namespace Declaration

def unknownFunctionPointer : String := "UnknownFunctionPointer"

def unknownBlock : String := "UnknownBlock"

def join (base declarator : String) : String :=
  if declarator.isEmpty then base else base ++ " " ++ declarator

/-- Breaks every `*/` so that text copied from a binary cannot close the comment it stands in. -/
def commentSafe : List Char → List Char
  | '*' :: '/' :: r => '*' :: ' ' :: '/' :: commentSafe r
  | c :: r => c :: commentSafe r
  | [] => []

def indentText (n : Nat) : String := String.join (List.replicate n "    ")

/-- The name written for a field: its own, or `_fieldN` by its position from one. -/
def fieldName (name : Option String) (position : Nat) : String :=
  match name with
  | some n => if n.isEmpty then "_field" ++ toString (position + 1) else n
  | none => "_field" ++ toString (position + 1)

def protocolList (protocols : List String) : String :=
  if protocols.isEmpty then "" else "<" ++ ", ".intercalate protocols ++ ">"

def isArray : TypeNode → Bool
  | .array _ _ => true
  | _ => false

def parameterList (names : List String) : String :=
  if names.isEmpty then "void" else ", ".intercalate names

mutual

def render (expandDepth : Nat) : TypeNode → String → Layout → String
  | .primitive .cString, d, _ => join "char" ("*" ++ d)
  | .primitive .undefined, d, _ => join "__unknown_type /* ? */" d
  | .primitive p, d, _ => join p.cName d
  | .object (some className) protocols, d, _ => join (className ++ protocolList protocols) ("*" ++ d)
  | .object none protocols, d, _ =>
    if protocols.isEmpty then join "id" d else join ("id " ++ protocolList protocols) d
  | .block none, d, _ => join unknownBlock d
  | .block (some []), d, _ => join unknownBlock d
  -- The first argument of a block is the block literal itself.
  | .block (some (ret :: .block _ :: args)), d, layout =>
    render expandDepth ret ("(^" ++ d ++ ")(" ++ parameterList (typeNames expandDepth args) ++ ")")
      layout
  | .block (some (ret :: args)), d, layout =>
    render expandDepth ret ("(^" ++ d ++ ")(" ++ parameterList (typeNames expandDepth args) ++ ")")
      layout
  | .functionPointer, d, _ => join unknownFunctionPointer d
  | .pointer target, d, layout =>
    render expandDepth target (if isArray target then "(*" ++ d ++ ")" else "*" ++ d) layout
  | .array count element, d, layout =>
    render expandDepth element (d ++ "[" ++ toString count ++ "]") layout
  | .aggregate kind name fields, d, layout =>
    let expand := match fields, name with
      | none, _ => false
      | some _, none => true
      | some _, some _ => decide (0 < layout.level ∧ layout.level < expandDepth)
    renderAggregate expandDepth kind name fields d layout expand
  | .bitfield width, d, _ => "unsigned int " ++ d ++ ":" ++ toString width
  | .modified m inner, d, layout => m.keyword ++ " " ++ render expandDepth inner d layout
  | .unknown raw, d, _ =>
    join ("__unknown_type /* " ++ String.ofList (commentSafe raw.toList) ++ " */") d

def typeNames (expandDepth : Nat) : List TypeNode → List String
  | [] => []
  | t :: ts => render expandDepth t "" ⟨0, none⟩ :: typeNames expandDepth ts

/-- An aggregate around a declarator, with its body spelled out when `expand` says so. -/
def renderAggregate (expandDepth : Nat) (kind : AggregateKind) (name : Option String) :
    Option (List (Option String × TypeNode)) → String → Layout → Bool → String
  | some fields, d, layout, true =>
    let head := match name with
      | some n => kind.keyword ++ " " ++ n
      | none => kind.keyword
    let inner : Layout := ⟨layout.level + 1, layout.indent.map (· + 1)⟩
    let ms := members expandDepth inner 0 fields
    let body := match layout.indent with
      | none =>
        if ms.isEmpty then head ++ " \x7b\x7d"
        else head ++ " \x7b " ++ " ".intercalate ms ++ " \x7d"
      | some n =>
        head ++ " \x7b\n" ++ String.join (ms.map fun m => indentText (n + 1) ++ m ++ "\n") ++
          indentText n ++ "\x7d"
    join body d
  | _, d, _, _ =>
    match name with
    | some n => join (kind.keyword ++ " " ++ n) d
    | none => join (kind.keyword ++ " /* anonymous */") d

def members (expandDepth : Nat) (inner : Layout) (position : Nat) :
    List (Option String × TypeNode) → List String
  | [] => []
  | (name, t) :: fs =>
    (render expandDepth t (fieldName name position) inner ++ ";") ::
      members expandDepth inner (position + 1) fs

end

end Declaration

namespace TypeNode

open Declaration

def declaration (expandDepth : Nat) (t : TypeNode) (name : String) : String :=
  render expandDepth t name ⟨0, none⟩

def typeName (expandDepth : Nat) (t : TypeNode) : String := t.declaration expandDepth ""

def member (expandDepth : Nat) (t : TypeNode) (name : String) (indent : Nat) : String :=
  render expandDepth t name ⟨0, some indent⟩

end TypeNode

def Declaration.definition (expandDepth : Nat) (kind : AggregateKind) (name : Option String)
    (fields : Option (List (Option String × TypeNode))) : String :=
  renderAggregate expandDepth kind name fields "" ⟨0, some 0⟩ true ++ ";"

end ObjcImage
