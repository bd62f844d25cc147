set_option autoImplicit false

/-!
Type trees of the runtime's type encodings, and their canonical encoding.
-/

namespace ObjcImage

inductive Primitive where
  | char | int | short | long | longLong | int128
  | unsignedChar | unsignedInt | unsignedShort | unsignedLong | unsignedLongLong | unsignedInt128
  | float | double | longDouble | bool | void
  | cString | classObject | selector | atom | undefined
  deriving DecidableEq, Repr, BEq

namespace Primitive

def code : Primitive → Char
  | .char => 'c' | .int => 'i' | .short => 's' | .long => 'l' | .longLong => 'q'
  | .int128 => 't' | .unsignedChar => 'C' | .unsignedInt => 'I' | .unsignedShort => 'S'
  | .unsignedLong => 'L' | .unsignedLongLong => 'Q' | .unsignedInt128 => 'T'
  | .float => 'f' | .double => 'd' | .longDouble => 'D' | .bool => 'B' | .void => 'v'
  | .cString => '*' | .classObject => '#' | .selector => ':' | .atom => '%' | .undefined => '?'

def all : List Primitive :=
  [.char, .int, .short, .long, .longLong, .int128, .unsignedChar, .unsignedInt, .unsignedShort,
    .unsignedLong, .unsignedLongLong, .unsignedInt128, .float, .double, .longDouble, .bool, .void,
    .cString, .classObject, .selector, .atom, .undefined]

def ofCode? (c : Char) : Option Primitive := all.find? (·.code == c)

def cName : Primitive → String
  | .char => "char" | .int => "int" | .short => "short" | .long => "long"
  | .longLong => "long long" | .int128 => "__int128"
  | .unsignedChar => "unsigned char" | .unsignedInt => "unsigned int"
  | .unsignedShort => "unsigned short" | .unsignedLong => "unsigned long"
  | .unsignedLongLong => "unsigned long long" | .unsignedInt128 => "unsigned __int128"
  | .float => "float" | .double => "double" | .longDouble => "long double" | .bool => "_Bool"
  | .void | .undefined => "void"
  | .cString => "char *" | .classObject => "Class" | .selector => "SEL" | .atom => "NXAtom"

end Primitive

inductive Modifier where
  | const | inArg | inOut | out | byCopy | byRef | oneway | atomic | complex
  deriving DecidableEq, Repr, BEq

namespace Modifier

def code : Modifier → Char
  | .const => 'r' | .inArg => 'n' | .inOut => 'N' | .out => 'o' | .byCopy => 'O'
  | .byRef => 'R' | .oneway => 'V' | .atomic => 'A' | .complex => 'j'

def all : List Modifier :=
  [.const, .inArg, .inOut, .out, .byCopy, .byRef, .oneway, .atomic, .complex]

def ofCode? (c : Char) : Option Modifier := all.find? (·.code == c)

def keyword : Modifier → String
  | .const => "const" | .inArg => "in" | .inOut => "inout" | .out => "out"
  | .byCopy => "bycopy" | .byRef => "byref" | .oneway => "oneway" | .atomic => "_Atomic"
  | .complex => "_Complex"

end Modifier

inductive AggregateKind where
  | struct | union
  deriving DecidableEq, Repr, BEq

namespace AggregateKind

def keyword : AggregateKind → String
  | .struct => "struct" | .union => "union"

def opening : AggregateKind → Char
  | .struct => '{' | .union => '('

def closing : AggregateKind → Char
  | .struct => '}' | .union => ')'

end AggregateKind

/-- A decoded type. An aggregate without fields (`{Foo}`) names a type defined elsewhere; a field
may carry a name. A block's signature lists the return type, then the arguments. -/
inductive TypeNode where
  | primitive (p : Primitive)
  | object (className : Option String) (protocols : List String)
  | block (signature : Option (List TypeNode))
  | functionPointer
  | pointer (target : TypeNode)
  | array (count : Nat) (element : TypeNode)
  | aggregate (kind : AggregateKind) (name : Option String)
      (fields : Option (List (Option String × TypeNode)))
  | bitfield (width : Nat)
  | modified (modifier : Modifier) (inner : TypeNode)
  | unknown (raw : String)
  deriving BEq, Repr, Inhabited

namespace TypeNode

def id : TypeNode := .object none []

def objectText (className : Option String) (protocols : List String) : List Char :=
  (className.getD "").toList ++ protocols.flatMap fun p => '<' :: p.toList ++ ['>']

mutual

def encode : TypeNode → List Char
  | .primitive p => [p.code]
  | .object none [] => ['@']
  | .object className protocols => '@' :: '"' :: objectText className protocols ++ ['"']
  | .block none => ['@', '?']
  | .block (some types) => '@' :: '?' :: '<' :: encodeAll types ++ ['>']
  | .functionPointer => ['^', '?']
  | .pointer target => '^' :: target.encode
  | .array count element => '[' :: (Nat.toDigits 10 count ++ element.encode ++ [']'])
  | .aggregate kind name fields =>
    kind.opening :: ((name.getD "?").toList ++ encodeBody fields ++ [kind.closing])
  | .bitfield width => 'b' :: Nat.toDigits 10 width
  | .modified m inner => m.code :: inner.encode
  | .unknown raw => raw.toList

def encodeAll : List TypeNode → List Char
  | [] => []
  | t :: ts => t.encode ++ encodeAll ts

def encodeBody : Option (List (Option String × TypeNode)) → List Char
  | none => []
  | some fields => '=' :: encodeFields fields

def encodeFields : List (Option String × TypeNode) → List Char
  | [] => []
  | (none, t) :: fs => t.encode ++ encodeFields fs
  | (some n, t) :: fs => '"' :: n.toList ++ '"' :: t.encode ++ encodeFields fs

end

def encoding (t : TypeNode) : String := String.ofList t.encode

/-- Ranks competing definitions of one aggregate name, fuller first: a body counts its fields plus
one, then its named fields; a reference by name counts nothing. -/
def completeness : Option (List (Option String × TypeNode)) → Nat × Nat
  | none => (0, 0)
  | some fields => (fields.length + 1, (fields.filter (·.1.isSome)).length)

end TypeNode

end ObjcImage
