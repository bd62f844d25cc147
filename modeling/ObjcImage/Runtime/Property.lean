import ObjcImage.TypeEncoding.Parser
import ObjcImage.Text.Uppercase

set_option autoImplicit false

/-!
Declared properties and their attribute strings, such as `T@"NSString",C,N,V_title`.
-/

namespace ObjcImage

structure PropertyFlags where
  readonly : Bool := false
  nonatomic : Bool := false
  copy : Bool := false
  retain : Bool := false
  weak : Bool := false
  dynamic : Bool := false
  classProperty : Bool := false
  deriving DecidableEq, Repr

/-- The names of the flags that are set, in the fixed order read-only, non-atomic, copy, retain,
weak, dynamic, class. -/
def PropertyFlags.names (f : PropertyFlags) : List String :=
  [(f.readonly, "READONLY"), (f.nonatomic, "NONATOMIC"), (f.copy, "COPY"),
    (f.retain, "RETAIN"), (f.weak, "WEAK"), (f.dynamic, "DYNAMIC"),
    (f.classProperty, "CLASS")].filterMap fun (set, name) => if set then some name else none

structure Property where
  name : String
  type : TypeNode
  attributes : String
  flags : PropertyFlags
  getter : Option String
  setter : Option String
  ivar : Option String
  deriving Repr

namespace Property

def getterName (p : Property) : String := p.getter.getD p.name

/-- The selector that writes the property: none when it is read-only, else the declared setter,
else `set` with the name's first letter in upper case, then `:`. -/
def setterName (p : Property) : Option String :=
  if p.flags.readonly then none
  else some <| p.setter.getD <|
    match p.name.toList with
    | [] => "set:"
    | c :: rest => "set" ++ String.ofList (Text.upper c ++ rest) ++ ":"

end Property

structure AttributeScan where
  depth : Int := 0
  quoted : Bool := false
  current : List Char := []
  done : List (List Char) := []

def AttributeScan.step (s : AttributeScan) (c : Char) : AttributeScan :=
  if c == '"' then { s with quoted := !s.quoted, current := c :: s.current }
  else if !s.quoted && (c == '{' || c == '(' || c == '[' || c == '<') then
    { s with depth := s.depth + 1, current := c :: s.current }
  else if !s.quoted && (c == '}' || c == ')' || c == ']' || c == '>') then
    { s with depth := s.depth - 1, current := c :: s.current }
  else if c == ',' && !s.quoted && s.depth ≤ 0 then
    { s with current := [], done := s.current.reverse :: s.done }
  else { s with current := c :: s.current }

def splitAttributes (raw : List Char) : List (List Char) :=
  let s := raw.foldl AttributeScan.step {}
  (s.current.reverse :: s.done).reverse

structure PropertyAttributes where
  type : Option String := none
  flags : PropertyFlags := {}
  getter : Option String := none
  setter : Option String := none
  ivar : Option String := none

/-- Reads one attribute: its first character says what it is and the rest is its value. Unknown
attributes and empty ones say nothing. -/
def PropertyAttributes.add (a : PropertyAttributes) : List Char → PropertyAttributes
  | [] => a
  | code :: value =>
    let v := String.ofList value
    match code with
    | 'T' => { a with type := some v }
    | 'R' => { a with flags := { a.flags with readonly := true } }
    | 'N' => { a with flags := { a.flags with nonatomic := true } }
    | 'C' => { a with flags := { a.flags with copy := true } }
    | '&' => { a with flags := { a.flags with retain := true } }
    | 'W' => { a with flags := { a.flags with weak := true } }
    | 'D' => { a with flags := { a.flags with dynamic := true } }
    | 'G' => { a with getter := some v }
    | 'S' => { a with setter := some v }
    | 'V' => { a with ivar := some v }
    | _ => a

/-- Builds a property from its name and attribute string. A type that cannot be read is kept as
an unknown type and the problem is returned beside the property. -/
def parseProperty (name raw : String) (isClass : Bool) : Property × Option MalformedEncoding :=
  let start : PropertyAttributes := { flags := { classProperty := isClass } }
  let a := (splitAttributes raw.toList).foldl PropertyAttributes.add start
  let (type, problem) : TypeNode × Option MalformedEncoding :=
    match a.type with
    | some encoding =>
      match decode encoding with
      | .ok t => (t, none)
      | .error e => (.unknown encoding, some e)
    | none => (.unknown "", some ⟨raw, .untyped⟩)
  let ivar := match a.ivar with
    | some v => if v.isEmpty then none else some v
    | none => none
  (⟨name, type, raw, a.flags, a.getter, a.setter, ivar⟩, problem)

end ObjcImage
