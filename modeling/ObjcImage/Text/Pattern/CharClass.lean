import ObjcImage.Text.Pattern.Basic
import ObjcImage.Text.Unicode.Category
import ObjcImage.Text.Unicode.Script
import ObjcImage.Text.Unicode.Property
import ObjcImage.Text.Unicode.PropertyName
import ObjcImage.Text.Unicode.Age
import ObjcImage.Text.Unicode.Segmentation
import ObjcImage.Text.Unicode.CaseFold

set_option autoImplicit false

/-!
The named classes of name filters: `\d`, `\w`, `\s`, the POSIX classes and the Unicode classes. One
name is taken as a binary property, else a general category, else a script; values that no character
has, such as the script `Unknown`, name no class.
-/

namespace ObjcImage

open Text

namespace CharClass

/-- Why a Unicode class name stands for no class: the property is unknown, or it is known and the
value is not one that names a class. -/
inductive LookupError where
  | propertyNotFound
  | valueNotFound
  deriving DecidableEq, Repr

def isWhiteSpace (c : Char) : Bool := (CharSet.ofTable BinaryProperty.whiteSpace.table).contains c.toNat

def unicodeDigit : CharSet := CharSet.ofTable GeneralCategory.decimalNumberTable

def unicodeSpace : CharSet := CharSet.ofTable BinaryProperty.whiteSpace.table

def unicodeWord : CharSet :=
  CharSet.unionAll [CharSet.ofTable BinaryProperty.alphabetic.table,
    CharSet.ofTable GeneralCategory.nonspacingMarkTable, CharSet.ofTable GeneralCategory.spacingMarkTable,
    CharSet.ofTable GeneralCategory.enclosingMarkTable, unicodeDigit,
    CharSet.ofTable GeneralCategory.connectorPunctuationTable,
    CharSet.ofTable BinaryProperty.joinControl.table]

def asciiDigit : CharSet := CharSet.interval 0x30 0x39

def asciiSpace : CharSet := CharSet.ofRanges [(0x9, 0xD), (0x20, 0x20)]

def asciiWord : CharSet := CharSet.ofRanges [(0x30, 0x39), (0x41, 0x5A), (0x5F, 0x5F), (0x61, 0x7A)]

def isWordChar (unicode : Bool) (c : Char) : Bool :=
  if unicode then unicodeWord.contains c.toNat else asciiWord.contains c.toNat

inductive Perl where
  | digit
  | space
  | word
  deriving DecidableEq, Repr

def Perl.members (unicode : Bool) : Perl → CharSet
  | .digit => if unicode then unicodeDigit else asciiDigit
  | .space => if unicode then unicodeSpace else asciiSpace
  | .word => if unicode then unicodeWord else asciiWord

def posixClass? : String → Option CharSet
  | "alnum" => some (CharSet.ofRanges [(0x30, 0x39), (0x41, 0x5A), (0x61, 0x7A)])
  | "alpha" => some (CharSet.ofRanges [(0x41, 0x5A), (0x61, 0x7A)])
  | "ascii" => some (CharSet.interval 0 0x7F)
  | "blank" => some (CharSet.ofRanges [(0x9, 0x9), (0x20, 0x20)])
  | "cntrl" => some (CharSet.ofRanges [(0, 0x1F), (0x7F, 0x7F)])
  | "digit" => some asciiDigit
  | "graph" => some (CharSet.interval 0x21 0x7E)
  | "lower" => some (CharSet.interval 0x61 0x7A)
  | "print" => some (CharSet.interval 0x20 0x7E)
  | "punct" => some (CharSet.ofRanges [(0x21, 0x2F), (0x3A, 0x40), (0x5B, 0x60), (0x7B, 0x7E)])
  | "space" => some asciiSpace
  | "upper" => some (CharSet.interval 0x41 0x5A)
  | "word" => some asciiWord
  | "xdigit" => some (CharSet.ofRanges [(0x30, 0x39), (0x41, 0x46), (0x61, 0x66)])
  | _ => none

def categoriesClass (gs : List GeneralCategory) : Except LookupError CharSet :=
  match gs.mapM GeneralCategory.members? with
  | some sets => .ok (CharSet.unionAll sets)
  | none => .error .valueNotFound

/-- The class a normalized general category value names, when it names one: `any`, `assigned` and
`ascii` are values of this kind too. -/
def category? (v : String) : Option (Except LookupError CharSet) :=
  if v == "any" then some (.ok CharSet.all)
  else if v == "assigned" then
    some ((categoriesClass [.unassigned]).map CharSet.complement)
  else if v == "ascii" then some (.ok (CharSet.interval 0 0x7F))
  else (GeneralCategory.valueNamed? v).map categoriesClass

def script? (v : String) (extensions : Bool) : Option (Except LookupError CharSet) :=
  (Script.valueNamed? v).map fun name =>
    match Script.withName? name with
    | some s => .ok (CharSet.ofTable (if extensions then s.extensionTable else s.table))
    | none => .error .valueNotFound

/-- What a single class name stands for: a binary property, else a general category, else a
script. -/
def named (name : String) : Except LookupError CharSet :=
  let n := PropertyName.normalize name
  let property := if n == "cf" || n == "sc" || n == "lc" then none else PropertyName.canonical? n
  match property with
  | some p =>
    match BinaryProperty.withName? p with
    | some b => .ok (CharSet.ofTable b.table)
    | none => .error .propertyNotFound
  | none =>
    match category? n with
    | some r => r
    | none =>
      match script? n false with
      | some r => r
      | none => .error .propertyNotFound

def breakClass (p : BreakProperty) (v : String) : Except LookupError CharSet :=
  match p.valueNamed? v with
  | none => .error .valueNotFound
  | some name =>
    match p.members? name with
    | some s => .ok s
    | none => .error .valueNotFound

def byValue (property value : String) : Except LookupError CharSet :=
  let v := PropertyName.normalize value
  match PropertyName.canonical? (PropertyName.normalize property) with
  | none => .error .propertyNotFound
  | some "General_Category" => (category? v).getD (.error .valueNotFound)
  | some "Script" => (script? v false).getD (.error .valueNotFound)
  | some "Script_Extensions" => (script? v true).getD (.error .valueNotFound)
  | some "Age" =>
    match Age.valueNamed? v with
    | none => .error .valueNotFound
    | some name =>
      match Age.assignedBy? name with
      | some s => .ok s
      | none => .error .valueNotFound
  | some "Grapheme_Cluster_Break" => breakClass BreakProperty.graphemeClusterBreak v
  | some "Sentence_Break" => breakClass BreakProperty.sentenceBreak v
  | some "Word_Break" => breakClass BreakProperty.wordBreak v
  | some _ => .error .valueNotFound

end CharClass

end ObjcImage
