import ObjcImage.Text.CharSet

set_option autoImplicit false

/-!
Name filters: the pattern a filter means, with its flags already applied, so matching needs none.
-/

namespace ObjcImage

open Text

inductive WordTest where
  | boundary
  | notBoundary
  | start
  | finish
  | startHalf
  | finishHalf
  deriving DecidableEq, Repr

inductive Assertion where
  | textStart
  | textEnd
  /-- The start of a line: the start of the text or right after a newline. With `crlf`, also
  right after a carriage return that no newline follows. -/
  | lineStart (crlf : Bool)
  /-- The end of a line: the end of the text or right before a newline. With `crlf`, also right
  before a carriage return, and a newline after a carriage return ends no line. -/
  | lineEnd (crlf : Bool)
  | word (test : WordTest) (unicode : Bool)
  deriving DecidableEq, Repr

/-- A pattern with its flags applied, in the form that patterns are combined into: literals are
as long as they can be, a class of one character is a literal, nested sequences and alternations
are flattened, and an alternation of single characters or classes is one class. -/
inductive Pattern where
  | empty
  | literal (chars : List Char)
  | chars (set : CharSet)
  | assert (a : Assertion)
  /-- The pattern repeated at least `least` times, and at most `most` times when given. `greedy`
  is the preference between more and fewer rounds, which does not change whether a name matches. -/
  | repetition (least : Nat) (most : Option Nat) (greedy : Bool) (sub : Pattern)
  | capture (index : Nat) (name : Option String) (sub : Pattern)
  | concat (items : List Pattern)
  | alternation (branches : List Pattern)
  deriving BEq, Repr

structure Flags where
  caseInsensitive : Bool := false
  multiLine : Bool := false
  dotAll : Bool := false
  /-- `U`: repetitions are lazy unless marked; whether a name matches does not depend on it. -/
  swapGreed : Bool := false
  unicode : Bool := true
  verbose : Bool := false
  crlf : Bool := false
  deriving DecidableEq, Repr

def Flags.set? (f : Flags) (letter : Char) (on : Bool) : Option Flags :=
  match letter with
  | 'i' => some { f with caseInsensitive := on }
  | 'm' => some { f with multiLine := on }
  | 's' => some { f with dotAll := on }
  | 'U' => some { f with swapGreed := on }
  | 'u' => some { f with unicode := on }
  | 'x' => some { f with verbose := on }
  | 'R' => some { f with crlf := on }
  | _ => none

end ObjcImage
