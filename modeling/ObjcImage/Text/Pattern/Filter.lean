import ObjcImage.Text.Pattern.Translate
import ObjcImage.Text.Pattern.Nesting
import ObjcImage.Text.Pattern.ProgramSize
import ObjcImage.Text.Pattern.Match

set_option autoImplicit false

/-!
A name filter from its text: read, checked for nesting, given its meaning under the flags, and
checked for the size of its program, in this order; the first refusal is the answer.
-/

namespace ObjcImage

namespace Pattern

/-- Why the text of a name filter is refused: its pattern is malformed, or its program would be
too big. -/
inductive FilterError where
  | malformed (pattern : String) (e : PatternError)
  | tooLarge (limit : Nat)
  deriving DecidableEq, Repr

def FilterError.message : FilterError → String
  | .malformed pattern e => e.report pattern
  | .tooLarge limit => "Compiled regex exceeds size limit of " ++ toString limit ++ " bytes."

def compile (text : String) : Except FilterError Pattern :=
  let meaning := do
    let s ← Syntax.read text
    let s ← s.checkNesting
    s.toPattern
  match meaning with
  | .error e => .error (.malformed text e)
  | .ok p => if p.fitsSizeLimit then .ok p else .error (.tooLarge sizeLimit)

end Pattern

end ObjcImage
