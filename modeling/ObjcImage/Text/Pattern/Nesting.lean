import ObjcImage.Text.Pattern.Error

set_option autoImplicit false

/-!
How deeply a pattern nests: it is refused at the first part, in writing order, deeper than the limit.
-/

namespace ObjcImage

namespace Pattern

def nestLimit : Nat := 250

/-- The part at `span` opens a level below `depth`: the refusal when the new level passes the
limit, or else what `inside` finds at the new level. -/
def enterLevel (limit depth : Nat) (span : Span) (inside : Nat → Option Span) : Option Span :=
  if depth + 1 > limit then some span else inside (depth + 1)

mutual

def ClassSyntax.tooDeep (limit depth : Nat) : ClassSyntax → Option Span
  | .bracketed span _ body => enterLevel limit depth span fun d => ClassSyntax.tooDeep limit d body
  | .union span items => enterLevel limit depth span fun d => ClassSyntax.tooDeepAll limit d items
  | .op span _ lhs rhs =>
    enterLevel limit depth span fun d =>
      (ClassSyntax.tooDeep limit d lhs).or (ClassSyntax.tooDeep limit d rhs)
  | _ => none

def ClassSyntax.tooDeepAll (limit depth : Nat) : List ClassSyntax → Option Span
  | [] => none
  | c :: more => (ClassSyntax.tooDeep limit depth c).or (ClassSyntax.tooDeepAll limit depth more)

end

mutual

def Syntax.tooDeep (limit depth : Nat) : Syntax → Option Span
  | .bracketed span _ body => enterLevel limit depth span fun d => body.tooDeep limit d
  | .repetition span _ _ sub => enterLevel limit depth span fun d => Syntax.tooDeep limit d sub
  | .group span _ sub => enterLevel limit depth span fun d => Syntax.tooDeep limit d sub
  | .alternation span items => enterLevel limit depth span fun d => Syntax.tooDeepAll limit d items
  | .concat span items => enterLevel limit depth span fun d => Syntax.tooDeepAll limit d items
  | _ => none

def Syntax.tooDeepAll (limit depth : Nat) : List Syntax → Option Span
  | [] => none
  | s :: more => (Syntax.tooDeep limit depth s).or (Syntax.tooDeepAll limit depth more)

end

def Syntax.checkNesting (s : Syntax) : Except PatternError Syntax :=
  match s.tooDeep nestLimit 0 with
  | some span => .error { kind := .nestLimitExceeded nestLimit, span }
  | none => .ok s

end Pattern

end ObjcImage
