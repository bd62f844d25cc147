import ObjcImage.Text.Pattern.CharClass

set_option autoImplicit false

/-!
The syntax tree of a name filter, as it is written, each node with the stretch of text it was read
from.
-/

namespace ObjcImage

open Text

namespace Pattern

/-- A stretch of a pattern's text, by the offset in characters of its first character and of the
character after its last. -/
structure Span where
  start : Nat
  stop : Nat
  deriving DecidableEq, Repr

structure Literal where
  span : Span
  char : Char
  /-- Written as `\x` and exactly two hexadecimal digits, so that without the `u` flag it stands
  for a byte. -/
  hexByte : Bool := false
  deriving DecidableEq, Repr

structure PerlClass where
  span : Span
  kind : CharClass.Perl
  negated : Bool
  deriving Repr

inductive UnicodeQuery where
  | name (name : String)
  | value (property value : String)
  deriving DecidableEq, Repr

/-- A Unicode class `\p{…}` or `\P{…}`; `negated` already counts a `!=` between name and value. -/
structure UnicodeClass where
  span : Span
  negated : Bool
  query : UnicodeQuery
  deriving Repr

structure PosixClass where
  span : Span
  members : CharSet
  negated : Bool

inductive SetOp where
  | inter
  | diff
  | symmDiff
  deriving DecidableEq, Repr

def SetOp.apply : SetOp → CharSet → CharSet → CharSet
  | .inter, a, b => a.inter b
  | .diff, a, b => a.diff b
  | .symmDiff, a, b => a.symmDiff b

inductive ClassSyntax where
  | empty (span : Span)
  | literal (lit : Literal)
  | range (span : Span) (lo hi : Literal)
  | posix (cls : PosixClass)
  | unicode (cls : UnicodeClass)
  | perl (cls : PerlClass)
  | bracketed (span : Span) (negated : Bool) (body : ClassSyntax)
  | union (span : Span) (items : List ClassSyntax)
  | op (span : Span) (kind : SetOp) (lhs rhs : ClassSyntax)

namespace ClassSyntax

def span : ClassSyntax → Span
  | .empty s => s
  | .literal lit => lit.span
  | .range s _ _ => s
  | .posix cls => cls.span
  | .unicode cls => cls.span
  | .perl cls => cls.span
  | .bracketed s _ _ => s
  | .union s _ => s
  | .op s _ _ _ => s

end ClassSyntax

inductive AssertionKind where
  | startLine
  | endLine
  | startText
  | endText
  | wordBoundary
  | notWordBoundary
  | wordStart
  | wordEnd
  | wordStartHalf
  | wordEndHalf
  deriving DecidableEq, Repr

inductive RepetitionKind where
  | zeroOrOne
  | zeroOrMore
  | oneOrMore
  | exactly (n : Nat)
  | atLeast (n : Nat)
  | bounded (m n : Nat)
  deriving DecidableEq, Repr

def RepetitionKind.bounds : RepetitionKind → Nat × Option Nat
  | .zeroOrOne => (0, some 1)
  | .zeroOrMore => (0, none)
  | .oneOrMore => (1, none)
  | .exactly n => (n, some n)
  | .atLeast n => (n, none)
  | .bounded m n => (m, some n)

inductive FlagItem where
  | negation
  | flag (letter : Char)
  deriving DecidableEq, Repr

end Pattern

def Flags.applyItems (f : Flags) (items : List Pattern.FlagItem) : Flags :=
  (items.foldl (fun (acc : Flags × Bool) item =>
    match item with
    | .negation => (acc.1, false)
    | .flag c => ((acc.1.set? c acc.2).getD acc.1, acc.2)) (f, true)).1

namespace Pattern

/-- What a group is: a capture with its index (counted from one) and perhaps a name, or a group
that only gathers, perhaps with flags of its own. -/
inductive GroupKind where
  | capture (index : Nat) (name : Option String)
  | nonCapturing (flags : List FlagItem)
  deriving DecidableEq, Repr

inductive Syntax where
  | empty (span : Span)
  /-- A flag group without a body, such as `(?i)`. -/
  | flags (span : Span) (items : List FlagItem)
  | literal (lit : Literal)
  | dot (span : Span)
  | assertion (span : Span) (kind : AssertionKind)
  | unicodeClass (cls : UnicodeClass)
  | perlClass (cls : PerlClass)
  | bracketed (span : Span) (negated : Bool) (body : ClassSyntax)
  | repetition (span : Span) (kind : RepetitionKind) (greedy : Bool) (sub : Syntax)
  | group (span : Span) (kind : GroupKind) (sub : Syntax)
  | alternation (span : Span) (branches : List Syntax)
  | concat (span : Span) (items : List Syntax)

namespace Syntax

def span : Syntax → Span
  | .empty s => s
  | .flags s _ => s
  | .literal lit => lit.span
  | .dot s => s
  | .assertion s _ => s
  | .unicodeClass cls => cls.span
  | .perlClass cls => cls.span
  | .bracketed s _ _ => s
  | .repetition s _ _ _ => s
  | .group s _ _ => s
  | .alternation s _ => s
  | .concat s _ => s

end Syntax

end Pattern

end ObjcImage
