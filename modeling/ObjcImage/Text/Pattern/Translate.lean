import ObjcImage.Text.Pattern.Parser
import ObjcImage.Text.Pattern.Combine

set_option autoImplicit false

/-!
The meaning of a syntax tree under the flags in force. A refusal is the first met in the order in
which the parts of the tree end.
-/

namespace ObjcImage

open Text

namespace Pattern

/-- A set widened by case folding when the flags ask for it: Unicode simple case folding, or
ASCII letters only without the `u` flag. -/
def fold (flags : Flags) (s : CharSet) : CharSet :=
  if flags.caseInsensitive then (if flags.unicode then s.caseFold else s.asciiCaseFold) else s

def finishClass (flags : Flags) (span : Span) (negated : Bool) (s : CharSet) :
    Except PatternError CharSet :=
  let folded := fold flags s
  let result := if negated then folded.complement else folded
  if !flags.unicode && !result.isAscii then Reader.fail .invalidUtf8 span else .ok result

def PerlClass.members (flags : Flags) (cls : PerlClass) : Except PatternError CharSet :=
  let s := cls.kind.members flags.unicode
  let result := if cls.negated then s.complement else s
  if !flags.unicode && !result.isAscii then Reader.fail .invalidUtf8 cls.span else .ok result

def UnicodeClass.members (flags : Flags) (cls : UnicodeClass) : Except PatternError CharSet :=
  if !flags.unicode then Reader.fail .unicodeNotAllowed cls.span
  else
    let found := match cls.query with
      | .name n => CharClass.named n
      | .value p v => CharClass.byValue p v
    match found with
    | .error .propertyNotFound => Reader.fail .unicodePropertyNotFound cls.span
    | .error .valueNotFound => Reader.fail .unicodePropertyValueNotFound cls.span
    | .ok s => finishClass flags cls.span cls.negated s

/-- The character a literal stands for, checked for the flags: without the `u` flag, `\x` with
two digits above `7F` would stand for a byte that is not a character. -/
def Literal.checked (flags : Flags) (lit : Literal) : Except PatternError Char :=
  if !flags.unicode && lit.hexByte && lit.char.toNat > 0x7F then Reader.fail .invalidUtf8 lit.span
  else .ok lit.char

def Literal.classPoint (flags : Flags) (lit : Literal) : Except PatternError Nat :=
  match lit.checked flags with
  | .error e => .error e
  | .ok c =>
    if !flags.unicode && c.toNat > 0x7F then Reader.fail .unicodeNotAllowed lit.span else .ok c.toNat

def ClassSyntax.members (flags : Flags) : ClassSyntax → Except PatternError CharSet
  | .empty _ => .ok CharSet.empty
  | .literal lit => (lit.classPoint flags).map CharSet.single
  | .range _ lo hi =>
    match lo.classPoint flags, hi.classPoint flags with
    | .error e, _ => .error e
    | _, .error e => .error e
    | .ok a, .ok b => .ok (CharSet.interval a b)
  | .posix cls => finishClass flags cls.span cls.negated cls.members
  | .unicode cls => cls.members flags
  | .perl cls => cls.members flags
  | .bracketed span negated body =>
    match ClassSyntax.members flags body with
    | .error e => .error e
    | .ok s => finishClass flags span negated s
  | .union _ items => unionMembers flags items
  | .op _ kind lhs rhs =>
    match ClassSyntax.members flags lhs with
    | .error e => .error e
    | .ok a =>
      match ClassSyntax.members flags rhs with
      | .error e => .error e
      | .ok b => .ok (kind.apply (fold flags a) (fold flags b))
where
  unionMembers (flags : Flags) : List ClassSyntax → Except PatternError CharSet
    | [] => .ok CharSet.empty
    | item :: more =>
      match ClassSyntax.members flags item with
      | .error e => .error e
      | .ok s => (unionMembers flags more).map (CharSet.union s)

def charPattern (flags : Flags) (c : Char) : Pattern :=
  if flags.caseInsensitive then
    if flags.unicode then
      let orbit := foldOrbit c.toNat
      if orbit.length ≤ 1 then .literal [c]
      else ofClass (CharSet.ofRanges (orbit.map fun x => (x, x)))
    else if c.isAlpha then ofClass (CharSet.single c.toNat).asciiCaseFold
    else .literal [c]
  else .literal [c]

/-- The characters `.` matches: all, or all but the newline, or without `s` and with `R` all but
the newline and the carriage return. -/
def dot (flags : Flags) : CharSet :=
  if flags.dotAll then CharSet.all
  else if flags.crlf then CharSet.ofRanges [(0, 0x9), (0xB, 0xC), (0xE, maxCodePoint)]
  else CharSet.ofRanges [(0, 0x9), (0xB, maxCodePoint)]

def assertionOf (flags : Flags) : AssertionKind → Assertion
  | .startLine => if flags.multiLine then .lineStart flags.crlf else .textStart
  | .endLine => if flags.multiLine then .lineEnd flags.crlf else .textEnd
  | .startText => .textStart
  | .endText => .textEnd
  | .wordBoundary => .word .boundary flags.unicode
  | .notWordBoundary => .word .notBoundary flags.unicode
  | .wordStart => .word .start flags.unicode
  | .wordEnd => .word .finish flags.unicode
  | .wordStartHalf => .word .startHalf flags.unicode
  | .wordEndHalf => .word .finishHalf flags.unicode

mutual

def Syntax.meaning (flags : Flags) : Syntax → Except PatternError (Pattern × Flags)
  | .empty _ => .ok (.empty, flags)
  | .flags _ items => .ok (.empty, flags.applyItems items)
  | .literal lit => (lit.checked flags).map fun c => (charPattern flags c, flags)
  | .dot span =>
    if !flags.unicode then Reader.fail .invalidUtf8 span else .ok (ofClass (dot flags), flags)
  | .assertion _ kind => .ok (.assert (assertionOf flags kind), flags)
  | .unicodeClass cls => (cls.members flags).map fun s => (ofClass s, flags)
  | .perlClass cls => (cls.members flags).map fun s => (ofClass s, flags)
  | .bracketed span negated body =>
    match body.members flags with
    | .error e => .error e
    | .ok s => (finishClass flags span negated s).map fun s => (ofClass s, flags)
  | .repetition _ kind greedy sub =>
    match Syntax.meaning flags sub with
    | .error e => .error e
    | .ok (p, after) =>
      let (least, most) := kind.bounds
      .ok (rep least most (greedy != after.swapGreed) p, after)
  | .group _ kind sub =>
    let inner := match kind with
      | .nonCapturing items => flags.applyItems items
      | .capture _ _ => flags
    match Syntax.meaning inner sub with
    | .error e => .error e
    | .ok (p, _) =>
      match kind with
      | .capture index name => .ok (.capture index name p, flags)
      | .nonCapturing _ => .ok (p, flags)
  | .alternation _ branches =>
    (meaningAll flags branches).map fun (ps, after) => (alt ps, after)
  | .concat _ items =>
    (meaningAll flags items).map fun (ps, after) => (seq ps, after)

def meaningAll (flags : Flags) : List Syntax → Except PatternError (List Pattern × Flags)
  | [] => .ok ([], flags)
  | s :: more =>
    match Syntax.meaning flags s with
    | .error e => .error e
    | .ok (p, after) => (meaningAll after more).map fun (ps, last) => (p :: ps, last)

end

def Syntax.toPattern (s : Syntax) : Except PatternError Pattern :=
  (s.meaning {}).map (·.1)

end Pattern

end ObjcImage
