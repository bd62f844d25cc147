import ObjcImage.Text.Pattern.Syntax

set_option autoImplicit false

/-!
Why a name filter is refused, and the report that marks where with carets under the pattern.
-/

namespace ObjcImage

open Text

namespace Pattern

inductive ErrorKind where
  | classEscapeInvalid
  | classRangeInvalid
  | classRangeLiteral
  | classUnclosed
  | decimalInvalid
  | escapeHexEmpty
  | escapeHexInvalid
  | escapeHexInvalidDigit
  | escapeUnexpectedEof
  | escapeUnrecognized
  | flagDanglingNegation
  | flagDuplicate
  | flagRepeatedNegation
  | flagUnexpectedEof
  | flagUnrecognized
  | groupNameDuplicate
  | groupNameEmpty
  | groupNameInvalid
  | groupNameUnexpectedEof
  | groupUnclosed
  | groupUnopened
  | nestLimitExceeded (limit : Nat)
  | repetitionCountInvalid
  | repetitionCountDecimalEmpty
  | repetitionCountUnclosed
  | repetitionMissing
  | specialWordBoundaryUnclosed
  | specialWordBoundaryUnrecognized
  | specialWordOrRepetitionUnexpectedEof
  | unicodeClassInvalid
  | unsupportedBackreference
  | unsupportedLookAround
  | unicodeNotAllowed
  | invalidUtf8
  | unicodePropertyNotFound
  | unicodePropertyValueNotFound
  deriving DecidableEq, Repr

def ErrorKind.message : ErrorKind → String
  | .classEscapeInvalid => "invalid escape sequence found in character class"
  | .classRangeInvalid => "invalid character class range, the start must be <= the end"
  | .classRangeLiteral => "invalid range boundary, must be a literal"
  | .classUnclosed => "unclosed character class"
  | .decimalInvalid => "decimal literal invalid"
  | .escapeHexEmpty => "hexadecimal literal empty"
  | .escapeHexInvalid => "hexadecimal literal is not a Unicode scalar value"
  | .escapeHexInvalidDigit => "invalid hexadecimal digit"
  | .escapeUnexpectedEof => "incomplete escape sequence, reached end of pattern prematurely"
  | .escapeUnrecognized => "unrecognized escape sequence"
  | .flagDanglingNegation => "dangling flag negation operator"
  | .flagDuplicate => "duplicate flag"
  | .flagRepeatedNegation => "flag negation operator repeated"
  | .flagUnexpectedEof => "expected flag but got end of regex"
  | .flagUnrecognized => "unrecognized flag"
  | .groupNameDuplicate => "duplicate capture group name"
  | .groupNameEmpty => "empty capture group name"
  | .groupNameInvalid => "invalid capture group character"
  | .groupNameUnexpectedEof => "unclosed capture group name"
  | .groupUnclosed => "unclosed group"
  | .groupUnopened => "unopened group"
  | .nestLimitExceeded limit =>
    "exceed the maximum number of nested parentheses/brackets (" ++ toString limit ++ ")"
  | .repetitionCountInvalid => "invalid repetition count range, the start must be <= the end"
  | .repetitionCountDecimalEmpty => "repetition quantifier expects a valid decimal"
  | .repetitionCountUnclosed => "unclosed counted repetition"
  | .repetitionMissing => "repetition operator missing expression"
  | .specialWordBoundaryUnclosed =>
    "special word boundary assertion is either unclosed or contains an invalid character"
  | .specialWordBoundaryUnrecognized =>
    "unrecognized special word boundary assertion, valid choices are: start, end, start-half or end-half"
  | .specialWordOrRepetitionUnexpectedEof =>
    "found either the beginning of a special word boundary or a bounded repetition on a \\b with " ++
      "an opening brace, but no closing brace"
  | .unicodeClassInvalid => "invalid Unicode character class"
  | .unsupportedBackreference => "backreferences are not supported"
  | .unsupportedLookAround => "look-around, including look-ahead and look-behind, is not supported"
  | .unicodeNotAllowed => "Unicode not allowed here"
  | .invalidUtf8 => "pattern can match invalid UTF-8"
  | .unicodePropertyNotFound => "Unicode property not found"
  | .unicodePropertyValueNotFound => "Unicode property value not found"

structure PatternError where
  kind : ErrorKind
  span : Span
  earlier : Option Span := none
  deriving DecidableEq, Repr

/-! ### The report -/

structure Place where
  line : Nat
  column : Nat
  deriving DecidableEq, Repr

def placeOf (text : List Char) (offset : Nat) : Place :=
  (text.take offset).foldl
    (fun p c => if c == '\n' then ⟨p.line + 1, 1⟩ else ⟨p.line, p.column + 1⟩) ⟨1, 1⟩

def dropReturn (line : List Char) : List Char :=
  if line.getLast? == some '\r' then line.dropLast else line

/-- The lines of a text: split at each newline, with a carriage return right before a newline
dropped, and no line after a final newline. -/
def textLines (text : List Char) : List (List Char) :=
  let parts := text.splitOn '\n'
  if text.isEmpty then []
  else if text.getLast? == some '\n' then parts.dropLast.map dropReturn
  else parts.dropLast.map dropReturn ++ parts.getLast?.toList

def numberWidth (text : List Char) : Nat :=
  let count := (textLines text).length + (if text.getLast? == some '\n' then 1 else 0)
  if count ≤ 1 then 0 else (toString count).length

/-- The caret line under a line of the pattern for the stretches on it, given as pairs of columns
in increasing order; each stretch gets at least one caret. -/
def caretLine (indent : Nat) (columns : List (Nat × Nat)) : String :=
  let step (acc : String × Nat) (c : Nat × Nat) : String × Nat :=
    let pad := c.1 - 1 - acc.2
    let width := max 1 (c.2 - c.1)
    (acc.1 ++ String.ofList (List.replicate pad ' ') ++ String.ofList (List.replicate width '^'),
      acc.2 + pad + width)
  (columns.foldl step (String.ofList (List.replicate indent ' '), 0)).1

def paddedNumber (width n : Nat) : String :=
  let s := toString n
  String.ofList (List.replicate (width - s.length) ' ') ++ s

namespace PatternError

def spans (e : PatternError) : List Span :=
  match e.earlier with
  | none => [e.span]
  | some a => if a.start < e.span.start || (a.start == e.span.start && a.stop ≤ e.span.stop)
    then [a, e.span] else [e.span, a]

def report (e : PatternError) (pattern : String) : String :=
  let text := pattern.toList
  let width := numberWidth text
  let indent := if width == 0 then 4 else width + 2
  let placed := e.spans.map fun s => (placeOf text s.start, placeOf text s.stop)
  let oneLine := placed.filter fun p => p.1.line == p.2.line
  let multiLine := placed.filter fun p => p.1.line != p.2.line
  let body := (textLines text).zipIdx.foldl (fun acc (line, i) =>
    let head := if width == 0 then "    " else paddedNumber width (i + 1) ++ ": "
    let marks := oneLine.filter fun p => p.1.line == i + 1
    let carets := if marks.isEmpty then "" else
      caretLine indent (marks.map fun p => (p.1.column, p.2.column)) ++ "\n"
    acc ++ head ++ String.ofList line ++ "\n" ++ carets) ""
  let kind := "error: " ++ e.kind.message
  if text.contains '\n' then
    let rule := String.ofList (List.replicate 79 '~')
    let notes := multiLine.map fun p =>
      "on line " ++ toString p.1.line ++ " (column " ++ toString p.1.column ++ ") through line " ++
        toString p.2.line ++ " (column " ++ toString (p.2.column - 1) ++ ")"
    let noteText := if notes.isEmpty then "" else String.intercalate "\n" notes ++ "\n"
    "regex parse error:\n" ++ rule ++ "\n" ++ body ++ rule ++ "\n" ++ noteText ++ kind
  else
    "regex parse error:\n" ++ body ++ kind

end PatternError

end Pattern

end ObjcImage
