import ObjcImage.Text.Pattern.Error
import ObjcImage.Text.Unicode.Alphanumeric

set_option autoImplicit false

/-!
Reading a name filter into its syntax tree. Every reader returns a suffix of its input no longer
than it, so the main loop ends on every pattern. Only the `x` flag matters to reading.
-/

namespace ObjcImage

open Text

namespace Pattern

/-- A suffix of the input that is no longer than it. -/
abbrev Within (input : List Char) := { r : List Char // r.length ≤ input.length }

def Within.trans {a : List Char} (b : Within a) (c : Within b.1) : Within a :=
  ⟨c.1, Nat.le_trans c.2 b.2⟩

def Within.uncons? {input : List Char} :
    Within input → Option (Char × { r : List Char // r.length < input.length })
  | ⟨[], _⟩ => none
  | ⟨c :: rest, h⟩ => some (c, ⟨rest, h⟩)

theorem length_drop_le_self (n : Nat) (l : List Char) : (l.drop n).length ≤ l.length := by
  rw [List.length_drop]; exact Nat.sub_le _ _

def skipVerbose (inComment : Bool) : List Char → List Char
  | [] => []
  | c :: rest =>
    if inComment then skipVerbose (c != '\n') rest
    else if CharClass.isWhiteSpace c then skipVerbose false rest
    else if c == '#' then skipVerbose true rest
    else c :: rest

theorem length_skipVerbose_le (inComment : Bool) (input : List Char) :
    (skipVerbose inComment input).length ≤ input.length := by
  induction input generalizing inComment with
  | nil => exact Nat.le_refl _
  | cons c rest ih =>
    simp only [skipVerbose]
    split
    · exact Nat.le_succ_of_le (ih _)
    · split
      · exact Nat.le_succ_of_le (ih _)
      · split
        · exact Nat.le_succ_of_le (ih _)
        · exact Nat.le_refl _

structure Reader where
  total : Nat
  verbose : Bool

namespace Reader

def offset (r : Reader) (rest : List Char) : Nat := r.total - rest.length

def point (r : Reader) (rest : List Char) : Span := ⟨r.offset rest, r.offset rest⟩

def charSpan (r : Reader) (rest : List Char) : Span := ⟨r.offset rest, r.offset rest + 1⟩

def between (r : Reader) (start stop : List Char) : Span := ⟨r.offset start, r.offset stop⟩

def skip (r : Reader) (input : List Char) : Within input :=
  if r.verbose then ⟨skipVerbose false input, length_skipVerbose_le false input⟩
  else ⟨input, Nat.le_refl _⟩

def fail {α : Type} (kind : ErrorKind) (span : Span) : Except PatternError α :=
  .error { kind, span }

end Reader

/-- The character a class range looks at after its `-` in verbose mode: the first one past white
space and a `#` that is not white space, or the one right after the `-` when there is none. -/
def peekVerbose (fallback : Option Char) (inComment : Bool) : List Char → Option Char
  | [] => fallback
  | c :: cs =>
    if CharClass.isWhiteSpace c then peekVerbose fallback inComment cs
    else if !inComment && c == '#' then peekVerbose fallback true cs
    else some c

def Reader.peekAfterDash (r : Reader) (after : List Char) : Option Char :=
  if r.verbose then peekVerbose after.head? false after else after.head?

/-! ### Escapes -/

inductive Primitive where
  | literal (lit : Literal)
  | assertion (span : Span) (kind : AssertionKind)
  | dot (span : Span)
  | perl (cls : PerlClass)
  | unicode (cls : UnicodeClass)

def Primitive.span : Primitive → Span
  | .literal lit => lit.span
  | .assertion s _ => s
  | .dot s => s
  | .perl cls => cls.span
  | .unicode cls => cls.span

def isMeta (c : Char) : Bool := "\\.+*?()|[]{}^$#&-~".toList.contains c

/-- Whether a backslash before the character makes it stand for itself: the special characters, and
every other ASCII character but letters, digits, `<` and `>`. -/
def isEscapable (c : Char) : Bool :=
  isMeta c || (c.toNat < 0x80 && !c.isAlphanum && c != '<' && c != '>')

def isHexDigit (c : Char) : Bool :=
  c.isDigit || ('a' ≤ c && c ≤ 'f') || ('A' ≤ c && c ≤ 'F')

def hexDigitValue (c : Char) : Nat :=
  if c.isDigit then c.toNat - '0'.toNat
  else if 'a' ≤ c && c ≤ 'f' then c.toNat - 'a'.toNat + 10
  else c.toNat - 'A'.toNat + 10

def hexValue (ds : List Char) : Nat := ds.foldl (fun n d => 16 * n + hexDigitValue d) 0

def scalar? (n : Nat) : Option Char :=
  if n ≤ maxCodePoint && !(0xD800 ≤ n && n ≤ 0xDFFF) then some (Char.ofNat n) else none

def readHexFixed (r : Reader) : Nat → (input : List Char) →
    Except PatternError (List Char × Within input)
  | _, [] => Reader.fail .escapeUnexpectedEof (r.point [])
  | count, c :: rest =>
    if !isHexDigit c then Reader.fail .escapeHexInvalidDigit (r.charSpan (c :: rest))
    else
      let s := r.skip rest
      match count with
      | 0 => .ok ([c], ⟨s.1, Nat.le_succ_of_le s.2⟩)
      | more + 1 =>
        if s.1.isEmpty then Reader.fail .escapeUnexpectedEof (r.point [])
        else
          match readHexFixed r more s.1 with
          | .error e => .error e
          | .ok (ds, after) => .ok (c :: ds, ⟨after.1, Nat.le_succ_of_le (Nat.le_trans after.2 s.2)⟩)

def readHexBraced (r : Reader) (brace : Nat) (input : List Char) :
    Except PatternError (List Char × Within input) :=
  match r.skip input with
  | ⟨[], _⟩ => Reader.fail .escapeUnexpectedEof ⟨brace, r.total⟩
  | ⟨'}' :: rest, h⟩ => .ok ([], ⟨'}' :: rest, h⟩)
  | ⟨c :: rest, h⟩ =>
    if !isHexDigit c then Reader.fail .escapeHexInvalidDigit (r.charSpan (c :: rest))
    else
      have _hlen : rest.length < input.length := h
      match readHexBraced r brace rest with
      | .error e => .error e
      | .ok (ds, after) => .ok (c :: ds, ⟨after.1, Nat.le_of_lt (Nat.lt_of_le_of_lt after.2 _hlen)⟩)
termination_by input.length
decreasing_by omega

def readHex (r : Reader) (start : Nat) (letter : Char) (input : List Char) :
    Except PatternError (Primitive × Within input) :=
  match r.skip input with
  | ⟨[], _⟩ => Reader.fail .escapeUnexpectedEof (r.point [])
  | ⟨'{' :: after, h⟩ =>
    let brace := r.offset ('{' :: after)
    match readHexBraced r brace after with
    | .error e => .error e
    | .ok (ds, atClose) =>
      let close := r.offset atClose.1
      let rest := r.skip (atClose.1.drop 1)
      let stop := r.offset rest.1
      if ds.isEmpty then Reader.fail .escapeHexEmpty ⟨brace, stop⟩
      else if hexValue ds > 0xFFFFFFFF then Reader.fail .escapeHexInvalid ⟨brace + 1, close⟩
      else
        match scalar? (hexValue ds) with
        | none => Reader.fail .escapeHexInvalid ⟨brace + 1, close⟩
        | some c =>
          .ok (.literal { span := ⟨start, stop⟩, char := c },
            ⟨rest.1, Nat.le_trans rest.2 (Nat.le_trans (length_drop_le_self _ _)
              (Nat.le_trans atClose.2 (Nat.le_of_succ_le h)))⟩)
  | ⟨c :: more, h⟩ =>
    let digits := if letter == 'x' then 1 else if letter == 'u' then 3 else 7
    let first := r.offset (c :: more)
    match readHexFixed r digits (c :: more) with
    | .error e => .error e
    | .ok (ds, after) =>
      let stop := r.offset after.1
      match scalar? (hexValue ds) with
      | none => Reader.fail .escapeHexInvalid ⟨first, stop⟩
      | some d => .ok (.literal { span := ⟨start, stop⟩, char := d, hexByte := letter == 'x' },
          ⟨after.1, Nat.le_trans after.2 h⟩)

def readBraceName (r : Reader) (input : List Char) : Except PatternError (List Char × Within input) :=
  match r.skip input with
  | ⟨[], _⟩ => Reader.fail .escapeUnexpectedEof (r.point [])
  | ⟨'}' :: rest, h⟩ => .ok ([], ⟨rest, Nat.le_of_succ_le h⟩)
  | ⟨c :: rest, h⟩ =>
    have _hlen : rest.length < input.length := h
    match readBraceName r rest with
    | .error e => .error e
    | .ok (cs, after) => .ok (c :: cs, ⟨after.1, Nat.le_of_lt (Nat.lt_of_le_of_lt after.2 _hlen)⟩)
termination_by input.length
decreasing_by omega

def splitFirst (sep : List Char) : List Char → Option (List Char × List Char)
  | [] => none
  | c :: rest =>
    if sep.isPrefixOf (c :: rest) then some ([], (c :: rest).drop sep.length)
    else (splitFirst sep rest).map fun (before, after) => (c :: before, after)

def unicodeQuery (cs : List Char) : UnicodeQuery × Bool :=
  match splitFirst ['!', '='] cs with
  | some (name, value) => (.value (String.ofList name) (String.ofList value), true)
  | none =>
    match splitFirst [':'] cs with
    | some (name, value) => (.value (String.ofList name) (String.ofList value), false)
    | none =>
      match splitFirst ['='] cs with
      | some (name, value) => (.value (String.ofList name) (String.ofList value), false)
      | none => (.name (String.ofList cs), false)

def readUnicodeClass (r : Reader) (start : Nat) (negated : Bool) (input : List Char) :
    Except PatternError (Primitive × Within input) :=
  match r.skip input with
  | ⟨[], _⟩ => Reader.fail .escapeUnexpectedEof (r.point [])
  | ⟨'{' :: after, h⟩ =>
    match readBraceName r after with
    | .error e => .error e
    | .ok (cs, rest) =>
      let (query, flip) := unicodeQuery cs
      .ok (.unicode { span := ⟨start, r.offset rest.1⟩, negated := negated != flip, query },
        ⟨rest.1, Nat.le_trans rest.2 (Nat.le_of_succ_le h)⟩)
  | ⟨c :: more, h⟩ =>
    if c == '\\' then Reader.fail .unicodeClassInvalid (r.charSpan (c :: more))
    else
      let s := r.skip more
      .ok (.unicode { span := ⟨start, r.offset s.1⟩, negated, query := .name (String.singleton c) },
        ⟨s.1, Nat.le_trans s.2 (Nat.le_of_succ_le h)⟩)

def isBoundaryNameChar (c : Char) : Bool := c.isAlpha || c == '-'

def readBoundaryName (r : Reader) (input : List Char) : List Char × Within input :=
  match input with
  | [] => ([], ⟨[], Nat.le_refl _⟩)
  | c :: rest =>
    if isBoundaryNameChar c then
      have _hlen : (r.skip rest).1.length < (c :: rest).length :=
        Nat.lt_succ_of_le (r.skip rest).2
      let more := readBoundaryName r (r.skip rest).1
      (c :: more.1, ⟨more.2.1, Nat.le_of_lt (Nat.lt_of_le_of_lt more.2.2 _hlen)⟩)
    else ([], ⟨c :: rest, Nat.le_refl _⟩)
termination_by input.length
decreasing_by omega

/-- After `\b`: a special word boundary in braces, or the plain boundary when the brace does not
open a name (it then starts a counted repetition of the boundary). -/
def readBoundary (r : Reader) (start : Nat) (input : List Char) :
    Except PatternError (Primitive × Within input) :=
  let plain : Primitive := .assertion ⟨start, r.offset input⟩ .wordBoundary
  match input with
  | '{' :: after =>
    let brace := r.offset input
    match r.skip after with
    | ⟨[], _⟩ => Reader.fail .specialWordOrRepetitionUnexpectedEof ⟨start, r.total⟩
    | ⟨c :: more, h⟩ =>
      if !isBoundaryNameChar c then .ok (plain, ⟨'{' :: after, Nat.le_refl _⟩)
      else
        let contents := r.offset (c :: more)
        match readBoundaryName r (c :: more) with
        | (name, ⟨'}' :: rest, hr⟩) =>
          let close := r.offset ('}' :: rest)
          let tail : Within ('{' :: after) :=
            ⟨rest, Nat.le_succ_of_le (Nat.le_trans (Nat.le_of_succ_le hr) h)⟩
          let done (kind : AssertionKind) : Except PatternError (Primitive × Within ('{' :: after)) :=
            .ok (.assertion ⟨start, close + 1⟩ kind, tail)
          match String.ofList name with
          | "start" => done .wordStart
          | "end" => done .wordEnd
          | "start-half" => done .wordStartHalf
          | "end-half" => done .wordEndHalf
          | _ => Reader.fail .specialWordBoundaryUnrecognized ⟨contents, close⟩
        | (_, after2) => Reader.fail .specialWordBoundaryUnclosed ⟨brace, r.offset after2.1⟩
  | other => .ok (plain, ⟨other, Nat.le_refl _⟩)

def readEscape (r : Reader) (start : Nat) (input : List Char) :
    Except PatternError (Primitive × Within input) :=
  match input with
  | [] => Reader.fail .escapeUnexpectedEof ⟨start, r.total⟩
  | c :: rest =>
    let lift : Primitive × Within rest → Primitive × Within (c :: rest) :=
      fun (e, w) => (e, ⟨w.1, Nat.le_succ_of_le w.2⟩)
    let span : Span := ⟨start, r.offset rest⟩
    let plain (e : Primitive) : Except PatternError (Primitive × Within (c :: rest)) :=
      .ok (e, ⟨rest, Nat.le_succ _⟩)
    let literal (d : Char) := plain (.literal { span, char := d })
    let perl (kind : CharClass.Perl) (negated : Bool) := plain (.perl { span, kind, negated })
    let assertion (kind : AssertionKind) := plain (.assertion span kind)
    if c.isDigit then Reader.fail .unsupportedBackreference span
    else if c == 'x' || c == 'u' || c == 'U' then (readHex r start c rest).map lift
    else if c == 'p' || c == 'P' then (readUnicodeClass r start (c == 'P') rest).map lift
    else
      match c with
      | 'd' => perl .digit false
      | 'D' => perl .digit true
      | 's' => perl .space false
      | 'S' => perl .space true
      | 'w' => perl .word false
      | 'W' => perl .word true
      | _ =>
        if isEscapable c then literal c
        else
          match c with
          | 'a' => literal (Char.ofNat 0x7)
          | 'f' => literal (Char.ofNat 0xC)
          | 't' => literal '\t'
          | 'n' => literal '\n'
          | 'r' => literal '\r'
          | 'v' => literal (Char.ofNat 0xB)
          | 'A' => assertion .startText
          | 'z' => assertion .endText
          | 'B' => assertion .notWordBoundary
          | '<' => assertion .wordStart
          | '>' => assertion .wordEnd
          | 'b' => (readBoundary r start rest).map lift
          | _ => Reader.fail .escapeUnrecognized span

/-! ### Classes -/

structure Members where
  span : Span
  items : List ClassSyntax := []

def Members.push (m : Members) (item : ClassSyntax) : Members :=
  { span := ⟨if m.items.isEmpty then item.span.start else m.span.start, item.span.stop⟩,
    items := item :: m.items }

def Members.toItem (m : Members) : ClassSyntax :=
  match m.items with
  | [] => .empty m.span
  | [x] => x
  | xs => .union m.span xs.reverse

structure OpenBracket where
  span : Span
  negated : Bool

inductive ClassFrame where
  | bracket (outer : Members) (opening : OpenBracket)
  | operator (kind : SetOp) (lhs : ClassSyntax)

def applyWaiting (stack : List ClassFrame) (rhs : ClassSyntax) : ClassSyntax × List ClassFrame :=
  match stack with
  | .operator kind lhs :: more => (.op ⟨lhs.span.start, rhs.span.stop⟩ kind lhs rhs, more)
  | other => (rhs, other)

def unclosedClass (stack : List ClassFrame) : PatternError :=
  match stack.findSome? fun f => match f with
    | .bracket _ o => some o.span
    | .operator _ _ => none with
  | some span => { kind := .classUnclosed, span }
  | none => { kind := .classUnclosed, span := ⟨0, 0⟩ }

def leadingDashes (r : Reader) (bracket : Nat) (m : Members) (input : List Char) :
    Except PatternError (Members × Within input) :=
  match input with
  | '-' :: rest =>
    let s := r.skip rest
    let m2 := m.push (.literal { span := r.charSpan input, char := '-' })
    if s.1.isEmpty then Reader.fail .classUnclosed ⟨bracket, bracket⟩
    else
      have _hlen : s.1.length < ('-' :: rest).length := Nat.lt_succ_of_le s.2
      match leadingDashes r bracket m2 s.1 with
      | .error e => .error e
      | .ok (m3, after) => .ok (m3, ⟨after.1, Nat.le_of_lt (Nat.lt_of_le_of_lt after.2 _hlen)⟩)
  | other => .ok (m, ⟨other, Nat.le_refl _⟩)
termination_by input.length
decreasing_by omega

/-- The opening of a bracketed class after its `[`, which stands at offset `bracket`: a `^`
negates it, leading dashes stand for themselves, and so does a `]` that comes first. -/
def openClass (r : Reader) (bracket : Nat) (input : List Char) :
    Except PatternError ((OpenBracket × Members) × Within input) :=
  let s := r.skip input
  if s.1.isEmpty then Reader.fail .classUnclosed ⟨bracket, r.total⟩
  else
    let start : Bool × Within input :=
      match s with
      | ⟨'^' :: rest, h⟩ => (true, ⟨(r.skip rest).1, Nat.le_trans (Nat.le_succ_of_le (r.skip rest).2) h⟩)
      | other => (false, other)
    if start.2.1.isEmpty then Reader.fail .classUnclosed ⟨bracket, r.total⟩
    else
      match leadingDashes r bracket { span := r.point start.2.1 } start.2.1 with
      | .error e => .error e
      | .ok (m, w) =>
        let afterDashes : Within input := start.2.trans w
        let finish (m : Members) (at_ : Within input) :
            Except PatternError ((OpenBracket × Members) × Within input) :=
          .ok (({ span := ⟨bracket, r.offset at_.1⟩, negated := start.1 }, m), at_)
        match afterDashes with
        | ⟨']' :: rest, h⟩ =>
          if !m.items.isEmpty then finish m afterDashes
          else
            let s2 := r.skip rest
            let m2 := m.push (.literal { span := r.charSpan (']' :: rest), char := ']' })
            if s2.1.isEmpty then Reader.fail .classUnclosed ⟨bracket, r.total⟩
            else finish m2 ⟨s2.1, Nat.le_trans s2.2 (Nat.le_of_succ_le h)⟩
        | other => finish m other

def posixName (acc : List Char) : (input : List Char) → Option (CharSet × Within input)
  | ':' :: ']' :: tail =>
    (CharClass.posixClass? (String.ofList acc)).map fun s => (s, ⟨tail, Nat.le_succ_of_le (Nat.le_succ _)⟩)
  | ':' :: _ => none
  | c :: rest => (posixName (acc ++ [c]) rest).map fun (s, w) => (s, ⟨w.1, Nat.le_succ_of_le w.2⟩)
  | [] => none

def posixClass? (r : Reader) (bracket : Nat) (input : List Char) : Option (PosixClass × Within input) :=
  match input with
  | ':' :: '^' :: body =>
    (posixName [] body).map fun (s, w) =>
      ({ span := ⟨bracket, r.offset w.1⟩, members := s, negated := true },
        ⟨w.1, Nat.le_succ_of_le (Nat.le_succ_of_le w.2)⟩)
  | ':' :: body =>
    (posixName [] body).map fun (s, w) =>
      ({ span := ⟨bracket, r.offset w.1⟩, members := s, negated := false }, ⟨w.1, Nat.le_succ_of_le w.2⟩)
  | _ => none

def classPrimitive (r : Reader) (c : Char) (rest : List Char) : Except PatternError (Primitive × Within rest) :=
  if c == '\\' then readEscape r (r.offset (c :: rest)) rest
  else .ok (.literal { span := r.charSpan (c :: rest), char := c }, ⟨rest, Nat.le_refl _⟩)

def Primitive.toClassItem : Primitive → Except PatternError ClassSyntax
  | .literal lit => .ok (.literal lit)
  | .perl cls => .ok (.perl cls)
  | .unicode cls => .ok (.unicode cls)
  | p => Reader.fail .classEscapeInvalid p.span

def Primitive.toRangeEnd : Primitive → Except PatternError Literal
  | .literal lit => .ok lit
  | p => Reader.fail .classRangeLiteral p.span

def classRange (r : Reader) (stack : List ClassFrame) (c : Char) (rest : List Char) :
    Except PatternError (ClassSyntax × Within rest) :=
  match classPrimitive r c rest with
  | .error e => .error e
  | .ok (first, w) =>
    match w.trans (r.skip w.1) with
    | ⟨[], _⟩ => .error (unclosedClass stack)
    | ⟨'-' :: after, h⟩ =>
      let next := r.peekAfterDash after
      if next == some ']' || next == some '-' then
        (first.toClassItem).map fun item => (item, ⟨'-' :: after, h⟩)
      else
        match r.skip after with
        | ⟨[], _⟩ => .error (unclosedClass stack)
        | ⟨d :: more, h2⟩ =>
          match classPrimitive r d more with
          | .error e => .error e
          | .ok (second, w2) =>
            let span : Span := ⟨first.span.start, second.span.stop⟩
            match first.toRangeEnd, second.toRangeEnd with
            | .error e, _ => .error e
            | _, .error e => .error e
            | .ok lo, .ok hi =>
              if lo.char > hi.char then Reader.fail .classRangeInvalid span
              else
                .ok (.range span lo hi,
                  ⟨w2.1, Nat.le_trans w2.2 (Nat.le_trans (Nat.le_of_succ_le h2) (Nat.le_of_succ_le h))⟩)
    | other => (first.toClassItem).map fun item => (item, other)

def setOp? (c : Char) (rest : List Char) : Option (SetOp × Within rest) :=
  match c, rest with
  | '&', '&' :: more => some (.inter, ⟨more, Nat.le_succ _⟩)
  | '-', '-' :: more => some (.diff, ⟨more, Nat.le_succ _⟩)
  | '~', '~' :: more => some (.symmDiff, ⟨more, Nat.le_succ _⟩)
  | _, _ => none

def widenClass {rest input : List Char} (hlen : rest.length < input.length)
    (result : Except PatternError (ClassSyntax × Within rest)) :
    Except PatternError (ClassSyntax × Within input) :=
  result.map fun (s, w) => (s, ⟨w.1, Nat.le_of_lt (Nat.lt_of_le_of_lt w.2 hlen)⟩)

def widenClassAfter {rest input : List Char} (hlen : rest.length < input.length) (w : Within rest)
    (result : Except PatternError (ClassSyntax × Within w.1)) :
    Except PatternError (ClassSyntax × Within input) :=
  widenClass hlen (result.map fun (s, w2) => (s, w.trans w2))

def readClass (r : Reader) (stack : List ClassFrame) (m : Members) (input : List Char) :
    Except PatternError (ClassSyntax × Within input) :=
  match (r.skip input).uncons? with
  | none => .error (unclosedClass stack)
  | some (c, ⟨rest, hlen⟩) =>
    let here := r.offset (c :: rest)
    match c with
    | '[' =>
      match posixClass? r here rest with
      | some (cls, w) => widenClassAfter hlen w (readClass r stack (m.push (.posix cls)) w.1)
      | none =>
        match openClass r here rest with
        | .error e => .error e
        | .ok ((opening, nested), w) =>
          widenClassAfter hlen w (readClass r (.bracket m opening :: stack) nested w.1)
    | ']' =>
      let (body, stack2) := applyWaiting stack m.toItem
      match stack2 with
      | .bracket outer opening :: more =>
        let cls : ClassSyntax := .bracketed ⟨opening.span.start, here + 1⟩ opening.negated body
        if more.isEmpty then .ok (cls, ⟨rest, Nat.le_of_lt hlen⟩)
        else widenClass hlen (readClass r more (outer.push cls) rest)
      | _ => .error (unclosedClass stack)
    | c =>
      match setOp? c rest with
      | some (op, w) =>
        let (lhs, stack2) := applyWaiting stack m.toItem
        widenClassAfter hlen w (readClass r (.operator op lhs :: stack2) { span := r.point w.1 } w.1)
      | none =>
        match classRange r stack c rest with
        | .error e => .error e
        | .ok (item, w) => widenClassAfter hlen w (readClass r stack (m.push item) w.1)
termination_by input.length
decreasing_by
  all_goals first
    | (have _hr := w.2; omega)
    | omega

def readBracket (r : Reader) (bracket : Nat) (input : List Char) :
    Except PatternError (ClassSyntax × Within input) :=
  match openClass r bracket input with
  | .error e => .error e
  | .ok ((opening, m), w) =>
    (readClass r [.bracket { span := ⟨0, 0⟩ } opening] m w.1).map fun (s, w2) => (s, w.trans w2)

/-! ### Counted repetitions -/

def readDigits (r : Reader) (input : List Char) : List Char × Within input :=
  match input with
  | c :: rest =>
    if c.isDigit then
      have _hlen : (r.skip rest).1.length < (c :: rest).length :=
        Nat.lt_succ_of_le (r.skip rest).2
      let more := readDigits r (r.skip rest).1
      (c :: more.1, ⟨more.2.1, Nat.le_of_lt (Nat.lt_of_le_of_lt more.2.2 _hlen)⟩)
    else ([], ⟨c :: rest, Nat.le_refl _⟩)
  | [] => ([], ⟨[], Nat.le_refl _⟩)
termination_by input.length
decreasing_by omega

def trailingSpace (r : Reader) (input : List Char) : Within input :=
  match input with
  | c :: rest =>
    if CharClass.isWhiteSpace c then
      have _hlen : (r.skip rest).1.length < (c :: rest).length :=
        Nat.lt_succ_of_le (r.skip rest).2
      let more := trailingSpace r (r.skip rest).1
      ⟨more.1, Nat.le_of_lt (Nat.lt_of_le_of_lt more.2 _hlen)⟩
    else ⟨c :: rest, Nat.le_refl _⟩
  | [] => ⟨[], Nat.le_refl _⟩
termination_by input.length
decreasing_by omega

/-- A count of a repetition, with white space around it, and the input after it. A missing or too
large count is a refusal that counts only where the count is needed. -/
def readDecimal (r : Reader) (input : List Char) : Except PatternError Nat × Within input :=
  let lead : Within input := ⟨input.dropWhile CharClass.isWhiteSpace, (List.dropWhile_suffix _).length_le⟩
  let digits := readDigits r lead.1
  let span : Span := r.between lead.1 digits.2.1
  let after := lead.trans (digits.2.trans (trailingSpace r digits.2.1))
  let value := digits.1.foldl (fun n d => 10 * n + (d.toNat - '0'.toNat)) 0
  let result :=
    if digits.1.isEmpty then Reader.fail .repetitionCountDecimalEmpty span
    else if value > 0xFFFFFFFF then Reader.fail .decimalInvalid span
    else .ok value
  (result, after)

def closeCount (r : Reader) (brace : Nat) (kind : RepetitionKind) (input : List Char) :
    Except PatternError ((RepetitionKind × Bool) × Within input) :=
  match input with
  | '}' :: rest =>
    let s := r.skip rest
    let (greedy, after) : Bool × Within ('}' :: rest) :=
      match s with
      | ⟨'?' :: tail, h⟩ => (false, ⟨tail, Nat.le_succ_of_le (Nat.le_of_succ_le h)⟩)
      | other => (true, ⟨other.1, Nat.le_succ_of_le other.2⟩)
    match kind with
    | .bounded m n =>
      if m > n then Reader.fail .repetitionCountInvalid ⟨brace, r.offset after.1⟩
      else .ok ((kind, greedy), after)
    | _ => .ok ((kind, greedy), after)
  | _ => Reader.fail .repetitionCountUnclosed ⟨brace, r.offset input⟩

def readCount (r : Reader) (brace : Nat) (input : List Char) :
    Except PatternError ((RepetitionKind × Bool) × Within input) :=
  let unclosed {α : Type} (rest : List Char) : Except PatternError α :=
    Reader.fail .repetitionCountUnclosed ⟨brace, r.offset rest⟩
  let s0 := r.skip input
  if s0.1.isEmpty then unclosed []
  else
    let first := readDecimal r s0.1
    match s0.trans first.2 with
    | ⟨[], _⟩ => unclosed []
    | ⟨',' :: after, h⟩ =>
      let s2 : Within input := ⟨(r.skip after).1, Nat.le_trans (r.skip after).2 (Nat.le_of_succ_le h)⟩
      match s2 with
      | ⟨[], _⟩ => unclosed []
      | ⟨'}' :: more, h2⟩ =>
        match first.1 with
        | .error e => .error e
        | .ok least => (closeCount r brace (.atLeast least) ('}' :: more)).map fun (c, w) => (c, ⟨w.1, Nat.le_trans w.2 h2⟩)
      | other =>
        match first.1 with
        | .error e => .error e
        | .ok least =>
          let second := readDecimal r other.1
          match second.1 with
          | .error e => .error e
          | .ok most =>
            (closeCount r brace (.bounded least most) second.2.1).map fun (c, w) =>
              (c, other.trans (second.2.trans w))
    | other =>
      match first.1 with
      | .error e => .error e
      | .ok least => (closeCount r brace (.exactly least) other.1).map fun (c, w) => (c, other.trans w)

/-! ### Groups -/

inductive GroupStart where
  | setFlags (items : List FlagItem)
  | group (kind : GroupKind)

def isNameChar (first : Bool) (c : Char) : Bool :=
  if first then c == '_' || isAlphabetic c
  else c == '_' || c == '.' || c == '[' || c == ']' || isAlphanumeric c

def readGroupName (r : Reader) (first : Bool) : (input : List Char) →
    Except PatternError (List Char × Within input)
  | [] => Reader.fail .groupNameUnexpectedEof (r.point [])
  | '>' :: rest => .ok ([], ⟨'>' :: rest, Nat.le_refl _⟩)
  | c :: rest =>
    if !isNameChar first c then Reader.fail .groupNameInvalid (r.charSpan (c :: rest))
    else (readGroupName r false rest).map fun (cs, w) => (c :: cs, ⟨w.1, Nat.le_succ_of_le w.2⟩)

def isFlagLetter (c : Char) : Bool := "imsURux".toList.contains c

def readFlags (r : Reader) (seen : List (FlagItem × Span)) (lastNegation : Option Span) :
    (input : List Char) → Except PatternError (List (FlagItem × Span) × Within input)
  | [] => Reader.fail .flagUnexpectedEof (r.point [])
  | c :: rest =>
    if c == ':' || c == ')' then
      match lastNegation with
      | some s => Reader.fail .flagDanglingNegation s
      | none => .ok (seen, ⟨c :: rest, Nat.le_refl _⟩)
    else
      let span := r.charSpan (c :: rest)
      let next (item : FlagItem) (negation : Option Span) :
          Except PatternError (List (FlagItem × Span) × Within (c :: rest)) :=
        match seen.find? (·.1 == item) with
        | some (_, earlier) =>
          .error { kind := if item == .negation then .flagRepeatedNegation else .flagDuplicate,
                   span, earlier := some earlier }
        | none =>
          if rest.isEmpty then Reader.fail .flagUnexpectedEof (r.point [])
          else (readFlags r ((item, span) :: seen) negation rest).map fun (items, w) =>
            (items, ⟨w.1, Nat.le_succ_of_le w.2⟩)
      if c == '-' then next .negation (some span)
      else if isFlagLetter c then next (.flag c) none
      else Reader.fail .flagUnrecognized span

def lookAroundLength : List Char → Option Nat
  | '?' :: '=' :: _ => some 2
  | '?' :: '!' :: _ => some 2
  | '?' :: '<' :: '=' :: _ => some 3
  | '?' :: '<' :: '!' :: _ => some 3
  | _ => none

def readGroupStart (r : Reader) (paren : Nat) (captures : Nat) (names : List (String × Span))
    (input : List Char) :
    Except PatternError ((GroupStart × Nat × List (String × Span)) × Within input) :=
  let openSpan : Span := ⟨paren, paren + 1⟩
  let s := r.skip input
  let named (after : List Char) (h : after.length ≤ input.length) :
      Except PatternError ((GroupStart × Nat × List (String × Span)) × Within input) :=
    if after.isEmpty then Reader.fail .groupNameUnexpectedEof (r.point [])
    else
      match readGroupName r true after with
      | .error e => .error e
      | .ok (cs, atClose) =>
        let nameSpan := r.between after atClose.1
        let name := String.ofList cs
        let rest : Within input := ⟨atClose.1.drop 1,
          Nat.le_trans (length_drop_le_self _ _) (Nat.le_trans atClose.2 h)⟩
        if cs.isEmpty then Reader.fail .groupNameEmpty ⟨nameSpan.start, nameSpan.start⟩
        else
          match names.find? (·.1 == name) with
          | some (_, earlier) =>
            .error { kind := .groupNameDuplicate, span := nameSpan, earlier := some earlier }
          | none =>
            .ok ((.group (.capture (captures + 1) (some name)), captures + 1, (name, nameSpan) :: names),
              rest)
  match lookAroundLength s.1 with
  | some n => Reader.fail .unsupportedLookAround ⟨paren, r.offset s.1 + n⟩
  | none =>
    match s with
    | ⟨'?' :: 'P' :: '<' :: after, h⟩ =>
      named after (Nat.le_trans (Nat.le_succ_of_le (Nat.le_succ_of_le (Nat.le_succ _))) h)
    | ⟨'?' :: '<' :: after, h⟩ => named after (Nat.le_trans (Nat.le_succ_of_le (Nat.le_succ _)) h)
    | ⟨'?' :: after, h⟩ =>
      if after.isEmpty then Reader.fail .groupUnclosed openSpan
      else
        match readFlags r [] none after with
        | .error e => .error e
        | .ok (items, atClose) =>
          let flags := (items.map (·.1)).reverse
          match atClose with
          | ⟨closing :: rest, hc⟩ =>
            let w : Within input := ⟨rest, Nat.le_trans (Nat.le_of_succ_le hc) (Nat.le_of_succ_le h)⟩
            if closing == ')' then
              if flags.isEmpty then Reader.fail .repetitionMissing (r.point s.1)
              else .ok ((.setFlags flags, captures, names), w)
            else .ok ((.group (.nonCapturing flags), captures, names), w)
          | ⟨[], _⟩ => Reader.fail .flagUnexpectedEof (r.point [])
    | other => .ok ((.group (.capture (captures + 1) none), captures + 1, names), other)

/-! ### Patterns -/

structure Seq where
  start : Nat
  items : List Syntax := []

def Seq.close (s : Seq) (stop : Nat) : Syntax :=
  match s.items with
  | [] => .empty ⟨s.start, stop⟩
  | [x] => x
  | xs => .concat ⟨s.start, stop⟩ xs.reverse

def Seq.push (s : Seq) (x : Syntax) : Seq := { s with items := x :: s.items }

/-- The sequence with its last piece repeated, up to offset `stop`; there must be one, and not a
change of flags. The refusal points at `at_`. -/
def Seq.repeatLast (s : Seq) (kind : RepetitionKind) (greedy : Bool) (stop : Nat) (at_ : Span) :
    Except PatternError Seq :=
  match s.items with
  | [] => Reader.fail .repetitionMissing at_
  | .empty _ :: _ => Reader.fail .repetitionMissing at_
  | .flags _ _ :: _ => Reader.fail .repetitionMissing at_
  | x :: more => .ok { s with items := .repetition ⟨x.span.start, stop⟩ kind greedy x :: more }

inductive Frame where
  | group (outer : Seq) (paren : Nat) (kind : GroupKind) (verbose : Bool)
  | alternation (start : Nat) (branches : List Syntax)

def finish (stop : Nat) (stack : List Frame) (seq : Seq) : Except PatternError Syntax :=
  match stack with
  | [] => .ok (seq.close stop)
  | .alternation start branches :: more =>
    match more with
    | .group _ paren _ _ :: _ => Reader.fail .groupUnclosed ⟨paren, paren + 1⟩
    | _ => .ok (.alternation ⟨start, stop⟩ (seq.close stop :: branches).reverse)
  | .group _ paren _ _ :: _ => Reader.fail .groupUnclosed ⟨paren, paren + 1⟩

def lazyMark (input : List Char) : Bool × Within input :=
  match input with
  | '?' :: rest => (false, ⟨rest, Nat.le_succ _⟩)
  | other => (true, ⟨other, Nat.le_refl _⟩)

def alternate (stack : List Frame) (seq : Seq) (at_ : Nat) : List Frame :=
  match stack with
  | .alternation start branches :: more => .alternation start (seq.close at_ :: branches) :: more
  | other => .alternation seq.start [seq.close at_] :: other

def closeGroup (stack : List Frame) (seq : Seq) (at_ : Nat) :
    Except PatternError (Seq × Bool × List Frame) :=
  let body := seq.close at_
  match stack with
  | .group outer paren kind verbose :: more =>
    .ok (outer.push (.group ⟨paren, at_ + 1⟩ kind body), verbose, more)
  | .alternation start branches :: .group outer paren kind verbose :: more =>
    let alt : Syntax := .alternation ⟨start, at_⟩ (body :: branches).reverse
    .ok (outer.push (.group ⟨paren, at_ + 1⟩ kind alt), verbose, more)
  | _ => Reader.fail .groupUnopened ⟨at_, at_ + 1⟩

def verboseOf (items : List FlagItem) : Option Bool :=
  (items.foldl (fun (acc : Option Bool × Bool) item =>
    match item with
    | .negation => (acc.1, false)
    | .flag 'x' => (some acc.2, acc.2)
    | .flag _ => acc) (none, true)).1

/-- Reads the rest of a pattern, with what encloses the sequence being read, that sequence, the
number of captures so far and the group names used so far. -/
def readFrom (r : Reader) (stack : List Frame) (seq : Seq) (captures : Nat) (names : List (String × Span))
    (input : List Char) : Except PatternError Syntax :=
  match r.skip input with
  | ⟨[], _⟩ => finish r.total stack seq
  | ⟨c :: rest, h⟩ =>
    have _hlen : rest.length < input.length := h
    let here := r.offset (c :: rest)
    let repeatOp (kind : RepetitionKind) : Except PatternError (Seq × { w : List Char // w.length ≤ rest.length }) :=
      let (greedy, w) := lazyMark rest
      (seq.repeatLast kind greedy (r.offset w.1) (r.point (c :: rest))).map fun s => (s, w)
    match c with
    | '(' =>
      match readGroupStart r here captures names rest with
      | .error e => .error e
      | .ok ((.setFlags items, captures2, names2), w) =>
        let flagSpan : Span := ⟨here, r.offset w.1⟩
        let r2 := { r with verbose := (verboseOf items).getD r.verbose }
        readFrom r2 stack (seq.push (.flags flagSpan items)) captures2 names2 w.1
      | .ok ((.group kind, captures2, names2), w) =>
        let groupVerbose := match kind with
          | .nonCapturing items => (verboseOf items).getD r.verbose
          | _ => r.verbose
        readFrom { r with verbose := groupVerbose } (.group seq here kind r.verbose :: stack)
          { start := r.offset w.1 } captures2 names2 w.1
    | ')' =>
      match closeGroup stack seq here with
      | .error e => .error e
      | .ok (outer, verbose, more) => readFrom { r with verbose } more outer captures names rest
    | '|' => readFrom r (alternate stack seq here) { start := here + 1 } captures names rest
    | '[' =>
      match readBracket r here rest with
      | .error e => .error e
      | .ok (.bracketed span negated body, w) =>
        readFrom r stack (seq.push (.bracketed span negated body)) captures names w.1
      | .ok (other, w) => readFrom r stack (seq.push (.bracketed other.span false other)) captures names w.1
    | '?' =>
      match repeatOp .zeroOrOne with
      | .error e => .error e
      | .ok (s, w) => readFrom r stack s captures names w.1
    | '*' =>
      match repeatOp .zeroOrMore with
      | .error e => .error e
      | .ok (s, w) => readFrom r stack s captures names w.1
    | '+' =>
      match repeatOp .oneOrMore with
      | .error e => .error e
      | .ok (s, w) => readFrom r stack s captures names w.1
    | '{' =>
      let missing := match seq.items with
        | [] => true
        | .empty _ :: _ => true
        | .flags _ _ :: _ => true
        | _ => false
      if missing then Reader.fail .repetitionMissing (r.point (c :: rest))
      else
        match readCount r here rest with
        | .error e => .error e
        | .ok ((kind, greedy), w) =>
          match seq.repeatLast kind greedy (r.offset w.1) (r.point (c :: rest)) with
          | .error e => .error e
          | .ok s => readFrom r stack s captures names w.1
    | '\\' =>
      match readEscape r here rest with
      | .error e => .error e
      | .ok (p, w) =>
        let node : Syntax := match p with
          | .literal lit => .literal lit
          | .assertion span kind => .assertion span kind
          | .dot span => .dot span
          | .perl cls => .perlClass cls
          | .unicode cls => .unicodeClass cls
        readFrom r stack (seq.push node) captures names w.1
    | '.' => readFrom r stack (seq.push (.dot ⟨here, here + 1⟩)) captures names rest
    | '^' => readFrom r stack (seq.push (.assertion ⟨here, here + 1⟩ .startLine)) captures names rest
    | '$' => readFrom r stack (seq.push (.assertion ⟨here, here + 1⟩ .endLine)) captures names rest
    | c => readFrom r stack (seq.push (.literal { span := ⟨here, here + 1⟩, char := c })) captures names rest
termination_by input.length
decreasing_by
  all_goals first
    | (have _hr := w.2; omega)
    | omega

def Syntax.read (text : String) : Except PatternError Syntax :=
  let cs := text.toList
  readFrom { total := cs.length, verbose := false } [] { start := 0 } 0 [] cs

end Pattern

end ObjcImage
