import ObjcImage.Interface.Options

set_option autoImplicit false

/-!
The command line's arguments: one file and flags. Short flags run together (`-aAH`); a flag that
takes a value takes the rest of its run or else the next argument, unless that one starts with `-`.
A flag left without its value, or no file, is a usage error.
-/

namespace ObjcImage

namespace Cli

inductive Flag where
  | ivarOffsets
  | methodAddresses
  | sortClasses
  | sortByInheritance
  | sortMethods
  | stripCtor
  | stripDtor
  | hideAccessors
  | classFilter
  | arch
  | expandDepth
  | strict
  | noHeader
  | verbose
  | listArches
  | help
  | version
  deriving DecidableEq, Repr

namespace Flag

def all : List Flag :=
  [.ivarOffsets, .methodAddresses, .sortClasses, .sortByInheritance, .sortMethods, .stripCtor,
    .stripDtor, .hideAccessors, .classFilter, .arch, .expandDepth, .strict, .noHeader, .verbose,
    .listArches, .help, .version]

def short : Flag → Option Char
  | .ivarOffsets => some 'a'
  | .methodAddresses => some 'A'
  | .sortClasses => some 's'
  | .sortByInheritance => some 'I'
  | .sortMethods => some 'S'
  | .classFilter => some 'C'
  | .noHeader => some 'H'
  | .verbose => some 'v'
  | .help => some 'h'
  | .version => some 'V'
  | _ => none

def long : Flag → Option String
  | .stripCtor => some "strip-ctor"
  | .stripDtor => some "strip-dtor"
  | .hideAccessors => some "hide-accessors"
  | .arch => some "arch"
  | .expandDepth => some "expand-depth"
  | .strict => some "strict"
  | .verbose => some "verbose"
  | .listArches => some "list-arches"
  | .help => some "help"
  | .version => some "version"
  | _ => none

def valueName : Flag → Option String
  | .classFilter => some "REGEX"
  | .arch => some "ARCH"
  | .expandDepth => some "EXPAND_DEPTH"
  | _ => none

def takesValue (f : Flag) : Bool := f.valueName.isSome

def about : Flag → String
  | .ivarOffsets => "Show instance variable offsets"
  | .methodAddresses => "Show method implementation addresses"
  | .sortClasses => "Sort classes, protocols and categories by name"
  | .sortByInheritance => "Sort classes so superclasses come before their subclasses"
  | .sortMethods => "Sort methods by selector"
  | .stripCtor => "Leave out the C++ ivar constructor method .cxx_construct"
  | .stripDtor => "Leave out the C++ ivar destructor method .cxx_destruct"
  | .hideAccessors => "Leave out methods implied by a declared property"
  | .classFilter => "Only dump classes, protocols and categories matching this regex"
  | .arch => "Only dump this architecture (e.g. \"x86_64\", \"arm64e\")"
  | .expandDepth =>
    "Levels of named structs written out inside struct definitions [default: 1]"
  | .strict => "Drop truncated method, ivar and property lists instead of salvaging them"
  | .noHeader => "Omit the header comment"
  | .verbose => "Log verbosity (-v warnings, -vv info, -vvv debug)"
  | .listArches => "List the architectures in the file and exit"
  | .help => "Print help"
  | .version => "Print version"

def spelling (f : Flag) : String :=
  let names := match f.short, f.long with
    | some c, some l => "-" ++ String.singleton c ++ ", --" ++ l
    | some c, none => "-" ++ String.singleton c
    | none, some l => "    --" ++ l
    | none, none => ""
  let value := (f.valueName.map (" <" ++ · ++ ">")).getD ""
  names ++ value ++ (if f == .verbose then "..." else "")

def display (f : Flag) : String := (f.spelling.dropWhile (· == ' ')).toString

def ofShort? (c : Char) : Option Flag := all.find? (·.short == some c)

def ofLong? (name : String) : Option Flag := all.find? (·.long == some name)

end Flag

inductive UsageError where
  | unknownArgument (arg : String)
  | unexpectedArgument (arg : String)
  | missingValue (flag : Flag)
  | unexpectedValue (flag : Flag) (value : String)
  | repeated (flag : Flag)
  | invalidValue (flag : Flag) (value : String) (reason : String)
  | missingFile
  deriving DecidableEq, Repr

def UsageError.message : UsageError → String
  | .unknownArgument arg => "unexpected argument '" ++ arg ++ "' found"
  | .unexpectedArgument arg => "unexpected argument '" ++ arg ++ "' found"
  | .missingValue f => "a value is required for '" ++ f.display ++ "' but none was supplied"
  | .unexpectedValue f v =>
    "unexpected value '" ++ v ++ "' for '" ++ f.display ++ "' found; no more were expected"
  | .repeated f => "the argument '" ++ f.display ++ "' cannot be used multiple times"
  | .invalidValue f v reason =>
    "invalid value '" ++ v ++ "' for '" ++ f.display ++ "': " ++ reason
  | .missingFile => "the following required arguments were not provided:\n  <FILE>"

inductive Stop where
  | help
  | version
  | usage (error : UsageError)
  deriving DecidableEq, Repr

structure Invocation where
  file : String
  options : DumpOptions
  listArches : Bool
  verbosity : Nat

structure ArgState where
  file : Option String := none
  given : List Flag := []
  pending : Option Flag := none
  options : DumpOptions := {}
  listArches : Bool := false
  verbosity : Nat := 0

def parseCount (s : String) : Option Nat :=
  let digits := match s.toList with
    | '+' :: ds => ds
    | ds => ds
  if digits.isEmpty || !digits.all Char.isDigit then none
  else
    let n := digits.foldl (fun n d => 10 * n + (d.toNat - '0'.toNat)) 0
    if n < Nat.pow 2 64 then some n else none

def ArgState.set (s : ArgState) (f : Flag) (value : Option String) : Except Stop ArgState := do
  if let some p := s.pending then throw (.usage (.missingValue p))
  match f with
  | .help => throw .help
  | .version => throw .version
  | .verbose => return { s with verbosity := s.verbosity + 1 }
  | _ => pure ()
  if s.given.contains f then throw (.usage (.repeated f))
  let s := { s with given := s.given ++ [f] }
  let o := s.options
  match f, value with
  | _, none =>
    if f.takesValue then return { s with pending := some f }
  | .classFilter, some v =>
    match Pattern.compile v with
    | .ok p => return { s with options := { o with classFilter := some p } }
    | .error e => throw (.usage (.invalidValue f v e.message))
  | .arch, some v => return { s with options := { o with arch := some v } }
  | .expandDepth, some v =>
    match parseCount v with
    | some n => return { s with options := { o with expandDepth := n } }
    | none => throw (.usage (.invalidValue f v "invalid digit found in string"))
  | _, some v => throw (.usage (.unexpectedValue f v))
  return match f with
    | .ivarOffsets => { s with options := { o with showIvarOffsets := true } }
    | .methodAddresses => { s with options := { o with showMethodAddresses := true } }
    | .sortClasses => { s with options := { o with sortClasses := true } }
    | .sortByInheritance => { s with options := { o with sortByInheritance := true } }
    | .sortMethods => { s with options := { o with sortMethods := true } }
    | .stripCtor => { s with options := { o with stripCtor := true } }
    | .stripDtor => { s with options := { o with stripDtor := true } }
    | .hideAccessors => { s with options := { o with hidePropertyAccessors := true } }
    | .strict => { s with options := { o with strictLists := true } }
    | .noHeader => { s with options := { o with showHeader := false } }
    | .listArches => { s with listArches := true }
    | _ => s

/-- Records a file argument; there is room for one, and none while a flag waits for its value. -/
def ArgState.positional (s : ArgState) (arg : String) : Except Stop ArgState :=
  match s.pending, s.file with
  | some p, none => .error (.usage (.missingValue p))
  | none, none => .ok { s with file := some arg }
  | _, some _ => .error (.usage (.unexpectedArgument arg))

def isValue (arg : String) : Bool := !arg.startsWith "-" || arg == "-"

/-- Reads a run of short flags. A flag that takes a value takes the rest of the run, after an
`=` if there is one, or else the next argument; the answer says whether it took that. -/
def shortRun (next : Option String) (s : ArgState) : List Char → Except Stop (ArgState × Bool)
  | [] => .ok (s, false)
  | c :: rest =>
    match Flag.ofShort? c with
    | none => .error (.usage (.unknownArgument ("-" ++ String.singleton c)))
    | some f =>
      if !f.takesValue then do shortRun next (← s.set f none) rest
      else
        match rest, next with
        | '=' :: value, _ => do return (← s.set f (some (String.ofList value)), false)
        | [], some arg =>
          if isValue arg then do return (← s.set f (some arg), true)
          else do return (← s.set f none, false)
        | [], none => do return (← s.set f none, false)
        | value, _ => do return (← s.set f (some (String.ofList value)), false)

def longFlag (body : String) (next : Option String) (s : ArgState) : Except Stop (ArgState × Bool) :=
  let chars := body.toList
  let name := String.ofList (chars.takeWhile (· != '='))
  let value : Option String :=
    if chars.contains '=' then some (String.ofList ((chars.dropWhile (· != '=')).drop 1)) else none
  match Flag.ofLong? name with
  | none => .error (.usage (.unknownArgument ("--" ++ name)))
  | some f =>
    match value, next with
    | some v, _ =>
      if f.takesValue then do return (← s.set f (some v), false)
      else .error (.usage (.unexpectedValue f v))
    | none, some arg =>
      if f.takesValue && isValue arg then do return (← s.set f (some arg), true)
      else do return (← s.set f none, false)
    | none, none => do return (← s.set f none, false)

def readArgs (s : ArgState) (args : List String) : Except Stop ArgState :=
  match args with
  | [] => .ok s
  | arg :: rest =>
    if arg == "--" then rest.foldlM ArgState.positional s
    else
      let step : Except Stop (ArgState × Bool) :=
        if arg.startsWith "--" then longFlag (arg.drop 2).toString rest.head? s
        else if arg.startsWith "-" && arg.length > 1 then shortRun rest.head? s (arg.toList.drop 1)
        else (·, false) <$> s.positional arg
      match step with
      | .error stop => .error stop
      | .ok (s, true) => readArgs s rest.tail
      | .ok (s, false) => readArgs s rest
termination_by args.length

def parse (args : List String) : Except Stop Invocation := do
  let s ← readArgs {} args
  if let some f := s.pending then throw (.usage (.missingValue f))
  match s.file with
  | none => throw (.usage .missingFile)
  | some file => return ⟨file, s.options, s.listArches, s.verbosity⟩

end Cli

end ObjcImage
