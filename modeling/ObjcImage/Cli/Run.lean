import ObjcImage.Cli.Arguments
import ObjcImage.Dump

set_option autoImplicit false

/-!
What the command line prints and how it exits: 0 on success, 1 when the file cannot be dumped or
a slice fails, 2 for a usage error. Several slices each come under a banner naming the architecture.
-/

namespace ObjcImage

namespace Cli

structure Outcome where
  stdout : String
  stderr : String
  exitCode : Nat
  deriving DecidableEq, Repr

def programName : String := "objcdump"

def versionText : String := programName ++ " " ++ Interface.toolVersion ++ "\n"

def about : String := "Reconstructs Objective-C declarations from Mach-O runtime metadata"

def usageLine : String := "Usage: " ++ programName ++ " [OPTIONS] <FILE>"

def columns (rows : List (String × String)) : List String :=
  let width := (rows.map (·.1.length)).foldl max 0
  rows.map fun (left, right) =>
    "  " ++ left ++ String.ofList (List.replicate (width - left.length + 2) ' ') ++ right

def helpText : String :=
  "\n".intercalate ([about, "", usageLine, "", "Arguments:"] ++
    columns [("<FILE>", "Thin or fat Mach-O file")] ++ ["", "Options:"] ++
    columns (Flag.all.map fun f => (f.spelling, f.about))) ++ "\n"

def usageText (e : UsageError) : String :=
  "error: " ++ e.message ++ "\n\n" ++ usageLine ++ "\n\nFor more information, try '--help'.\n"

def stopOutcome : Stop → Outcome
  | .help => ⟨helpText, "", 0⟩
  | .version => ⟨versionText, "", 0⟩
  | .usage e => ⟨"", usageText e, 2⟩

def failure (message : String) : Outcome := ⟨"", programName ++ ": " ++ message ++ "\n", 1⟩

/-- A fault stops the program before it writes anything, with status 101. -/
def faultOutcome (f : AddressFault) : Outcome := ⟨"", programName ++ ": " ++ f.message ++ "\n", 101⟩

/-- The command line computes addresses in 64-bit wrapping arithmetic: an address past the last
one starts again at zero, and reading goes on. -/
def arithmetic : AddressArithmetic := .wrapping

def execute (inv : Invocation) (contents : ByteArray) : Outcome :=
  if inv.listArches then
    match listArchitectures arithmetic contents with
    | .error f => faultOutcome f
    | .ok (.ok names) => ⟨String.join (names.map (· ++ "\n")), "", 0⟩
    | .ok (.error e) => failure e.message
  else
    match dump arithmetic contents inv.options with
    | .error f => faultOutcome f
    | .ok (.error e) => failure e.message
    | .ok (.ok slices) =>
      let banner := slices.length > 1
      let text (s : SliceDump) : String :=
        (if banner then "// ---- " ++ s.arch ++ " ----\n\n" else "") ++
        (match s.result with | .ok (text, _) => text | .error _ => "") ++
        (if banner then "\n" else "")
      let errors := slices.filterMap fun s => match s.result with
        | .ok _ => none
        | .error e => some (programName ++ ": " ++ s.arch ++ ": " ++ e.message ++ "\n")
      ⟨String.join (slices.map text), String.join errors, if errors.isEmpty then 0 else 1⟩

def respond (args : List String) (contents : ByteArray) : Outcome :=
  match parse args with
  | .error stop => stopOutcome stop
  | .ok inv => execute inv contents

end Cli

end ObjcImage
