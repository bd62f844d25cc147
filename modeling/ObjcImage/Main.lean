import ObjcImage.Cli.Run

set_option autoImplicit false

/-!
The command line: reads the arguments, reads the file they name, and prints the outcome.
-/

open ObjcImage.Cli in
def main (args : List String) : IO UInt32 := do
  let outcome ← match parse args with
    | .error stop => pure (stopOutcome stop)
    | .ok inv =>
      match ← (IO.FS.readBinFile inv.file).toBaseIO with
      | .ok contents => pure (execute inv contents)
      | .error e => pure (failure (inv.file ++ ": " ++ toString e))
  IO.print outcome.stdout
  IO.eprint outcome.stderr
  return outcome.exitCode.toUInt32
