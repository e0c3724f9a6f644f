import Fairweather.Command.Run

/-!
# The program

Reads the files that a run needs, runs it, and prints its output. Faults go to the error stream;
the exit code is 2 for arguments that are refused and 1 for a run that fails.
-/

open Fairweather Command

/-- The contents of a file of the system. -/
def contentsOf (path : String) : IO (Except FileFault (List UInt8)) := do
  try
    let bytes ← IO.FS.readBinFile path
    return .ok bytes.toList
  catch
    | .noFileOrDirectory _ _ _ => return .error .missing
    | .inappropriateType _ code _ =>
      return .error (if code = 21 then .isDirectory else .notDirectory)
    | other => return .error (.system other.toString)

/-- Runs the program with the arguments that follow its name. -/
def main (arguments : List String) : IO UInt32 := do
  match Arguments.ofList arguments with
  | .error .help =>
    IO.println UsageFault.help.message
    return 0
  | .error .version =>
    IO.println UsageFault.version.message
    return 0
  | .error fault =>
    IO.eprintln ("error: " ++ fault.message)
    return 2
  | .ok arguments =>
    let paths := arguments.data :: arguments.plan.toList
    let contents ← paths.mapM fun path => return (path, ← contentsOf path)
    let files : Files := fun path => (contents.lookup path).getD (.error .missing)
    match run files arguments with
    | .error fault =>
      IO.eprintln fault.message
      return 1
    | .ok none =>
      IO.eprintln "a window would end beyond the calendar"
      return 1
    | .ok (some output) =>
      IO.println output
      return 0
