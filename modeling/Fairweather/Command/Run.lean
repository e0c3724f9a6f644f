import Fairweather.Command.Arguments
import Fairweather.Command.Folder
import Fairweather.Forecast.Record
import Fairweather.Plan.Lines
import Fairweather.Plan.Loading

/-!
# A run of the program

The expressions of the plan file come first, then those of the command line. The plan file is read
before the forecast, and the forecast is loaded before any expression is looked at.
-/

namespace Fairweather

namespace Command

/-- The expressions of a plan file. -/
def readPlan (files : Files) (path : String) : Except PlanFault (List String) :=
  match files path with
  | .error fault => .error (.unreadableFile path fault)
  | .ok bytes =>
    match Utf8.decode? bytes with
    | none => .error (.unreadableFile path .notText)
    | some text => .ok (Plan.expressions (String.ofList text))

/-- The dataset of a forecast file. A folder can be opened as a file, but not read. -/
def readDataset (files : Files) (path : String) : Except PlanFault Dataset :=
  match files path with
  | .error .isDirectory => .error (.undecodable (.file path) (.file .isDirectory))
  | .error fault => .error (.unreadableFile path fault)
  | .ok bytes => Dataset.ofBytes (.file path) bytes

/-- All expressions of a run, in order. -/
def expressions (files : Files) (arguments : Arguments) : Except PlanFault (List String) :=
  match arguments.plan with
  | none => .ok arguments.expressions
  | some path => (readPlan files path).map (· ++ arguments.expressions)

/-- The output of a run. There is none when a window would end beyond the calendar. -/
def run (files : Files) (arguments : Arguments) : Except PlanFault (Option String) := do
  let expressions ← expressions files arguments
  let dataset ← readDataset files arguments.data
  let planner := Planner.default.withTolerance arguments.tolerance
  if arguments.windows then
    let windows ← planner.windows? expressions dataset
    return windows.map windowsJson
  else
    let records ← planner.evaluate expressions dataset
    return some (recordsJson records)

end Command

end Fairweather
