import Fairweather.Forecast.Response
import Fairweather.Plan.Fault

/-!
# Loading a forecast

From the text of a saved forecast to its dataset.
-/

namespace Fairweather

namespace Dataset

/-- The dataset of a saved forecast, given as symbols. -/
def ofSymbols (origin : Origin) (text : List Symbol) : Except PlanFault Dataset :=
  match Json.decode Forecast.decode text with
  | .error fault => .error (.undecodable origin (.json fault))
  | .ok forecast =>
    match forecast.toDataset with
    | .error fault => .error (.invalidDataset fault)
    | .ok dataset => .ok dataset

/-- The dataset of a saved forecast. -/
def ofJson (text : String) : Except PlanFault Dataset := ofSymbols .input (text.toList.map some)

/-- The dataset of a saved forecast, given as bytes. -/
def ofBytes (origin : Origin) (bytes : List UInt8) : Except PlanFault Dataset :=
  ofSymbols origin (Utf8.symbols bytes)

end Dataset

end Fairweather
