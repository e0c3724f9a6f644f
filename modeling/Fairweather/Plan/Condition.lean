import Fairweather.Expression.Grammar
import Fairweather.Forecast.Dataset

/-!
# Conditions

What an expression means: that the forecast is for a place, or that a measurement compares with a
threshold. The first is a condition on a dataset as a whole, the second on each observation.

`Condition.text` writes a condition as an expression.
-/

namespace Fairweather

/-- The meaning of an expression. -/
inductive Condition where
  | location (point : Coordinates)
  | threshold (measure : Measure) (comparison : Comparison) (bound : Binary64)
deriving DecidableEq

namespace Condition

/-- The keyword that the condition is written with. -/
def keyword : Condition → String
  | location _ => Grammar.location
  | threshold measure _ _ => measure.keyword

/-- The condition is one on the dataset as a whole. -/
def concernsDataset : Condition → Bool
  | location _ => true
  | threshold _ _ _ => false

/-- The condition as an expression. -/
def text : Condition → String
  | location point =>
    Grammar.location ++ " = " ++ point.latitude.plain ++ ", " ++ point.longitude.plain
  | threshold measure comparison bound =>
    measure.keyword ++ " " ++ String.singleton comparison.symbol ++ " " ++ bound.plain

/-- An observation meets the condition. A condition on the dataset asks nothing of it. -/
def isMet : Condition → Observation → Bool
  | location _, _ => true
  | threshold measure comparison bound, o => comparison.holds (o.value measure) bound

/-- The place that the condition requires, if the dataset is not for one near it. -/
def mismatch? (dataset : Dataset) (tolerance : Binary64) : Condition → Option Coordinates
  | location point => if point.near dataset.location tolerance then none else some point
  | threshold _ _ _ => none

/-- The positions of the observations that meet the condition, in order. -/
def positions (condition : Condition) (records : List Observation) : List Nat :=
  (records.zipIdx.filter fun (o, _) => condition.isMet o).map (·.2)

/-- The conditions compare as equal, numbers by value. -/
def equals : Condition → Condition → Bool
  | location a, location b => a.equals b
  | threshold m c x, threshold n d y => m == n && c == d && x.equals y
  | _, _ => false

end Condition

end Fairweather
