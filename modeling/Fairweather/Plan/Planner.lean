import Fairweather.Forecast.Window
import Fairweather.Plan.Evaluation

/-!
# Planners

A planner holds the vocabulary of its plans and the tolerance, in degrees, within which a dataset
is for the place that a plan requires.
-/

namespace Fairweather

/-- A millionth of a degree. -/
def defaultTolerance : Binary64 := Decimal.toBinary64 ⟨false, 1, -6⟩

/-- What plans are evaluated with. -/
structure Planner where
  vocabulary : Vocabulary
  tolerance : Binary64

namespace Planner

/-- A planner with the default tolerance. -/
def ofVocabulary (vocabulary : Vocabulary) : Planner := ⟨vocabulary, defaultTolerance⟩

/-- The planner for the keywords of the language. -/
def default : Planner := ofVocabulary .builtin

/-- A tolerance is a distance, so its sign does not count. -/
def withTolerance (planner : Planner) (tolerance : Binary64) : Planner :=
  { planner with tolerance := tolerance.abs }

/-- The condition that an expression means to the planner. -/
def compile (planner : Planner) (text : String) : Except PlanFault Condition :=
  planner.vocabulary.compile text

/-- The observations that meet all expressions, in order. -/
def evaluate (planner : Planner) (expressions : List String) (dataset : Dataset) :
    Except PlanFault (List Observation) :=
  Plan.evaluate planner.vocabulary planner.tolerance expressions dataset

/-- The windows of the observations that meet all expressions; there is none to tell when one of
them would end beyond the calendar. -/
def windows? (planner : Planner) (expressions : List String) (dataset : Dataset) :
    Except PlanFault (Option (List Window)) :=
  (planner.evaluate expressions dataset).map (Fairweather.windows? dataset.interval?)

end Planner

end Fairweather
