import Fairweather.Plan.Vocabulary

/-!
# Evaluation

The observations of a dataset that meet every condition of a plan. All expressions get their
meaning before anything is evaluated, and all conditions on the dataset are checked before any
observation is looked at.

Each condition on observations gives the ascending list of the positions that meet it, and the
positions that meet all conditions are the intersection of these lists, made by merging.
-/

namespace Fairweather

/-- The positions that two ascending lists have in common. -/
def intersect : List Nat → List Nat → List Nat
  | [], _ => []
  | _ :: _, [] => []
  | a :: as, b :: bs =>
    if a = b then a :: intersect as bs
    else if a < b then intersect as (b :: bs)
    else intersect (a :: as) bs
termination_by as bs => as.length + bs.length

namespace Plan

/-- The fault of the first condition that requires another place. -/
def locationFault? (conditions : List Condition) (dataset : Dataset) (tolerance : Binary64) :
    Option PlanFault :=
  conditions.findSome? fun condition =>
    (condition.mismatch? dataset tolerance).map fun required =>
      .elsewhere required dataset.location

/-- The positions of the observations that meet all conditions. -/
def selection (conditions : List Condition) (records : List Observation) : List Nat :=
  conditions.foldl (fun selected condition => intersect selected (condition.positions records))
    (List.range records.length)

/-- The observations that meet all conditions, in order. -/
def select (conditions : List Condition) (dataset : Dataset) (tolerance : Binary64) :
    Except PlanFault (List Observation) :=
  let (general, single) := conditions.partition Condition.concernsDataset
  match locationFault? general dataset tolerance with
  | some fault => .error fault
  | none => .ok ((selection single dataset.records).filterMap (dataset.records[·]?))

/-- The observations that meet all expressions, in order. -/
def evaluate (vocabulary : Vocabulary) (tolerance : Binary64) (expressions : List String)
    (dataset : Dataset) : Except PlanFault (List Observation) := do
  let conditions ← expressions.mapM vocabulary.compile
  select conditions dataset tolerance

end Plan

end Fairweather
