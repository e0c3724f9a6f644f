import Fairweather.Proofs.Plan.Selection
import Fairweather.Proofs.Results

/-!
# What the order of a plan decides

The order of the expressions in a plan decides which fault is reported, and nothing else.

**Two phases.** All expressions get their meaning before any place is looked at. So the first
expression that means nothing is reported, even where an expression before it requires another place
(`Plan.evaluate_eq_error_iff`). If all mean something, the first that requires another place is.

**Without a fault** the result depends on each expression by itself: every one has to mean something
and to require no other place, and an observation is selected when it meets every one
(`Plan.evaluate_eq_ok_iff`). What is said of every expression depends neither on their order nor on
how often they occur.

Main result: `Plan.evaluate_error_iff_and_ok_iff`.
-/

namespace Fairweather

namespace Vocabulary

/-- The expression means something. -/
def Compiles (vocabulary : Vocabulary) (expression : String) : Prop :=
  ∃ condition, vocabulary.compile expression = .ok condition

/-- The expression requires a place, and the dataset is for none near it. -/
def Misplaces (vocabulary : Vocabulary) (dataset : Dataset) (tolerance : Binary64)
    (expression : String) (point : Coordinates) : Prop :=
  vocabulary.compile expression = .ok (.location point) ∧
    point.near dataset.location tolerance = false

/-- The observation meets what the expression means. -/
def admits (vocabulary : Vocabulary) (o : Observation) (expression : String) : Bool :=
  (vocabulary.compile expression).toOption.all (·.isMet o)

end Vocabulary

namespace Plan

/-! ## Faults -/

variable {vocabulary : Vocabulary} {tolerance : Binary64} {expressions : List String}
  {dataset : Dataset}

/-- The fault of an expression that requires another place. -/
def placeFault? (vocabulary : Vocabulary) (dataset : Dataset) (tolerance : Binary64)
    (expression : String) : Option PlanFault :=
  (vocabulary.compile expression).toOption.bind fun condition =>
    (condition.mismatch? dataset tolerance).map fun required =>
      .elsewhere required dataset.location

theorem placeFault?_eq_some_iff {expression : String} {fault : PlanFault} :
    placeFault? vocabulary dataset tolerance expression = some fault ↔
      ∃ point, vocabulary.Misplaces dataset tolerance expression point ∧
        fault = .elsewhere point dataset.location := by
  unfold placeFault? Vocabulary.Misplaces
  cases vocabulary.compile expression with
  | error reason => simp [Except.toOption]
  | ok condition =>
    simp only [Except.toOption, Option.bind_some, Option.map_eq_some_iff, mismatch?_eq_some_iff,
      Except.ok.injEq]
    exact exists_congr fun point => and_congr_right fun _ => eq_comm

theorem placeFault?_eq_none_iff {expression : String} :
    placeFault? vocabulary dataset tolerance expression = none ↔
      ∀ point, ¬ vocabulary.Misplaces dataset tolerance expression point := by
  rw [Option.eq_none_iff_forall_ne_some]
  constructor
  · intro h point hpoint
    exact h _ (placeFault?_eq_some_iff.2 ⟨point, hpoint, rfl⟩)
  · intro h fault hfault
    obtain ⟨point, hpoint, -⟩ := placeFault?_eq_some_iff.1 hfault
    exact h point hpoint

/-- The places can be checked expression by expression. -/
theorem locationFault?_of_mapM {conditions : List Condition}
    (h : expressions.mapM vocabulary.compile = .ok conditions) :
    locationFault? conditions dataset tolerance =
      expressions.findSome? (placeFault? vocabulary dataset tolerance) :=
  findSome?_of_mapM_eq_ok h

theorem exists_conditions_iff :
    (∃ conditions, expressions.mapM vocabulary.compile = .ok conditions) ↔
      ∀ e ∈ expressions, vocabulary.Compiles e := by
  constructor
  · rintro ⟨conditions, h⟩ e he
    obtain ⟨condition, -, hcompile⟩ := exists_of_mapM_eq_ok h he
    exact ⟨condition, hcompile⟩
  · exact exists_mapM_eq_ok

/-- **Which fault is reported**: that of the first expression that means nothing, and if there is
none, that of the first one that requires another place. -/
theorem evaluate_eq_error_iff {fault : PlanFault} :
    evaluate vocabulary tolerance expressions dataset = .error fault ↔
      (∃ before e after, expressions = before ++ e :: after ∧
        (∀ e' ∈ before, vocabulary.Compiles e') ∧ vocabulary.compile e = .error fault) ∨
      (∀ e ∈ expressions, vocabulary.Compiles e) ∧
        ∃ before e after point, expressions = before ++ e :: after ∧
          (∀ e' ∈ before, ∀ q, ¬ vocabulary.Misplaces dataset tolerance e' q) ∧
          vocabulary.Misplaces dataset tolerance e point ∧
          fault = .elsewhere point dataset.location := by
  have hplaces : expressions.findSome? (placeFault? vocabulary dataset tolerance) = some fault ↔
      ∃ before e after point, expressions = before ++ e :: after ∧
        (∀ e' ∈ before, ∀ q, ¬ vocabulary.Misplaces dataset tolerance e' q) ∧
        vocabulary.Misplaces dataset tolerance e point ∧
        fault = .elsewhere point dataset.location := by
    simp only [List.findSome?_eq_some_iff, placeFault?_eq_some_iff, placeFault?_eq_none_iff]
    constructor
    · rintro ⟨before, e, after, heq, ⟨point, hpoint, hfault⟩, hbefore⟩
      exact ⟨before, e, after, point, heq, hbefore, hpoint, hfault⟩
    · rintro ⟨before, e, after, point, heq, hbefore, hpoint, hfault⟩
      exact ⟨before, e, after, heq, ⟨point, hpoint, hfault⟩, hbefore⟩
  unfold evaluate
  rw [bind_eq_error, mapM_eq_error, ← hplaces, ← exists_conditions_iff]
  apply or_congr_right
  constructor
  · rintro ⟨conditions, hconditions, hselect⟩
    refine ⟨⟨conditions, hconditions⟩, ?_⟩
    rwa [← locationFault?_of_mapM hconditions, ← select_eq_error_iff]
  · rintro ⟨⟨conditions, hconditions⟩, hfault⟩
    refine ⟨conditions, hconditions, ?_⟩
    rwa [select_eq_error_iff, locationFault?_of_mapM hconditions]

/-! ## Results -/

/-- **When there is a result, and which**: what is asked of the expressions is asked of each by
itself. -/
theorem evaluate_eq_ok_iff {records : List Observation} :
    evaluate vocabulary tolerance expressions dataset = .ok records ↔
      (∀ e ∈ expressions, vocabulary.Compiles e) ∧
      (∀ e ∈ expressions, ∀ point, ¬ vocabulary.Misplaces dataset tolerance e point) ∧
      records = dataset.records.filter fun o => expressions.all (vocabulary.admits o) := by
  have hresult : ∀ conditions, expressions.mapM vocabulary.compile = .ok conditions →
      (select conditions dataset tolerance = .ok records ↔
        (∀ e ∈ expressions, ∀ point, ¬ vocabulary.Misplaces dataset tolerance e point) ∧
        records = dataset.records.filter fun o => expressions.all (vocabulary.admits o)) := by
    intro conditions hconditions
    have hadmits : (fun o => conditions.all (·.isMet o)) =
        fun o => expressions.all (vocabulary.admits o) := by
      funext o
      exact all_of_mapM_eq_ok hconditions
    rw [select_eq_ok_iff, locationFault?_of_mapM hconditions, hadmits, List.findSome?_eq_none_iff]
    simp only [placeFault?_eq_none_iff]
  unfold evaluate
  rw [bind_eq_ok, ← exists_conditions_iff]
  constructor
  · rintro ⟨conditions, hconditions, hselect⟩
    exact ⟨⟨conditions, hconditions⟩, (hresult conditions hconditions).1 hselect⟩
  · rintro ⟨⟨conditions, hconditions⟩, hrest⟩
    exact ⟨conditions, hconditions, (hresult conditions hconditions).2 hrest⟩

/-- **The result does not depend on the order of the expressions**, nor on how often they occur. -/
theorem evaluate_eq_ok_congr {expressions' : List String}
    (h : ∀ e, e ∈ expressions' ↔ e ∈ expressions) {records : List Observation} :
    evaluate vocabulary tolerance expressions' dataset = .ok records ↔
      evaluate vocabulary tolerance expressions dataset = .ok records := by
  have hall : ∀ o, expressions'.all (vocabulary.admits o) =
      expressions.all (vocabulary.admits o) := by
    intro o
    rw [Bool.eq_iff_iff]
    simp [h]
  simp only [evaluate_eq_ok_iff, h, hall]

/-- **The order of a plan decides which fault is reported, and nothing else.** Evaluation fails with
the first expression that means nothing; if all mean something, with the first that requires
another place than the dataset's; and otherwise it has a result. Two plans of the same expressions,
in any order and repeated as may be, have the same result or both have none. -/
theorem evaluate_error_iff_and_ok_iff (vocabulary : Vocabulary) (tolerance : Binary64)
    (expressions : List String) (dataset : Dataset) :
    (∀ fault, evaluate vocabulary tolerance expressions dataset = .error fault ↔
      (∃ before e after, expressions = before ++ e :: after ∧
        (∀ e' ∈ before, vocabulary.Compiles e') ∧ vocabulary.compile e = .error fault) ∨
      (∀ e ∈ expressions, vocabulary.Compiles e) ∧
        ∃ before e after point, expressions = before ++ e :: after ∧
          (∀ e' ∈ before, ∀ q, ¬ vocabulary.Misplaces dataset tolerance e' q) ∧
          vocabulary.Misplaces dataset tolerance e point ∧
          fault = .elsewhere point dataset.location) ∧
    ((∃ records, evaluate vocabulary tolerance expressions dataset = .ok records) ↔
      (∀ e ∈ expressions, vocabulary.Compiles e) ∧
        ∀ e ∈ expressions, ∀ point, ¬ vocabulary.Misplaces dataset tolerance e point) ∧
    ∀ expressions' : List String, (∀ e, e ∈ expressions' ↔ e ∈ expressions) → ∀ records,
      evaluate vocabulary tolerance expressions' dataset = .ok records ↔
        evaluate vocabulary tolerance expressions dataset = .ok records := by
  refine ⟨fun fault => evaluate_eq_error_iff, ?_, fun _ h _ => evaluate_eq_ok_congr h⟩
  simp only [evaluate_eq_ok_iff]
  constructor
  · rintro ⟨records, hcompiles, hplaces, -⟩
    exact ⟨hcompiles, hplaces⟩
  · rintro ⟨hcompiles, hplaces⟩
    exact ⟨_, hcompiles, hplaces, rfl⟩

end Plan

end Fairweather
