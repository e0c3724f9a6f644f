import Fairweather.Proofs.Forecast.Loading
import Fairweather.Proofs.Plan.Chronology
import Fairweather.Proofs.Plan.Precedence

/-!
# Windows at the end of the calendar

A window ends one interval after its last observation, and nothing checks that the calendar goes so
far. The years of a saved forecast are read with any number of digits, so it may well end where the
calendar does. This module says for which forecasts and plans there are no windows to tell.

**One observation.** The times of a forecast are whole seconds, and its interval is at least one. So
leap seconds play no part: an interval leads beyond the calendar when the second of the observation
and the interval together do (`Observation.OutlastsCalendar`).

**Many observations.** They ascend in time, so if any of them outlasts the calendar, the last one
does (`exists_outlastsCalendar_iff`). What a plan selects comes in their order, so the last one that
is selected decides for the plan, and the last one of the forecast for all plans.

Main result: `Planner.windows?_eq_none_iff_and_safe_iff`.
-/

namespace Fairweather

/-- The interval of the observation would end beyond the calendar. -/
def Observation.OutlastsCalendar (o : Observation) (step : Int) : Prop :=
  Timestamp.calendarEnd ≤ o.timestamp.secondStart + step

/-- The last of ascending observations is the first to outlast the calendar. -/
theorem exists_outlastsCalendar_iff {records : List Observation} {step : Int}
    (h : records.Pairwise fun a b => a.timestamp < b.timestamp) :
    (∃ o ∈ records, o.OutlastsCalendar step) ↔
      ∃ last, records.getLast? = some last ∧ last.OutlastsCalendar step := by
  constructor
  · rintro ⟨o, ho, houtlasts⟩
    obtain ⟨before, last, rfl⟩ :=
      (List.eq_nil_or_concat' records).resolve_left (List.ne_nil_of_mem ho)
    refine ⟨last, by simp, ?_⟩
    rcases List.mem_append.1 ho with hbefore | hlast
    · have hlt := (List.pairwise_append.1 h).2.2 o hbefore last (by simp)
      exact houtlasts.trans (Int.add_le_add_right (Timestamp.secondStart_le hlt.le) step)
    · rwa [← List.mem_singleton.1 hlast]
  · rintro ⟨last, hlast, houtlasts⟩
    exact ⟨last, List.mem_of_getLast? hlast, houtlasts⟩

variable {text : String} {dataset : Dataset} {planner : Planner} {expressions : List String}

theorem Dataset.isWholeSecond_of_ofJson (h : ofJson text = .ok dataset) {o : Observation}
    (ho : o ∈ dataset.records) : o.timestamp.IsWholeSecond := by
  obtain ⟨_, -, hrows⟩ := ofJson_ok h
  exact Hourly.isWholeSecond_of_rows hrows ho

namespace Planner

theorem evaluate_nil : planner.evaluate [] dataset = .ok dataset.records :=
  Plan.evaluate_eq_ok_iff.2 (by simp)

/-- **When there are no windows to tell**: when the last observation that is selected outlasts the
calendar. -/
theorem windows?_eq_none_iff_of_ofJson (h : Dataset.ofJson text = .ok dataset) :
    planner.windows? expressions dataset = .ok none ↔
      ∃ selection step last, planner.evaluate expressions dataset = .ok selection ∧
        dataset.interval? = some step ∧ selection.getLast? = some last ∧
        last.OutlastsCalendar step := by
  have hwhole : ∀ o ∈ dataset.records, o.timestamp.IsWholeSecond :=
    fun _ => Dataset.isWholeSecond_of_ofJson h
  have hlt := Dataset.pairwise_lt_of_isWholeSecond hwhole
  simp only [windows?_eq_ok_iff, Fairweather.windows?_eq_none_iff]
  cases hstep : dataset.interval? with
  | none => simp
  | some step =>
    have hsecond := Dataset.le_interval?_of_isWholeSecond hstep hwhole
    constructor
    · rintro ⟨selection, hselection, o, ho, hnone⟩
      have hsublist := evaluate_sublist hselection
      have houtlasts := ((hwhole o (hsublist.mem ho)).shift?_eq_none_iff hsecond).1 hnone
      obtain ⟨last, hlast, houtlasts⟩ :=
        (exists_outlastsCalendar_iff (hlt.sublist hsublist)).1 ⟨o, ho, houtlasts⟩
      exact ⟨selection, step, last, hselection, rfl, hlast, houtlasts⟩
    · rintro ⟨selection, step', last, hselection, heq, hlast, houtlasts⟩
      cases heq
      have ho := List.mem_of_getLast? hlast
      have hlastWhole := hwhole last ((evaluate_sublist hselection).mem ho)
      exact ⟨selection, hselection, last, ho, (hlastWhole.shift?_eq_none_iff hsecond).2 houtlasts⟩

/-- **When all plans have windows or a fault**: when the last observation of the forecast does not
outlast the calendar. -/
theorem forall_windows?_iff_of_ofJson (h : Dataset.ofJson text = .ok dataset) :
    (∀ expressions, planner.windows? expressions dataset ≠ .ok none) ↔
      ∀ step last, dataset.interval? = some step → dataset.records.getLast? = some last →
        ¬ last.OutlastsCalendar step := by
  simp only [ne_eq, windows?_eq_none_iff_of_ofJson h]
  constructor
  · intro hsafe step last hstep hlast houtlasts
    exact hsafe [] ⟨_, step, last, evaluate_nil, hstep, hlast, houtlasts⟩
  · rintro hlast expressions ⟨selection, step, o, hselection, hstep, ho, houtlasts⟩
    have hmem := (evaluate_sublist hselection).mem (List.mem_of_getLast? ho)
    have hlt := Dataset.pairwise_lt_of_isWholeSecond fun _ => Dataset.isWholeSecond_of_ofJson h
    obtain ⟨last, hlast', houtlasts⟩ := (exists_outlastsCalendar_iff hlt).1 ⟨o, hmem, houtlasts⟩
    exact hlast step last hstep hlast' houtlasts

/-- **The windows of a forecast fail at the end of the calendar only.** For a forecast that loads, a
plan has no windows to tell exactly when the last observation that it selects outlasts the calendar.
All plans have windows or a fault exactly when the last observation of the forecast does not. -/
theorem windows?_eq_none_iff_and_safe_iff {text : String} {dataset : Dataset}
    (h : Dataset.ofJson text = .ok dataset) (planner : Planner) :
    (∀ expressions, planner.windows? expressions dataset = .ok none ↔
      ∃ selection step last, planner.evaluate expressions dataset = .ok selection ∧
        dataset.interval? = some step ∧ selection.getLast? = some last ∧
        last.OutlastsCalendar step) ∧
    ((∀ expressions, (∃ ws, planner.windows? expressions dataset = .ok (some ws)) ∨
        ∃ fault, planner.windows? expressions dataset = .error fault) ↔
      ∀ step last, dataset.interval? = some step → dataset.records.getLast? = some last →
        ¬ last.OutlastsCalendar step) := by
  simp only [exists_ok_some_or_error_iff]
  exact ⟨fun _ => windows?_eq_none_iff_of_ofJson h, forall_windows?_iff_of_ofJson h⟩

/-- A saved forecast for the last two hours of the calendar. -/
def lastTwoHours : List Char := List.flatMap String.toList
  ["\x7b\"latitude\": 31, \"longitude\": 115, \"hourly\": \x7b\"time\": ",
    "[\"+262142-12-31T22:00\", \"+262142-12-31T23:00\"], ",
    "\"temperature_2m\": [12, 13], \"precipitation_probability\": [0, 0], ",
    "\"precipitation\": [0, 0], \"cloud_cover\": [20, 40], ",
    "\"wind_direction_10m\": [90, 95], \"wind_speed_10m\": [7, 4]\x7d\x7d"]

theorem exists_windows?_lastTwoHours : ∃ dataset,
    Dataset.ofJson (.ofList lastTwoHours) = .ok dataset ∧
      default.windows? [] dataset = .ok none := by
  apply map_eq_ok.1
  rw [Dataset.ofJson, String.toList_ofList]
  decide +kernel

theorem windows?_eq_none_iff_and_safe_iff_lastTwoHours :
    ∃ dataset, Dataset.ofJson (.ofList lastTwoHours) = .ok dataset ∧
      default.windows? [] dataset = .ok none ∧
      ∃ selection step last, default.evaluate [] dataset = .ok selection ∧
        dataset.interval? = some step ∧ selection.getLast? = some last ∧
        last.OutlastsCalendar step := by
  obtain ⟨dataset, hload, hnone⟩ := exists_windows?_lastTwoHours
  obtain ⟨hwindows, -⟩ := windows?_eq_none_iff_and_safe_iff hload default
  exact ⟨dataset, hload, hnone, (hwindows []).1 hnone⟩

/-- The last hour of the calendar has no end in it. -/
theorem windows?_lastTwoHours :
    ¬ ∀ text dataset, Dataset.ofJson text = .ok dataset → ∀ (planner : Planner) expressions,
      (∃ ws, planner.windows? expressions dataset = .ok (some ws)) ∨
        ∃ fault, planner.windows? expressions dataset = .error fault := by
  intro h
  obtain ⟨dataset, hload, hnone⟩ := exists_windows?_lastTwoHours
  exact exists_ok_some_or_error_iff.1 (h _ dataset hload default []) hnone

end Planner

end Fairweather
