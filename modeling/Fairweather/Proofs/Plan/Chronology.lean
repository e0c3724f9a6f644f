import Fairweather.Plan.Planner
import Fairweather.Proofs.Forecast.Grouping
import Fairweather.Proofs.Forecast.Spacing
import Fairweather.Proofs.Results
import Fairweather.Proofs.Plan.Selection

/-!
# Plans in time

What a plan selects comes in the order of the dataset, and its windows follow each other in time and
leave out no observation that they cover. Both hold up to leap seconds, and this module says how
far.

**Order.** A dataset is ascending if no timestamp after the first is past the beginning of a leap
second that ends a day (`Dataset.ofRecords_ascending`). Half a second into such a leap second is
later, as a difference, than the midnight that follows it, and if there is another leap second
behind midnight, a dataset may even come back to where it was (`Dataset.ofRecords_descending`).

**Windows.** A window ends one interval after its last observation. From a timestamp in no leap
second that interval is added to the instant, so it leads past a leap second on the way, and past an
observation that is there; the window may even go on behind it
(`Planner.windows?_cover_unselected`). If no observation but the first is
in a leap second, no interval leads past the next observation, and a window holds what it covers
(`Planner.windows?_cover`).
-/

namespace Fairweather

/-! ## What is evaluated -/

theorem Plan.evaluate_ok {vocabulary : Vocabulary} {tolerance : Binary64}
    {expressions : List String} {dataset : Dataset} {selection : List Observation}
    (h : evaluate vocabulary tolerance expressions dataset = .ok selection) :
    ∃ conditions : List Condition, expressions.mapM vocabulary.compile = .ok conditions ∧
      selection = dataset.records.filter fun o => conditions.all (·.isMet o) := by
  obtain ⟨conditions, hconditions, hselect⟩ := bind_eq_ok.1 h
  exact ⟨conditions, hconditions, (select_eq_ok_iff.1 hselect).2⟩

namespace Planner

variable {planner : Planner} {expressions : List String} {dataset : Dataset}
  {selection : List Observation}

theorem evaluate_sublist (h : planner.evaluate expressions dataset = .ok selection) :
    selection.Sublist dataset.records := by
  obtain ⟨conditions, -, rfl⟩ := Plan.evaluate_ok h
  exact List.filter_sublist

/-- **What is selected meets every expression.** -/
theorem isMet_of_evaluate (h : planner.evaluate expressions dataset = .ok selection)
    {o : Observation} (ho : o ∈ selection) {e : String} (he : e ∈ expressions) :
    ∃ c, planner.compile e = .ok c ∧ c.isMet o := by
  obtain ⟨conditions, hconditions, rfl⟩ := Plan.evaluate_ok h
  obtain ⟨c, hc, hcompile⟩ := exists_of_mapM_eq_ok hconditions he
  exact ⟨c, hcompile, List.all_eq_true.1 (List.mem_filter.1 ho).2 c hc⟩

theorem windows?_eq_ok_iff {ws : Option (List Window)} :
    planner.windows? expressions dataset = .ok ws ↔
      ∃ selection, planner.evaluate expressions dataset = .ok selection ∧
        Fairweather.windows? dataset.interval? selection = ws := map_eq_ok

end Planner

/-! ## Around a leap second -/

/-- A time in the last second of 2016, which is two seconds long: the leap second is in it. -/
def yearEnd (nanosecond : Fin 2000000000) : Timestamp where
  day := 736694
  second := 86399
  nanosecond := nanosecond
  day_mem := by decide
  second_lt := by decide
  nanosecond_lt := nanosecond.isLt

/-- A second of the first day of 2017. -/
def newYear (second : Fin 86400) : Timestamp where
  day := 736695
  second := second
  nanosecond := 0
  day_mem := by decide
  second_lt := second.isLt
  nanosecond_lt := by decide

/-- A time in the first second of 2017, prolonged by a leap second that no clock shows. -/
def yearStart (nanosecond : Fin 2000000000) : Timestamp where
  day := 736695
  second := 0
  nanosecond := nanosecond
  day_mem := by decide
  second_lt := by decide
  nanosecond_lt := nanosecond.isLt

/-- An observation of the wind alone. -/
def windAt (timestamp : Timestamp) (speed : Nat) : Observation where
  timestamp := timestamp
  readings := (Readings.ofFn fun _ => .nan).set .windSpeed (Decimal.toBinary64 ⟨false, speed, 0⟩)

/-- Four observations, a second apart, the first of them at the leap second. -/
def fromLeapSecond : Dataset where
  location := ⟨.signed false 0, .signed false 0⟩
  records := [windAt (yearEnd 1000000000) 9, windAt (newYear 1) 9, windAt (newYear 2) 1,
    windAt (newYear 3) 9]
  spaced := by decide

/-- The leap second where the clocks are eight hours ahead, just before eight in the morning. -/
def leapBeforeEight : Timestamp where
  day := 736695
  second := 28799
  nanosecond := 1000000000
  day_mem := by decide
  second_lt := by decide
  nanosecond_lt := by decide

/-- Three observations, a second apart, the one in the middle at the leap second. -/
def acrossLeapSecond : Dataset where
  location := ⟨.signed false 0, .signed false 0⟩
  records := [windAt (newYear 28799) 9, windAt leapBeforeEight 1, windAt (newYear 28800) 9]
  spaced := by decide

/-- Four observations, a second apart, the first of them in the second before the leap second. -/
def overNewYear : Dataset where
  location := ⟨.signed false 0, .signed false 0⟩
  records := [windAt (yearEnd 0) 9, windAt (newYear 0) 9, windAt (newYear 1) 1,
    windAt (newYear 2) 9]
  spaced := by decide

/-! ## Order -/

/-- **The observations of a dataset ascend in time**, and with them what is selected, unless a later
timestamp is past the beginning of a leap second that ends a day. In any case an observation is
before the next one, or they lie on the two sides of a midnight, the next one in the leap second
before it. If the day behind midnight does not begin with a leap second of its own, this holds of
any two observations, and no timestamp occurs twice. -/
theorem Dataset.ofRecords_ascending {location : Coordinates} {records : List Observation}
    {dataset : Dataset} (h : ofRecords location records = .ok dataset) :
    records.IsChain (fun a b =>
      a.timestamp < b.timestamp ∨ Timestamp.OverlapAtMidnight a.timestamp b.timestamp) ∧
    ((∀ o ∈ records, o.timestamp.second = 0 → o.timestamp.isLeap = false) →
      records.Pairwise (fun a b => a.timestamp ≠ b.timestamp ∧
        (a.timestamp < b.timestamp ∨ Timestamp.OverlapAtMidnight a.timestamp b.timestamp))) ∧
    ((∀ o ∈ records.tail, o.timestamp.second = 86399 → o.timestamp.nanosecond ≤ 1000000000) →
      records.Pairwise (fun a b => a.timestamp < b.timestamp) ∧
      ∀ (planner : Planner) expressions selection,
        planner.evaluate expressions dataset = .ok selection →
          selection.Pairwise fun a b => a.timestamp < b.timestamp) := by
  obtain ⟨-, rfl⟩ := ofRecords_eq_ok_iff.1 h
  refine ⟨dataset.isChain_lt_or_overlap, fun hopen => ?_, fun hplain => ?_⟩
  · refine (pairwise_lt_or_overlap hopen).imp fun hor => ⟨?_, hor⟩
    rcases hor with hlt | hoverlap
    · exact hlt.ne
    · intro heq
      have hday := hoverlap.1
      rw [heq] at hday
      omega
  · have hlt := pairwise_lt hplain
    exact ⟨hlt, fun planner expressions selection hselection =>
      hlt.sublist (Planner.evaluate_sublist hselection)⟩

theorem Dataset.ofRecords_ascending_fromLeapSecond :
    ofRecords fromLeapSecond.location fromLeapSecond.records = .ok fromLeapSecond ∧
      fromLeapSecond.records.IsChain (fun a b => a.timestamp < b.timestamp ∨
        Timestamp.OverlapAtMidnight a.timestamp b.timestamp) ∧
      (∀ o ∈ fromLeapSecond.records, o.timestamp.second = 0 → o.timestamp.isLeap = false) ∧
      fromLeapSecond.records.Pairwise (fun a b => a.timestamp ≠ b.timestamp ∧
        (a.timestamp < b.timestamp ∨ Timestamp.OverlapAtMidnight a.timestamp b.timestamp)) ∧
      (∀ o ∈ fromLeapSecond.records.tail, o.timestamp.second = 86399 →
        o.timestamp.nanosecond ≤ 1000000000) ∧
      fromLeapSecond.records.Pairwise (fun a b => a.timestamp < b.timestamp) ∧
      ∃ selection, Planner.default.evaluate ["wind > 5"] fromLeapSecond = .ok selection ∧
        selection.Pairwise fun a b => a.timestamp < b.timestamp := by
  have h : ofRecords fromLeapSecond.location fromLeapSecond.records = .ok fromLeapSecond :=
    ofRecords_eq_ok_iff.2 ⟨rfl, rfl⟩
  have hopen : ∀ o ∈ fromLeapSecond.records, o.timestamp.second = 0 →
      o.timestamp.isLeap = false := by decide
  have hplain : ∀ o ∈ fromLeapSecond.records.tail, o.timestamp.second = 86399 →
      o.timestamp.nanosecond ≤ 1000000000 := by decide
  obtain ⟨hchain, hpairwise, hascending⟩ := ofRecords_ascending h
  obtain ⟨hrecords, hselection⟩ := hascending hplain
  have hevaluate : Planner.default.evaluate ["wind > 5"] fromLeapSecond =
      .ok [windAt (yearEnd 1000000000) 9, windAt (newYear 1) 9, windAt (newYear 3) 9] := by
    decide +kernel
  exact ⟨h, hchain, hopen, hpairwise hopen, hplain, hrecords, _, hevaluate,
    hselection _ _ _ hevaluate⟩

/-- Half a second into a leap second that ends a day counts as later than midnight. With a leap
second on the other side of midnight as well, steps of a quarter of a second lead from one into the
other and back to where they began. -/
theorem Dataset.ofRecords_descending :
    (¬ ∀ location records dataset, Dataset.ofRecords location records = .ok dataset →
      records.Pairwise fun a b => a.timestamp < b.timestamp) ∧
    ¬ ∀ location records dataset, Dataset.ofRecords location records = .ok dataset →
      records.Pairwise fun a b => a.timestamp ≠ b.timestamp := by
  constructor
  · intro h
    have hpair := h ⟨.signed false 0, .signed false 0⟩
      [windAt (newYear 0) 9, windAt (yearEnd 1500000000) 9] ⟨_, _, by decide⟩
      (ofRecords_eq_ok_iff.2 ⟨rfl, rfl⟩)
    rw [List.pairwise_pair, Timestamp.lt_iff] at hpair
    exact absurd hpair (by decide)
  · intro h
    have hpairwise := h ⟨.signed false 0, .signed false 0⟩
      [windAt (yearStart 1000000000) 9, windAt (yearEnd 1250000000) 9,
        windAt (yearEnd 1500000000) 9, windAt (yearStart 750000000) 9,
        windAt (yearStart 1000000000) 9] ⟨_, _, by decide⟩ (ofRecords_eq_ok_iff.2 ⟨rfl, rfl⟩)
    exact absurd hpairwise (by decide)

/-! ## Windows -/

/-- Windows hold what they cover: they follow each other without an overlap, and every observation
of the dataset from the beginning of a window up to its end is in it. -/
structure HoldWhatTheyCover (dataset : Dataset) (windows : List Window) : Prop where
  ordered : windows.Pairwise fun v w => v.start < w.start ∧ v.stop ≤ w.start
  complete : ∀ w ∈ windows, ∀ o ∈ dataset.records, w.start ≤ o.timestamp → o.timestamp < w.stop →
    o ∈ w.records

/-- **Windows hold what they cover**, if no observation but the first is in a leap second, and what
they hold meets every expression. -/
theorem Planner.windows?_cover {planner : Planner} {expressions : List String} {dataset : Dataset}
    {ws : List Window} (htwo : 2 ≤ dataset.size)
    (hplain : ∀ o ∈ dataset.records.tail, o.timestamp.isLeap = false)
    (h : planner.windows? expressions dataset = .ok (some ws)) :
    HoldWhatTheyCover dataset ws ∧
      ∀ w ∈ ws, ∀ o ∈ w.records, ∀ e ∈ expressions, ∃ c, planner.compile e = .ok c ∧ c.isMet o := by
  obtain ⟨selection, hselection, hwindows⟩ := windows?_eq_ok_iff.1 h
  obtain ⟨step, hstep⟩ := Dataset.exists_interval?_iff.2 htwo
  rw [hstep, windows?_eq_some_iff] at hwindows
  have hsublist := evaluate_sublist hselection
  have hrecords := Dataset.pairwise_shift?_le hstep hplain
  have hmem : ∀ w ∈ ws, ∀ o ∈ w.records, o ∈ selection := by
    intro w hw o ho
    rw [← hwindows.flatten]
    exact List.mem_flatten_of_mem (List.mem_map_of_mem hw) ho
  refine ⟨⟨hwindows.pairwise_stop_le (hrecords.sublist hsublist), ?_⟩, ?_⟩
  · intro w hw o ho hstart hstop
    have hdataset : ∀ a ∈ w.records, a ∈ dataset.records :=
      fun a ha => hsublist.mem (hmem w hw a ha)
    refine (hwindows.run w hw).mem_of_between ?_ ?_ hstart hstop
    · exact fun a ha => eq_of_timestamp_eq (hrecords.imp And.left) (hdataset a ha) ho
    · exact fun a ha => rel_of_timestamp_lt hrecords (hdataset a ha) ho
  · exact fun w hw o ho e he => isMet_of_evaluate hselection (hmem w hw o ho) he

theorem Planner.windows?_cover_fromLeapSecond :
    2 ≤ fromLeapSecond.size ∧ (∀ o ∈ fromLeapSecond.records.tail, o.timestamp.isLeap = false) ∧
      ∃ ws, Planner.default.windows? ["wind > 5"] fromLeapSecond = .ok (some ws) ∧
        HoldWhatTheyCover fromLeapSecond ws ∧
        ∀ w ∈ ws, ∀ o ∈ w.records, ∀ e ∈ ["wind > 5"],
          ∃ c, Planner.default.compile e = .ok c ∧ c.isMet o := by
  have htwo : 2 ≤ fromLeapSecond.size := by decide
  have hplain : ∀ o ∈ fromLeapSecond.records.tail, o.timestamp.isLeap = false := by decide
  have h : Planner.default.windows? ["wind > 5"] fromLeapSecond =
      .ok (some [⟨yearEnd 1000000000, newYear 0, [windAt (yearEnd 1000000000) 9]⟩,
        ⟨newYear 1, newYear 2, [windAt (newYear 1) 9]⟩,
        ⟨newYear 3, newYear 4, [windAt (newYear 3) 9]⟩]) := by
    decide +kernel
  exact ⟨htwo, hplain, _, h, windows?_cover htwo hplain h⟩

/-- The seconds before and after the leap second are taken for one window, and the leap second lies
between them. -/
theorem Planner.windows?_cover_unselected :
    ¬ ∀ (dataset : Dataset) (planner : Planner) expressions ws, 2 ≤ dataset.size →
      planner.windows? expressions dataset = .ok (some ws) → HoldWhatTheyCover dataset ws := by
  intro h
  have hwindows : Planner.default.windows? ["wind > 5"] acrossLeapSecond =
      .ok (some [⟨newYear 28799, newYear 28801,
        [windAt (newYear 28799) 9, windAt (newYear 28800) 9]⟩]) := by
    decide +kernel
  have hcover := h acrossLeapSecond _ _ _ (by decide) hwindows
  have hmem := hcover.complete _ List.mem_cons_self (windAt leapBeforeEight 1)
    (List.mem_cons_of_mem _ List.mem_cons_self) (Timestamp.le_iff.2 (by decide))
    (Timestamp.lt_iff.2 (by decide))
  exact absurd hmem (by decide)

end Fairweather
