import Fairweather.Proofs.Calendar.Reading
import Fairweather.Proofs.Forecast.Columns

/-!
# From columns to a dataset, or to the first fault

A decoded forecast is a list of times and six columns, of any lengths. Three things can be wrong
with it, and they are looked for one after the other:

* a column that is longer or shorter than the times (`Hourly.FirstUneven`),
* a time that cannot be read (`FirstUnreadable`),
* a time that is out of step with those before it (`FirstMisstep`).

The first fault of the first kind that there is is reported. Only even columns are ever looked into,
so there is an entry for every row (`Hourly.IsEven.getElem?_eq_entry`).

If nothing is wrong, every row is an observation at its place (`Hourly.HasRow`). The times of a
forecast are whole seconds (`Hourly.isWholeSecond_of_rows`), so they ascend even where there are
leap seconds among them: only parts of a second can overlap at midnight.

Main result: `Forecast.toDataset_ok_iff_and_error_iff`.
-/

namespace Fairweather

/-! ## Times -/

/-- Texts are read as timestamps, each in its place. -/
def ReadAs (texts : List String) (times : List Timestamp) : Prop :=
  texts.map Timestamp.ofForecast? = times.map some

/-- The first text that is no time of a forecast. -/
def FirstUnreadable (texts : List String) (fault : DatasetFault) : Prop :=
  ∃ before text after, texts = before ++ text :: after ∧
    (∀ s ∈ before, ∃ t, Timestamp.ofForecast? s = some t) ∧
    Timestamp.ofForecast? text = none ∧ fault = .unreadableTime text

theorem ReadAs.unique {texts : List String} {times times' : List Timestamp}
    (h : ReadAs texts times) (h' : ReadAs texts times') : times = times' :=
  List.map_injective_iff.2 (Option.some_injective _) (h.symm.trans h')

theorem ReadAs.exists_of_mem {texts : List String} {times : List Timestamp}
    (h : ReadAs texts times) {text : String} (htext : text ∈ texts) :
    ∃ t, Timestamp.ofForecast? text = some t := by
  have hmem : Timestamp.ofForecast? text ∈ times.map some := by
    rw [← h]
    exact List.mem_map_of_mem htext
  obtain ⟨t, -, ht⟩ := List.mem_map.1 hmem
  exact ⟨t, ht.symm⟩

namespace Hourly

variable {hourly : Hourly} {records : List Observation} {fault : DatasetFault}

/-! ## Columns -/

/-- The columns under their names, in the order in which their lengths are compared. -/
def checkedColumns (hourly : Hourly) : List (String × List (Option Binary64)) :=
  [("temperature_2m", hourly.columns.temperature),
    ("precipitation_probability", hourly.columns.precipitationProbability),
    ("precipitation", hourly.columns.precipitation),
    ("cloud_cover", hourly.columns.cloudCover),
    ("wind_direction_10m", hourly.columns.windDirection),
    ("wind_speed_10m", hourly.columns.windSpeed)]

/-- Every column has as many entries as there are times. -/
def IsEven (hourly : Hourly) : Prop :=
  ∀ column ∈ hourly.checkedColumns, column.2.length = hourly.times.length

/-- The first column that is longer or shorter than the times. -/
def FirstUneven (hourly : Hourly) (fault : DatasetFault) : Prop :=
  ∃ before name column after, hourly.checkedColumns = before ++ (name, column) :: after ∧
    (∀ c ∈ before, c.2.length = hourly.times.length) ∧ column.length ≠ hourly.times.length ∧
    fault = .columnLength name column.length hourly.times.length

/-- The fault of a column whose length is not that of the times. -/
def lengthFault? (rows : Nat) (column : String × List (Option Binary64)) : Option DatasetFault :=
  if column.2.length = rows then none else some (.columnLength column.1 column.2.length rows)

theorem columnFault?_eq (hourly : Hourly) :
    hourly.columnFault? = hourly.checkedColumns.findSome? (lengthFault? hourly.times.length) := by
  show hourly.columnFault? = (Measure.columnOrder.map fun m =>
    (m.column, hourly.columns.get m)).findSome? (lengthFault? hourly.times.length)
  rw [List.findSome?_map]
  rfl

theorem columnFault?_eq_none_iff : hourly.columnFault? = none ↔ hourly.IsEven := by
  simp [columnFault?_eq, List.findSome?_eq_none_iff, lengthFault?, IsEven]

theorem columnFault?_eq_some_iff : hourly.columnFault? = some fault ↔ hourly.FirstUneven fault := by
  rw [columnFault?_eq, List.findSome?_eq_some_iff]
  constructor
  · rintro ⟨before, ⟨name, column⟩, after, heq, hfault, hbefore⟩
    by_cases hlength : column.length = hourly.times.length
    · simp [lengthFault?, hlength] at hfault
    · simp only [lengthFault?, if_neg hlength, Option.some.injEq] at hfault
      refine ⟨before, name, column, after, heq, fun c hc => ?_, hlength, hfault.symm⟩
      simpa [lengthFault?] using hbefore c hc
  · rintro ⟨before, name, column, after, heq, hbefore, hlength, rfl⟩
    refine ⟨before, (name, column), after, heq, by simp [lengthFault?, hlength], fun c hc => ?_⟩
    simp [lengthFault?, hbefore c hc]

/-- **No look-up goes beyond a column** that has as many entries as there are times. -/
theorem IsEven.getElem?_eq_entry (h : hourly.IsEven) (m : Measure) {row : Nat}
    (hrow : row < hourly.times.length) :
    ∃ cell, (hourly.columns.get m)[row]? = some cell ∧
      entry (hourly.columns.get m) row = cell.getD .nan := by
  have hlength := length_eq_of_columnFault?_eq_none (columnFault?_eq_none_iff.2 h) m
  have hget := List.getElem?_eq_getElem (hlength ▸ hrow)
  exact ⟨_, hget, by simp [entry, hget]⟩

/-! ## Rows -/

theorem observation_eq_error_iff {text : String} {row : Nat} :
    hourly.observation text row = .error fault ↔
      Timestamp.ofForecast? text = none ∧ fault = .unreadableTime text := by
  unfold observation
  cases Timestamp.ofForecast? text <;> simp [eq_comm]

theorem exists_observation_iff {text : String} {row : Nat} :
    (∃ o, hourly.observation text row = .ok o) ↔ ∃ t, Timestamp.ofForecast? text = some t := by
  unfold observation
  cases Timestamp.ofForecast? text <;> simp

/-- **Which fault the rows have**: that of the first uneven column, and if all are even, that of the
first time that cannot be read. -/
theorem rows_eq_error_iff : hourly.rows = .error fault ↔
    hourly.FirstUneven fault ∨ hourly.IsEven ∧ FirstUnreadable hourly.times fault := by
  rw [← columnFault?_eq_some_iff, ← columnFault?_eq_none_iff, rows]
  cases hcolumn : hourly.columnFault? with
  | some reason => simp
  | none =>
    simp only [reduceCtorEq, false_or, true_and]
    rw [mapM_eq_error]
    constructor
    · rintro ⟨before, ⟨text, row⟩, after, heq, hbefore, hfault⟩
      obtain ⟨hunreadable, rfl⟩ := observation_eq_error_iff.1 hfault
      refine ⟨before.map Prod.fst, text, after.map Prod.fst, ?_, ?_, hunreadable, rfl⟩
      · simpa using congrArg (List.map Prod.fst) heq
      · rintro s hs
        obtain ⟨p, hp, rfl⟩ := List.mem_map.1 hs
        exact exists_observation_iff.1 (hbefore p hp)
    · rintro ⟨before, text, after, heq, hbefore, hunreadable, rfl⟩
      refine ⟨before.zipIdx, (text, before.length), after.zipIdx (before.length + 1), ?_, ?_,
        observation_eq_error_iff.2 ⟨hunreadable, rfl⟩⟩
      · simp [heq, List.zipIdx_append]
      · rintro p hp
        exact exists_observation_iff.2 (hbefore p.1 (List.fst_mem_of_mem_zipIdx hp))

theorem isEven_of_rows (h : hourly.rows = .ok records) : hourly.IsEven := by
  unfold rows at h
  split at h
  · cases h
  · next hcolumn => exact columnFault?_eq_none_iff.1 hcolumn

theorem readAs_of_rows (h : hourly.rows = .ok records) :
    ReadAs hourly.times (records.map Observation.timestamp) := by
  obtain ⟨-, hlength, hrecords⟩ := rows_ok h
  refine List.ext_getElem? fun row => ?_
  simp only [List.getElem?_map]
  by_cases hrow : row < records.length
  · have ho := List.getElem?_eq_getElem hrow
    obtain ⟨text, htext, htime, -⟩ := hrecords row _ ho
    simp [ho, htext, htime]
  · rw [not_lt] at hrow
    simp [List.getElem?_eq_none hrow, List.getElem?_eq_none (hlength ▸ hrow)]

/-- **When there are rows**, and which times they have. -/
theorem exists_rows_iff {times : List Timestamp} :
    (∃ records, hourly.rows = .ok records ∧ records.map Observation.timestamp = times) ↔
      hourly.IsEven ∧ ReadAs hourly.times times := by
  constructor
  · rintro ⟨records, h, rfl⟩
    exact ⟨isEven_of_rows h, readAs_of_rows h⟩
  · rintro ⟨heven, hread⟩
    have hobservation : ∀ p ∈ hourly.times.zipIdx, ∃ o, hourly.observation p.1 p.2 = .ok o :=
      fun p hp => exists_observation_iff.2 (hread.exists_of_mem (List.fst_mem_of_mem_zipIdx hp))
    obtain ⟨records, hrecords⟩ := exists_mapM_eq_ok hobservation
    have h : hourly.rows = .ok records := by
      rw [rows, columnFault?_eq_none_iff.2 heven]
      exact hrecords
    exact ⟨records, h, (readAs_of_rows h).unique hread⟩

/-- A row of the forecast is an observation: its time, and the entry of each column in its own
place, with what is no number for one that is missing. -/
structure HasRow (hourly : Hourly) (row : Nat) (o : Observation) : Prop where
  timestamp : ∃ text, hourly.times[row]? = some text ∧
    Timestamp.ofForecast? text = some o.timestamp
  entry : ∀ m, ∃ cell, (hourly.columns.get m)[row]? = some cell ∧ o.value m = cell.getD .nan

/-- **The rows of even columns** are the observations at their places. -/
theorem hasRow_of_rows (h : hourly.rows = .ok records) {row : Nat} {o : Observation}
    (ho : records[row]? = some o) : hourly.HasRow row o := by
  obtain ⟨-, -, hrecords⟩ := rows_ok h
  obtain ⟨text, htext, htime, hvalues⟩ := hrecords row o ho
  refine ⟨⟨text, htext, htime⟩, fun m => ?_⟩
  obtain ⟨cell, hcell, hentry⟩ :=
    (isEven_of_rows h).getElem?_eq_entry m (List.getElem?_eq_some_iff.1 htext).1
  exact ⟨cell, hcell, (hvalues m).trans hentry⟩

theorem isWholeSecond_of_rows (h : hourly.rows = .ok records) {o : Observation}
    (ho : o ∈ records) : o.timestamp.IsWholeSecond := by
  obtain ⟨row, ho⟩ := List.mem_iff_getElem?.1 ho
  obtain ⟨_, -, htime⟩ := (hasRow_of_rows h ho).timestamp
  exact Timestamp.isWholeSecond_of_ofForecast? htime

end Hourly

/-! ## The dataset -/

namespace Forecast

variable {forecast : Forecast} {dataset : Dataset} {fault : DatasetFault}

theorem toDataset_eq_ok_iff : forecast.toDataset = .ok dataset ↔
    forecast.hourly.rows = .ok dataset.records ∧
      dataset.location = ⟨forecast.latitude, forecast.longitude⟩ := by
  rw [toDataset, bind_eq_ok]
  simp only [Dataset.ofRecords_eq_ok_iff]
  constructor
  · rintro ⟨records, hrows, hlocation, rfl⟩
    exact ⟨hrows, hlocation⟩
  · rintro ⟨hrows, hlocation⟩
    exact ⟨_, hrows, hlocation, rfl⟩

/-- **When a forecast has a dataset**: its columns are even, its times can be read, and what is read
is evenly spaced. -/
theorem exists_toDataset_iff : (∃ dataset, forecast.toDataset = .ok dataset) ↔
    forecast.hourly.IsEven ∧ ∃ times, ReadAs forecast.hourly.times times ∧
      ∃ step, times.IsChain (SpacedBy step) := by
  simp only [toDataset_eq_ok_iff]
  constructor
  · rintro ⟨dataset, hrows, -⟩
    exact ⟨Hourly.isEven_of_rows hrows, _, Hourly.readAs_of_rows hrows,
      spacingFault?_none_eq_none_iff.1 dataset.spaced⟩
  · rintro ⟨heven, times, hread, hspaced⟩
    obtain ⟨records, hrows, rfl⟩ := Hourly.exists_rows_iff.2 ⟨heven, hread⟩
    exact ⟨⟨_, records, spacingFault?_none_eq_none_iff.2 hspaced⟩, hrows, rfl⟩

/-- **Which fault a forecast has.** -/
theorem toDataset_eq_error_iff : forecast.toDataset = .error fault ↔
    forecast.hourly.FirstUneven fault ∨ forecast.hourly.IsEven ∧
      (FirstUnreadable forecast.hourly.times fault ∨
        ∃ times, ReadAs forecast.hourly.times times ∧ FirstMisstep times fault) := by
  rw [toDataset, bind_eq_error, Hourly.rows_eq_error_iff, and_or_left, or_assoc]
  refine or_congr_right (or_congr_right ?_)
  simp only [Dataset.ofRecords_eq_error_iff, spacingFault?_none_eq_some_iff]
  constructor
  · rintro ⟨records, hrows, hmisstep⟩
    exact ⟨Hourly.isEven_of_rows hrows, _, Hourly.readAs_of_rows hrows, hmisstep⟩
  · rintro ⟨heven, times, hread, hmisstep⟩
    obtain ⟨records, hrows, rfl⟩ := Hourly.exists_rows_iff.2 ⟨heven, hread⟩
    exact ⟨records, hrows, hmisstep⟩

/-- **A forecast becomes a dataset row by row, or its first fault is reported.** There is a dataset
exactly when all columns are as long as the times and the times can be read and are evenly spaced;
it is for the place of the forecast, each of its observations is the row at its position, and the
observations ascend. Otherwise the fault is that of the first uneven column, and if there is none,
of the first unreadable time, and if there is none, of the first time out of step. No look-up goes
beyond a column. -/
theorem toDataset_ok_iff_and_error_iff (forecast : Forecast) :
    ((∃ dataset, forecast.toDataset = .ok dataset) ↔
      forecast.hourly.IsEven ∧ ∃ times, ReadAs forecast.hourly.times times ∧
        ∃ step, times.IsChain (SpacedBy step)) ∧
    (∀ dataset, forecast.toDataset = .ok dataset →
      dataset.location = ⟨forecast.latitude, forecast.longitude⟩ ∧
      dataset.size = forecast.hourly.times.length ∧
      (∀ (row : Nat) o, dataset.records[row]? = some o → forecast.hourly.HasRow row o) ∧
      dataset.records.Pairwise fun a b => a.timestamp < b.timestamp) ∧
    (∀ fault, forecast.toDataset = .error fault ↔
      forecast.hourly.FirstUneven fault ∨ forecast.hourly.IsEven ∧
        (FirstUnreadable forecast.hourly.times fault ∨
          ∃ times, ReadAs forecast.hourly.times times ∧ FirstMisstep times fault)) ∧
    (forecast.hourly.columnFault? = none → ∀ row < forecast.hourly.times.length, ∀ m,
      ∃ cell, (forecast.hourly.columns.get m)[row]? = some cell ∧
        Hourly.entry (forecast.hourly.columns.get m) row = cell.getD .nan) ∧
    ∀ origin text, Json.decode Forecast.decode text = .ok forecast →
      Dataset.ofSymbols origin text = forecast.toDataset.mapError .invalidDataset := by
  refine ⟨exists_toDataset_iff, fun dataset h => ?_, fun fault => toDataset_eq_error_iff,
    fun heven row hrow m => (Hourly.columnFault?_eq_none_iff.1 heven).getElem?_eq_entry m hrow,
    fun origin text hdecode => ?_⟩
  · obtain ⟨hrows, hlocation⟩ := toDataset_eq_ok_iff.1 h
    exact ⟨hlocation, (Hourly.rows_ok hrows).2.1, fun row o => Hourly.hasRow_of_rows hrows,
      Dataset.pairwise_lt_of_isWholeSecond fun _ => Hourly.isWholeSecond_of_rows hrows⟩
  · simp only [Dataset.ofSymbols, hdecode]
    cases forecast.toDataset <;> rfl

end Forecast

end Fairweather
