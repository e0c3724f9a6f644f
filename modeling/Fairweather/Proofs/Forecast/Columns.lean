import Fairweather.Plan.Loading
import Fairweather.Proofs.Forecast.Sheets
import Fairweather.Proofs.Forecast.Spacing
import Fairweather.Proofs.Number.Order
import Fairweather.Proofs.Number.Rounding

/-!
# Columns of a saved forecast

What a saved forecast says, in the terms of its JSON text alone: a column is a list under a name
among the hourly fields, and a cell is what stands in it at a row (`Cell`). A cell is `null` or a
number, and the number counts as what it is read as (`HoldsNumber`).

A dataset that is loaded is held to this, row by row: each row of the times is an observation, in
order, and the measurements of the observation are the cells of the columns that are documented for
them, with what is no number in the place of `null` (`IsRow`, `Dataset.isRow_of_ofJson`).
-/

namespace Fairweather

open Json

/-! ## What the text says -/

/-- The fields of a saved forecast, in order. -/
def forecastFields : List String := ["latitude", "longitude", "hourly"]

/-- The columns of a saved forecast, in order. -/
def hourlyFields : List String :=
  ["time", "temperature_2m", "precipitation_probability", "precipitation", "cloud_cover",
    "wind_direction_10m", "wind_speed_10m"]

/-- What stands in a column at a row. -/
def Cell (forecast : Node) (column : String) (row : Nat) (cell : Node) : Prop :=
  ∃ hourly items, forecast.HasField forecastFields "hourly" hourly ∧
    hourly.HasField hourlyFields column (.list items) ∧ items.get? row = some cell

/-- A number stands in a column at a row, and is read. -/
def HoldsNumber (forecast : Node) (column : String) (row : Nat) (x : Binary64) : Prop :=
  ∃ n, Cell forecast column row (.number n) ∧ n.toBinary64 = .ok x

/-- A column gives a measurement at a row: the number that is read there, or what is no number where
there is `null`. -/
def Measures (forecast : Node) (column : String) (row : Nat) (x : Binary64) : Prop :=
  Cell forecast column row .null ∧ x = .nan ∨ HoldsNumber forecast column row x

/-- An observation is a row of the forecast, with its time and all its measurements. -/
structure IsRow (forecast : Node) (row : Nat) (o : Observation) : Prop where
  timestamp : ∃ body text, Cell forecast "time" row (.string body) ∧ body.decode = .ok text ∧
    Timestamp.ofForecast? text = some o.timestamp
  windSpeed : Measures forecast "wind_speed_10m" row o.readings.windSpeed
  windDirection : Measures forecast "wind_direction_10m" row o.readings.windDirection
  temperature : Measures forecast "temperature_2m" row o.readings.temperature
  precipitation : Measures forecast "precipitation" row o.readings.precipitation
  precipitationProbability :
    Measures forecast "precipitation_probability" row o.readings.precipitationProbability
  cloudCover : Measures forecast "cloud_cover" row o.readings.cloudCover

/-! ## What is read -/

theorem Hourly.form_lawful : Hourly.form.Lawful where
  nodup := by decide
  mem_order := by
    intro m
    cases m <;> decide
  injective := by
    intro m k
    cases m <;> cases k <;> decide
  head_ne := by
    intro m
    cases m <;> decide

theorem Hourly.decode_gives {node : Node} {hourly : Hourly} (h : Hourly.decode node = .ok hourly) :
    node.Gives hourlyFields "time" (Node.toList Node.toText) hourly.times ∧
      ∀ m : Measure, node.Gives hourlyFields m.column (Node.toList Node.toBinary64?)
        (hourly.columns.get m) := by
  obtain ⟨⟨times, columns⟩, hdecode, rfl⟩ := map_eq_ok.1 h
  exact SheetForm.decode_gives Hourly.form_lawful hdecode

theorem Forecast.fills_hourly :
    Fills Forecast.Draft.take Forecast.Draft.hourly "hourly" Hourly.decode where
  filled := by
    intro s s' value h
    rw [Draft.take, if_neg (by decide), if_neg (by decide), if_pos rfl] at h
    obtain ⟨slot, hslot, rfl⟩ := map_eq_ok.1 h
    exact fill_ok hslot
  kept := by
    intro s s' key value hne h
    unfold Draft.take at h
    split at h
    · obtain ⟨_, _, rfl⟩ := map_eq_ok.1 h
      rfl
    · split at h
      · obtain ⟨_, _, rfl⟩ := map_eq_ok.1 h
        rfl
      · obtain ⟨_, _, rfl⟩ := map_eq_ok.1 h
        rfl

theorem Forecast.decode_gives {node : Node} {forecast : Forecast}
    (h : Forecast.decode node = .ok forecast) :
    node.Gives forecastFields "hourly" Hourly.decode forecast.hourly := by
  rcases Node.toStructure_ok h with ⟨members, rfl, h⟩ | ⟨items, rfl, h⟩
  · obtain ⟨draft, hcollect, h⟩ := bind_eq_ok.1 h
    obtain ⟨latitude, _, h⟩ := bind_eq_ok.1 h
    obtain ⟨longitude, _, h⟩ := bind_eq_ok.1 h
    obtain ⟨hourly, hhourly, h⟩ := bind_eq_ok.1 h
    cases h
    exact fills_hourly.gives hcollect rfl (require_ok.1 hhourly) _
  · obtain ⟨⟨latitude, items₁⟩, hlatitude, h⟩ := bind_eq_ok.1 h
    obtain ⟨⟨longitude, items₂⟩, hlongitude, h⟩ := bind_eq_ok.1 h
    obtain ⟨⟨hourly, items₃⟩, hhourly, h⟩ := bind_eq_ok.1 h
    obtain ⟨_, _, h⟩ := bind_eq_ok.1 h
    cases h
    obtain ⟨item₁, rfl, -⟩ := Items.next_ok hlatitude
    obtain ⟨item₂, rfl, -⟩ := Items.next_ok hlongitude
    obtain ⟨item₃, rfl, hitem⟩ := Items.next_ok hhourly
    refine ⟨⟨item₃, 2, rfl, rfl⟩, ?_⟩
    intro value hex
    obtain ⟨i, hi, hvalue⟩ := hex
    have htwo : i = 2 := by
      rcases i with _ | _ | _ | i
      · exact absurd hi (by decide)
      · exact absurd hi (by decide)
      · rfl
      · cases hi
    subst htwo
    cases hvalue
    exact hitem

theorem map_cell {forecast : Node} {decoded : Forecast} {α : Type} {column : String}
    {read : Node → Except Fault α} {values : List α} (h : Forecast.decode forecast = .ok decoded)
    (hcolumn : ∀ node, Hourly.decode node = .ok decoded.hourly →
      node.Gives hourlyFields column (Node.toList read) values) (row : Nat) :
    (∀ cell, Cell forecast column row cell → ∃ a, values[row]? = some a ∧ read cell = .ok a) ∧
      ∀ a, values[row]? = some a → ∃ cell, Cell forecast column row cell ∧ read cell = .ok a := by
  obtain ⟨⟨hourly, hhourly⟩, hread⟩ := Forecast.decode_gives h
  constructor
  · intro cell hex
    obtain ⟨hourly', items, hhourly', hitems, hget⟩ := hex
    obtain ⟨-, hvalues⟩ := hcolumn hourly' (hread hourly' hhourly')
    obtain ⟨items', heq, hmap⟩ := Node.toList_ok (hvalues _ hitems)
    cases heq
    have hcell := hmap row
    rw [hget, Option.map_some, eq_comm, Option.map_eq_some_iff] at hcell
    obtain ⟨a, ha, hcell⟩ := hcell
    exact ⟨a, ha, hcell.symm⟩
  · intro a ha
    obtain ⟨⟨value, hvalue⟩, hvalues⟩ := hcolumn hourly (hread hourly hhourly)
    obtain ⟨items, rfl, hmap⟩ := Node.toList_ok (hvalues _ hvalue)
    have hcell := hmap row
    rw [ha, Option.map_some, Option.map_eq_some_iff] at hcell
    obtain ⟨cell, hget, hcell⟩ := hcell
    exact ⟨cell, ⟨hourly, items, hhourly, hvalue, hget⟩, hcell⟩

theorem holdsNumber_iff {forecast : Node} {decoded : Forecast}
    (h : Forecast.decode forecast = .ok decoded) {m : Measure} {row : Nat} {x : Binary64} :
    HoldsNumber forecast m.column row x ↔ (decoded.hourly.columns.get m)[row]? = some (some x) := by
  obtain ⟨hcells, hvalues⟩ := map_cell h (fun _ hnode => (Hourly.decode_gives hnode).2 m) row
  constructor
  · intro hex
    obtain ⟨n, hcell, hx⟩ := hex
    obtain ⟨a, ha, hread⟩ := hcells _ hcell
    rcases Node.toBinary64?_ok hread with ⟨hnull, -⟩ | ⟨k, y, hk, rfl, hy⟩
    · cases hnull
    · cases hk
      rw [hx, Except.ok.injEq] at hy
      rw [ha, hy]
  · intro hx
    obtain ⟨cell, hcell, hread⟩ := hvalues _ hx
    rcases Node.toBinary64?_ok hread with ⟨-, hnone⟩ | ⟨n, y, rfl, hsome, hy⟩
    · cases hnone
    · cases hsome
      exact ⟨n, hcell, hy⟩

theorem measures_entry {forecast : Node} {decoded : Forecast}
    (h : Forecast.decode forecast = .ok decoded) {m : Measure} {row : Nat}
    (hrow : row < (decoded.hourly.columns.get m).length) :
    Measures forecast m.column row (Hourly.entry (decoded.hourly.columns.get m) row) := by
  obtain ⟨-, hvalues⟩ := map_cell h (fun _ hnode => (Hourly.decode_gives hnode).2 m) row
  have hget := List.getElem?_eq_getElem hrow
  cases hvalue : (decoded.hourly.columns.get m)[row] with
  | none =>
    rw [hvalue] at hget
    obtain ⟨cell, hcell, hread⟩ := hvalues _ hget
    refine .inl ⟨?_, by rw [Hourly.entry, hget]; rfl⟩
    rcases Node.toBinary64?_ok hread with ⟨rfl, -⟩ | ⟨_, _, _, hsome, _⟩
    · exact hcell
    · cases hsome
  | some x =>
    rw [hvalue] at hget
    refine .inr ?_
    rw [Hourly.entry, hget]
    exact (holdsNumber_iff h).2 hget

/-! ## Rows -/

theorem Hourly.length_eq_of_columnFault?_eq_none {hourly : Hourly}
    (h : hourly.columnFault? = none) (m : Measure) :
    (hourly.columns.get m).length = hourly.times.length := by
  have hm := List.findSome?_eq_none_iff.1 h m (Hourly.form_lawful.mem_order m)
  dsimp only at hm
  by_contra hne
  rw [if_neg hne] at hm
  cases hm

/-- **Columns are turned into rows** without moving a cell. -/
theorem Hourly.rows_ok {hourly : Hourly} {records : List Observation}
    (h : hourly.rows = .ok records) :
    (∀ m, (hourly.columns.get m).length = hourly.times.length) ∧
      records.length = hourly.times.length ∧
      ∀ (row : Nat) o, records[row]? = some o → ∃ text, hourly.times[row]? = some text ∧
        Timestamp.ofForecast? text = some o.timestamp ∧
        ∀ m, o.value m = entry (hourly.columns.get m) row := by
  unfold rows at h
  split at h
  · cases h
  · next hfault =>
    obtain ⟨hlength, hrecords⟩ := List.forall₂_iff_get.1 (mapM_eq_ok.1 h)
    refine ⟨length_eq_of_columnFault?_eq_none hfault, ?_, ?_⟩
    · rw [← hlength, List.length_zipIdx]
    · intro row o ho
      obtain ⟨hlt, ho⟩ := List.getElem?_eq_some_iff.1 ho
      have hrow := hrecords row (by omega) hlt
      rw [List.length_zipIdx] at hlength
      simp only [List.get_eq_getElem, List.getElem_zipIdx, ho, Nat.zero_add] at hrow
      refine ⟨_, List.getElem?_eq_getElem (by omega), ?_⟩
      unfold observation at hrow
      split at hrow
      · cases hrow
      · next t ht =>
        cases hrow
        exact ⟨ht, fun m => Readings.get_ofFn _ m⟩

/-- The node of a JSON text. -/
def jsonNode (text : String) : Node := (Node.ofText (text.toList.map some)).1

theorem Dataset.ofJson_ok {text : String} {dataset : Dataset} (h : ofJson text = .ok dataset) :
    ∃ decoded, Forecast.decode (jsonNode text) = .ok decoded ∧
      decoded.hourly.rows = .ok dataset.records := by
  unfold ofJson ofSymbols at h
  split at h
  · cases h
  · next decoded hdecode =>
    obtain ⟨a, ha, hrest⟩ := bind_eq_ok.1 hdecode
    split at h
    · cases h
    · next loaded hdataset =>
      cases h
      obtain ⟨records, hrows, hrecords⟩ := bind_eq_ok.1 hdataset
      split at hrest
      · cases hrest
        rw [(ofRecords_eq_ok_iff.1 hrecords).2]
        exact ⟨decoded, ha, hrows⟩
      · cases hrest

variable {text : String} {dataset : Dataset}

/-- **Each observation of a loaded dataset is the row at its position.** -/
theorem Dataset.isRow_of_ofJson (h : ofJson text = .ok dataset) {row : Nat} {o : Observation}
    (ho : dataset.records[row]? = some o) : IsRow (jsonNode text) row o := by
  obtain ⟨decoded, hdecode, hrows⟩ := ofJson_ok h
  obtain ⟨hlengths, hlength, hrecords⟩ := Hourly.rows_ok hrows
  obtain ⟨time, htime, htimestamp, hvalues⟩ := hrecords row o ho
  have hmeasures : ∀ m : Measure, Measures (jsonNode text) m.column row (o.value m) := by
    intro m
    rw [hvalues m]
    refine measures_entry hdecode ?_
    rw [hlengths m, ← hlength]
    exact (List.getElem?_eq_some_iff.1 ho).1
  refine ⟨?_, hmeasures .windSpeed, hmeasures .windDirection, hmeasures .temperature,
    hmeasures .precipitation, hmeasures .precipitationProbability, hmeasures .cloudCover⟩
  obtain ⟨-, htimes⟩ := map_cell hdecode (fun _ hnode => (Hourly.decode_gives hnode).1) row
  obtain ⟨cell, hcell, hread⟩ := htimes time htime
  obtain ⟨body, rfl, hbody⟩ := Node.toText_ok hread
  exact ⟨body, time, hcell, hbody, htimestamp⟩

theorem Dataset.lt_length_iff_of_ofJson (h : ofJson text = .ok dataset) {row : Nat} :
    row < dataset.records.length ↔ ∃ cell, Cell (jsonNode text) "time" row cell := by
  obtain ⟨decoded, hdecode, hrows⟩ := ofJson_ok h
  obtain ⟨-, hlength, -⟩ := Hourly.rows_ok hrows
  obtain ⟨hcells, htimes⟩ := map_cell hdecode (fun _ hnode => (Hourly.decode_gives hnode).1) row
  rw [hlength]
  constructor
  · intro hlt
    obtain ⟨cell, hcell, -⟩ := htimes _ (List.getElem?_eq_getElem hlt)
    exact ⟨cell, hcell⟩
  · intro hex
    obtain ⟨cell, hcell⟩ := hex
    obtain ⟨time, htime, -⟩ := hcells cell hcell
    exact (List.getElem?_eq_some_iff.1 htime).1

/-- **A measurement compares** as the number that stands in its column does; where none stands, no
comparison holds. -/
theorem Dataset.holds_iff_of_ofJson (h : ofJson text = .ok dataset) {row : Nat} {o : Observation}
    (ho : dataset.records[row]? = some o) {m : Measure} {c : Comparison} {bound : Binary64} :
    c.holds (o.value m) bound ↔
      ∃ x, HoldsNumber (jsonNode text) m.column row x ∧ c.holds x bound := by
  obtain ⟨decoded, hdecode, hrows⟩ := ofJson_ok h
  obtain ⟨-, -, hrecords⟩ := Hourly.rows_ok hrows
  obtain ⟨-, -, -, hvalues⟩ := hrecords row o ho
  simp only [holdsNumber_iff hdecode, hvalues m, Hourly.entry]
  constructor
  · intro hholds
    match hget : (decoded.hourly.columns.get m)[row]? with
    | some (some x) =>
      rw [hget] at hholds
      exact ⟨x, rfl, hholds⟩
    | some none | none =>
      rw [hget] at hholds
      exact absurd hholds (by simp [Comparison.holds_nan])
  · intro hex
    obtain ⟨x, hget, hholds⟩ := hex
    rw [hget]
    exact hholds

end Fairweather
