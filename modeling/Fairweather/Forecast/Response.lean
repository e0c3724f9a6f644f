import Fairweather.Forecast.Dataset
import Fairweather.Forecast.Sheet

/-!
# Saved forecasts

A saved forecast names a place and gives hourly columns: the times, and for each measure one number
per time, or nothing where the measurement is missing. `Forecast.toDataset` turns columns into
rows. It reports the first column whose length is not that of the times, then the first time that
cannot be read, then the first time that is out of step.
-/

namespace Fairweather

/-- The columns of a forecast. -/
structure Hourly where
  times : List String
  columns : Readings (List (Option Binary64))
deriving DecidableEq

/-- A place and the columns for it. -/
structure Forecast where
  latitude : Binary64
  longitude : Binary64
  hourly : Hourly
deriving DecidableEq

namespace Hourly

/-- The columns are the times and, for each measure, a list with `null` for what is missing. -/
def form : SheetForm (List String) (List (Option Binary64)) where
  type := "struct HourlyColumns"
  headName := "time"
  readHead := Json.Node.toList Json.Node.toText
  order := Measure.columnOrder
  name := Measure.column
  read := Json.Node.toList Json.Node.toBinary64?

/-- The columns that stand in a JSON text. -/
def decode (node : Json.Node) : Except Json.Fault Hourly :=
  (form.decode node).map fun (times, columns) => ⟨times, columns⟩

/-- The number of a column in a row; where there is none, it is not a number. -/
def entry (column : List (Option Binary64)) (row : Nat) : Binary64 :=
  (column[row]?.getD none).getD .nan

/-- The observation of a row. -/
def observation (hourly : Hourly) (time : String) (row : Nat) :
    Except DatasetFault Observation :=
  match Timestamp.ofForecast? time with
  | none => .error (.unreadableTime time)
  | some t => .ok ⟨t, Readings.ofFn fun m => entry (hourly.columns.get m) row⟩

/-- The first column that is longer or shorter than the times. -/
def columnFault? (hourly : Hourly) : Option DatasetFault :=
  Measure.columnOrder.findSome? fun m =>
    let length := (hourly.columns.get m).length
    if length = hourly.times.length then none
    else some (.columnLength m.column length hourly.times.length)

/-- The rows of the columns, from the first time to the last. -/
def rows (hourly : Hourly) : Except DatasetFault (List Observation) :=
  match hourly.columnFault? with
  | some fault => .error fault
  | none => hourly.times.zipIdx.mapM fun (time, row) => hourly.observation time row

end Hourly

namespace Forecast

/-- The fields that have been read so far. -/
structure Draft where
  latitude : Option Binary64
  longitude : Option Binary64
  hourly : Option Hourly

/-- One more member of an object. -/
def Draft.take (draft : Draft) (name : String) (value : Json.Node) :
    Except Json.Fault Draft :=
  if name = "latitude" then
    (Json.fill name draft.latitude Json.Node.toBinary64 value).map ({ draft with latitude := · })
  else if name = "longitude" then
    (Json.fill name draft.longitude Json.Node.toBinary64 value).map ({ draft with longitude := · })
  else if name = "hourly" then
    (Json.fill name draft.hourly Hourly.decode value).map ({ draft with hourly := · })
  else value.skip.map fun _ => draft

/-- A saved forecast. -/
def decode : Json.Node → Except Json.Fault Forecast :=
  let type := "struct ForecastResponse"
  Json.Node.toStructure type
    (fun members => do
      let draft ← members.collect Draft.take ⟨none, none, none⟩
      let latitude ← Json.require "latitude" draft.latitude
      let longitude ← Json.require "longitude" draft.longitude
      let hourly ← Json.require "hourly" draft.hourly
      return ⟨latitude, longitude, hourly⟩)
    (fun items => do
      let (latitude, items) ← items.next type 3 0 Json.Node.toBinary64
      let (longitude, items) ← items.next type 3 1 Json.Node.toBinary64
      let (hourly, items) ← items.next type 3 2 Hourly.decode
      items.finish
      return ⟨latitude, longitude, hourly⟩)

/-- The dataset of a forecast: one observation per time. -/
def toDataset (forecast : Forecast) : Except DatasetFault Dataset := do
  let records ← forecast.hourly.rows
  Dataset.ofRecords ⟨forecast.latitude, forecast.longitude⟩ records

end Forecast

end Fairweather
