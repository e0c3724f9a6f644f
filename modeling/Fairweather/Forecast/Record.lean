import Fairweather.Forecast.Sheet
import Fairweather.Forecast.Window
import Fairweather.Json.Writing

/-!
# Serialised records

Observations, windows and coordinates as JSON. An observation is written with its timestamp and a
field for each measure; what is not a number or infinite is written as `null`, and does not read
back.
-/

namespace Fairweather

namespace Observation

/-- An observation has its timestamp first and then a number for each measure. -/
def form : SheetForm Timestamp Binary64 where
  type := "struct WeatherRecord"
  headName := "timestamp"
  readHead := Json.Node.toTimestamp
  order := Measure.fieldOrder
  name := Measure.field
  read := Json.Node.toBinary64

/-- The observation that stands in a JSON text. -/
def decode (node : Json.Node) : Except Json.Fault Observation :=
  (form.decode node).map fun (timestamp, readings) => ⟨timestamp, readings⟩

/-- The observation as JSON: its timestamp, then its measures in the declared order. -/
def document (o : Observation) : Json.Document :=
  .object (("timestamp", .string (o.timestamp.chars 'T')) ::
    Measure.fieldOrder.map fun m => (m.field, .number (o.value m)))

/-- The observation that a JSON text holds. -/
def ofJson (text : String) : Except Json.Fault Observation :=
  Json.decode decode (text.toList.map some)

/-- The observation as a JSON text on one line. -/
def toJson (o : Observation) : String := String.ofList o.document.compact

end Observation

namespace Coordinates

/-- One more member of an object. -/
def take (draft : Option Binary64 × Option Binary64) (name : String) (value : Json.Node) :
    Except Json.Fault (Option Binary64 × Option Binary64) :=
  if name = "lat" then
    (Json.fill name draft.1 Json.Node.toBinary64 value).map ((·, draft.2))
  else if name = "lon" then
    (Json.fill name draft.2 Json.Node.toBinary64 value).map ((draft.1, ·))
  else value.skip.map fun _ => draft

/-- The point that stands in a JSON text. -/
def decode : Json.Node → Except Json.Fault Coordinates :=
  let type := "struct Coordinates"
  Json.Node.toStructure type
    (fun members => do
      let draft ← members.collect take (none, none)
      let latitude ← Json.require "lat" draft.1
      let longitude ← Json.require "lon" draft.2
      return ⟨latitude, longitude⟩)
    (fun items => do
      let (latitude, items) ← items.next type 2 0 Json.Node.toBinary64
      let (longitude, items) ← items.next type 2 1 Json.Node.toBinary64
      items.finish
      return ⟨latitude, longitude⟩)

/-- The point as JSON. -/
def document (point : Coordinates) : Json.Document :=
  .object [("lat", .number point.latitude), ("lon", .number point.longitude)]

/-- The coordinates that a JSON text holds. -/
def ofJson (text : String) : Except Json.Fault Coordinates :=
  Json.decode decode (text.toList.map some)

/-- The coordinates as a JSON text on one line. -/
def toJson (point : Coordinates) : String := String.ofList point.document.compact

end Coordinates

/-- The window as JSON: its bounds and its observations. -/
def Window.document (w : Window) : Json.Document :=
  .object [("start", .string (w.start.chars 'T')), ("end", .string (w.stop.chars 'T')),
    ("records", .list (w.records.map Observation.document))]

/-- Observations as a JSON text over several lines. -/
def recordsJson (records : List Observation) : String :=
  String.ofList (Json.Document.list (records.map Observation.document)).pretty

/-- Windows as a JSON text over several lines. -/
def windowsJson (windows : List Window) : String :=
  String.ofList (Json.Document.list (windows.map Window.document)).pretty

end Fairweather
