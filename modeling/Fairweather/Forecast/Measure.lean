/-!
# Measures

The six measurements that a forecast gives for every hour. A measure has three spellings: the
keyword that expressions use, the name of its column in a saved forecast, and the name of its
field in a serialised record. `Readings` holds one thing per measure, be it a number, a column of
numbers or a column still to be read, so that each spelling is tied to its measure in one table
and nowhere else.
-/

namespace Fairweather

/-- What a forecast tells of an hour. -/
inductive Measure where
  | windSpeed
  | windDirection
  | temperature
  | precipitation
  | precipitationProbability
  | cloudCover
deriving DecidableEq

namespace Measure

/-- All measures, each once. -/
def all : List Measure :=
  [windSpeed, windDirection, temperature, precipitation, precipitationProbability, cloudCover]

/-- The keyword that names the measure in expressions. -/
def keyword : Measure → String
  | windSpeed => "wind"
  | windDirection => "wind_dir"
  | temperature => "temperature_2m"
  | precipitation => "precipitation"
  | precipitationProbability => "precipitation_prob"
  | cloudCover => "cloud"

/-- The measure that a keyword names, in lower case. -/
def ofKeyword? (word : String) : Option Measure := all.find? (·.keyword = word)

/-- The column of the measure in a saved forecast. -/
def column : Measure → String
  | windSpeed => "wind_speed_10m"
  | windDirection => "wind_direction_10m"
  | temperature => "temperature_2m"
  | precipitation => "precipitation"
  | precipitationProbability => "precipitation_probability"
  | cloudCover => "cloud_cover"

/-- The order in which the columns of a forecast are listed. -/
def columnOrder : List Measure :=
  [temperature, precipitationProbability, precipitation, cloudCover, windDirection, windSpeed]

/-- The field of the measure in a serialised record. -/
def field : Measure → String
  | windSpeed => "wind_speed"
  | windDirection => "wind_direction_deg"
  | temperature => "temperature_c"
  | precipitation => "precipitation_mm"
  | precipitationProbability => "precipitation_probability_pct"
  | cloudCover => "cloud_cover_pct"

/-- The order in which the fields of a record are listed. -/
def fieldOrder : List Measure :=
  [temperature, precipitation, precipitationProbability, cloudCover, windDirection, windSpeed]

end Measure

/-- One thing for each measure. -/
structure Readings (α : Type) where
  windSpeed : α
  windDirection : α
  temperature : α
  precipitation : α
  precipitationProbability : α
  cloudCover : α
deriving DecidableEq

namespace Readings

variable {α β : Type}

/-- What is held for a measure. -/
def get (readings : Readings α) : Measure → α
  | .windSpeed => readings.windSpeed
  | .windDirection => readings.windDirection
  | .temperature => readings.temperature
  | .precipitation => readings.precipitation
  | .precipitationProbability => readings.precipitationProbability
  | .cloudCover => readings.cloudCover

/-- What a function gives for each measure. -/
def ofFn (f : Measure → α) : Readings α where
  windSpeed := f .windSpeed
  windDirection := f .windDirection
  temperature := f .temperature
  precipitation := f .precipitation
  precipitationProbability := f .precipitationProbability
  cloudCover := f .cloudCover

@[simp] theorem get_ofFn (f : Measure → α) (m : Measure) : (ofFn f).get m = f m := by
  cases m <;> rfl

@[ext] theorem ext_get {r s : Readings α} (h : ∀ m, r.get m = s.get m) : r = s := by
  cases r; cases s
  simp only [mk.injEq]
  exact ⟨h .windSpeed, h .windDirection, h .temperature, h .precipitation,
    h .precipitationProbability, h .cloudCover⟩

/-- The same readings but for one measure. -/
def set (readings : Readings α) (m : Measure) (a : α) : Readings α :=
  ofFn fun k => if k = m then a else readings.get k

@[simp] theorem get_set (readings : Readings α) (m k : Measure) (a : α) :
    (readings.set m a).get k = if k = m then a else readings.get k := by
  simp [set]

end Readings

end Fairweather
