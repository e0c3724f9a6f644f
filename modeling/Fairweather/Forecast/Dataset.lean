import Fairweather.Calendar.Writing
import Fairweather.Forecast.Coordinates
import Fairweather.Forecast.Measure

/-!
# Datasets

A dataset is a forecast's observations for one place, one after the other in time and evenly
spaced: each is later than the one before it, and all by the same duration. `Dataset.ofRecords`
goes through neighbouring observations once and stops at the first that breaks this
(`spacingFault?`); a dataset carries the proof that none does.
-/

namespace Fairweather

/-- What was measured at one time. A measurement that is missing is not a number. -/
structure Observation where
  timestamp : Timestamp
  readings : Readings Binary64
deriving DecidableEq

/-- The number that was measured; where the measurement is missing, it is not a number. -/
def Observation.value (o : Observation) (m : Measure) : Binary64 := o.readings.get m

/-- Why observations are no dataset. -/
inductive DatasetFault where
  | columnLength (column : String) (length rows : Nat)
  | unreadableTime (text : String)
  | notAscending (time : Timestamp)
  | irregular (time : Timestamp) (expected found : Int)
deriving DecidableEq

/-- Whole seconds of a duration, without the part of a second. -/
def wholeSeconds (duration : Int) : Int := duration.tdiv 1000000000

def DatasetFault.message : DatasetFault → String
  | columnLength column length rows =>
    "column `" ++ column ++ "` has " ++ toString length ++ " values but `time` has " ++
      toString rows
  | unreadableTime text => "unrecognised timestamp `" ++ text ++ "`"
  | notAscending t => "timestamps not strictly ascending at " ++ t.spacedText
  | irregular t expected found =>
    "irregular spacing at " ++ t.spacedText ++ ": expected " ++ toString (wholeSeconds expected) ++
      "s, found " ++ toString (wholeSeconds found) ++ "s"

/-- The first timestamp that is not later than the one before it, or not by the duration `step`
that the ones before are spaced by. -/
def spacingFault? : Option Int → List Timestamp → Option DatasetFault
  | step, a :: b :: rest =>
    let gap := b.since a
    if gap ≤ 0 then some (.notAscending b)
    else match step with
      | none => spacingFault? (some gap) (b :: rest)
      | some step =>
        if step = gap then spacingFault? (some step) (b :: rest)
        else some (.irregular b step gap)
  | _, [] => none
  | _, [_] => none

/-- Evenly spaced observations at a place. -/
structure Dataset where
  location : Coordinates
  records : List Observation
  spaced : spacingFault? none (records.map Observation.timestamp) = none
deriving DecidableEq

namespace Dataset

/-- Observations at a place, if they are in order and evenly spaced. -/
def ofRecords (location : Coordinates) (records : List Observation) :
    Except DatasetFault Dataset :=
  match h : spacingFault? none (records.map Observation.timestamp) with
  | none => .ok ⟨location, records, h⟩
  | some fault => .error fault

def size (dataset : Dataset) : Nat := dataset.records.length

/-- The duration from one observation to the next, if there are two. -/
def interval? (dataset : Dataset) : Option Int :=
  match dataset.records with
  | a :: b :: _ => some (b.timestamp.since a.timestamp)
  | _ => none

end Dataset

end Fairweather
