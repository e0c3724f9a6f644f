import Fairweather.Forecast.Measure
import Fairweather.Json.Decoding

/-!
# Sheets

A sheet is a structure of a JSON text that has one field of its own and one field for each
measure: the columns of a forecast with their times, or a record with its timestamp. A form says
how the fields are called, in which order they are declared and how they are read.

Fields that the form does not know are skipped. Of the fields that are missing, the first in the
declared order is reported.
-/

namespace Fairweather

/-- How a sheet is laid out. -/
structure SheetForm (τ α : Type) where
  type : String
  headName : String
  readHead : Json.Node → Except Json.Fault τ
  order : List Measure
  name : Measure → String
  read : Json.Node → Except Json.Fault α

/-- The fields of a sheet that have been read so far. -/
structure SheetDraft (τ α : Type) where
  head : Option τ
  readings : Readings (Option α)

namespace SheetDraft

variable {τ α : Type}

/-- No field has been read. -/
def empty : SheetDraft τ α := ⟨none, Readings.ofFn fun _ => none⟩

/-- The measure whose field has a name. -/
def measure? (form : SheetForm τ α) (name : String) : Option Measure :=
  form.order.find? (form.name · = name)

/-- One more member of an object. -/
def take (form : SheetForm τ α) (draft : SheetDraft τ α) (name : String) (value : Json.Node) :
    Except Json.Fault (SheetDraft τ α) :=
  if name = form.headName then
    (Json.fill name draft.head form.readHead value).map fun head => { draft with head := head }
  else match measure? form name with
    | some m =>
      (Json.fill name (draft.readings.get m) form.read value).map fun slot =>
        { draft with readings := draft.readings.set m slot }
    | none => value.skip.map fun _ => draft

/-- The fields for all measures, or the first in the declared order that is missing. -/
def complete (form : SheetForm τ α) (draft : SheetDraft τ α) :
    Except Json.Fault (τ × Readings α) := do
  let get (m : Measure) := Json.require (form.name m) (draft.readings.get m)
  let head ← Json.require form.headName draft.head
  form.order.forM fun m => (get m).map fun _ => ()
  let readings : Readings α :=
    ⟨← get .windSpeed, ← get .windDirection, ← get .temperature, ← get .precipitation,
      ← get .precipitationProbability, ← get .cloudCover⟩
  return (head, readings)

/-- The fields for the measures of a list, in its order, from the items that follow `length`
others. -/
def takeItems (form : SheetForm τ α) : Nat → List Measure → Readings (Option α) → Json.Items →
    Except Json.Fault (Readings (Option α) × Json.Items)
  | _, [], readings, items => .ok (readings, items)
  | length, m :: rest, readings, items => do
    let (a, items) ← items.next form.type (form.order.length + 1) length form.read
    takeItems form (length + 1) rest (readings.set m (some a)) items

end SheetDraft

namespace SheetForm

variable {τ α : Type}

/-- A sheet of this form. -/
def decode (form : SheetForm τ α) : Json.Node → Except Json.Fault (τ × Readings α) :=
  Json.Node.toStructure form.type
    (fun members => do
      let draft ← members.collect (SheetDraft.take form) SheetDraft.empty
      draft.complete form)
    (fun items => do
      let (head, items) ← items.next form.type (form.order.length + 1) 0 form.readHead
      let (readings, items) ←
        SheetDraft.takeItems form 1 form.order (Readings.ofFn fun _ => none) items
      items.finish
      SheetDraft.complete form ⟨some head, readings⟩)

end SheetForm

end Fairweather
