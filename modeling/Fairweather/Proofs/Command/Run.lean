import Fairweather.Command.Run
import Fairweather.Proofs.Forecast.Grouping
import Fairweather.Proofs.Results
import Fairweather.Proofs.Text.Utf8

/-!
# What a run comes to

A run can fail in many ways at once: its plan file may be missing, its forecast damaged, and its
expressions may mean nothing. This module says which failure is reported, and what the output is if
there is none.

**Sources.** What the plan file gives (`PlanGives`) depends on nothing but this file, and what the
data file gives (`DataGives`) on nothing but that one. Both relations say from the bytes of the file
what is to be had from it, or why nothing is; a run follows them (`readPlan_eq_iff`,
`readDataset_eq_iff`).

**Order.** The plan's fault comes before the data's, and both come before that of any expression
(`run_eq_error_iff`).

**Modes.** Whether windows are asked for plays no part in what is selected. So it plays none in the
faults, and the windows that are written hold the records that would be written without them
(`concatenates_output`).

Main result: `run_error_iff_and_ok_iff_and_modes`.
-/

namespace Fairweather

/-- The items of the list under a name in an object. -/
def Json.Document.itemsOf (name : String) : Json.Document → List Json.Document
  | .object members =>
    match members.lookup name with
    | some (.list items) => items
    | _ => []
  | _ => []

theorem Window.itemsOf_document (w : Window) :
    w.document.itemsOf "records" = w.records.map Observation.document := rfl

namespace Command

/-! ## What the files give -/

/-- What a plan file gives, if there is one: its expressions, or why it cannot be read. -/
inductive PlanGives (files : Files) : Option String → Except PlanFault (List String) → Prop where
  | noFile : PlanGives files none (.ok [])
  | expressions {path : String} {text : List Char} : files path = .ok (Utf8.encode text) →
      PlanGives files (some path) (.ok (Plan.expressions (.ofList text)))
  | unreadable {path : String} {fault : FileFault} : files path = .error fault →
      PlanGives files (some path) (.error (.unreadableFile path fault))
  | notText {path : String} {bytes : List UInt8} : files path = .ok bytes →
      (∀ text, bytes ≠ Utf8.encode text) →
      PlanGives files (some path) (.error (.unreadableFile path .notText))

/-- What a data file gives: its dataset, or why it has none. A folder can be opened but holds no
forecast. -/
inductive DataGives (files : Files) (path : String) : Except PlanFault Dataset → Prop where
  | folder : files path = .error .isDirectory →
      DataGives files path (.error (.undecodable (.file path) (.file .isDirectory)))
  | unreadable {fault : FileFault} : files path = .error fault → fault ≠ .isDirectory →
      DataGives files path (.error (.unreadableFile path fault))
  | undecodable {bytes : List UInt8} {fault : Json.Fault} : files path = .ok bytes →
      Json.decode Forecast.decode (Utf8.symbols bytes) = .error fault →
      DataGives files path (.error (.undecodable (.file path) (.json fault)))
  | invalid {bytes : List UInt8} {forecast : Forecast} {fault : DatasetFault} :
      files path = .ok bytes →
      Json.decode Forecast.decode (Utf8.symbols bytes) = .ok forecast →
      forecast.toDataset = .error fault → DataGives files path (.error (.invalidDataset fault))
  | dataset {bytes : List UInt8} {forecast : Forecast} {dataset : Dataset} :
      files path = .ok bytes →
      Json.decode Forecast.decode (Utf8.symbols bytes) = .ok forecast →
      forecast.toDataset = .ok dataset → DataGives files path (.ok dataset)

variable {files : Files} {path : String} {arguments : Arguments}

theorem readPlan_eq_iff {result : Except PlanFault (List String)} :
    readPlan files path = result ↔ PlanGives files (some path) result := by
  constructor
  · rintro rfl
    unfold readPlan
    split
    case h_1 fault hfault => exact .unreadable hfault
    case h_2 bytes hbytes =>
      split
      case h_1 hnone =>
        refine .notText hbytes fun text htext => ?_
        rw [Utf8.decode?_eq_some_iff.mpr htext] at hnone
        cases hnone
      case h_2 text htext =>
        rw [Utf8.decode?_eq_some_iff] at htext
        exact .expressions (htext ▸ hbytes)
  · intro h
    unfold readPlan
    cases h with
    | expressions hbytes => simp only [hbytes, Utf8.decode?_eq_some_iff.mpr rfl]
    | unreadable hfault => simp only [hfault]
    | @notText _ bytes hbytes hnot =>
      have hnone : Utf8.decode? bytes = none := by
        rw [Option.eq_none_iff_forall_ne_some]
        exact fun text htext => hnot text (Utf8.decode?_eq_some_iff.mp htext)
      simp only [hbytes, hnone]

theorem readDataset_eq_iff {result : Except PlanFault Dataset} :
    readDataset files path = result ↔ DataGives files path result := by
  constructor
  · rintro rfl
    unfold readDataset
    split
    case h_1 hfolder => exact .folder hfolder
    case h_2 fault hne hfault => exact .unreadable hfault hne
    case h_3 bytes hbytes =>
      unfold Dataset.ofBytes Dataset.ofSymbols
      split
      case h_1 fault hfault => exact .undecodable hbytes hfault
      case h_2 forecast hforecast =>
        split
        case h_1 fault hfault => exact .invalid hbytes hforecast hfault
        case h_2 dataset hdataset => exact .dataset hbytes hforecast hdataset
  · intro h
    unfold readDataset
    cases h with
    | folder hfolder => simp only [hfolder]
    | @unreadable fault hfault hne =>
      cases fault with
      | isDirectory => exact absurd rfl hne
      | _ => simp only [hfault]
    | undecodable hbytes hfault => simp only [hbytes, Dataset.ofBytes, Dataset.ofSymbols, hfault]
    | invalid hbytes hforecast hfault =>
      simp only [hbytes, Dataset.ofBytes, Dataset.ofSymbols, hforecast, hfault]
    | dataset hbytes hforecast hdataset =>
      simp only [hbytes, Dataset.ofBytes, Dataset.ofSymbols, hforecast, hdataset]

theorem expressions_eq_ok_iff {all : List String} :
    expressions files arguments = .ok all ↔ ∃ planned,
      PlanGives files arguments.plan (.ok planned) ∧ planned ++ arguments.expressions = all := by
  unfold expressions
  cases arguments.plan with
  | none =>
    constructor
    · intro h
      exact ⟨[], .noFile, Except.ok.inj h⟩
    · rintro ⟨planned, hplan, rfl⟩
      cases hplan
      rfl
  | some path => simp only [map_eq_ok, readPlan_eq_iff]

theorem expressions_eq_error_iff {fault : PlanFault} :
    expressions files arguments = .error fault ↔ PlanGives files arguments.plan (.error fault) := by
  unfold expressions
  cases arguments.plan with
  | none =>
    constructor <;> intro h <;> cases h
  | some path => simp only [map_eq_error, readPlan_eq_iff]

/-! ## The order of a run -/

/-- The planner of a run: the keywords of the language, and the tolerance without its sign. -/
def Arguments.planner (arguments : Arguments) : Planner := ⟨.builtin, arguments.tolerance.abs⟩

/-- The dataset of a run, and what its expressions select: those of the plan file first. -/
def Selects (files : Files) (arguments : Arguments) (dataset : Dataset)
    (records : List Observation) : Prop :=
  ∃ planned, PlanGives files arguments.plan (.ok planned) ∧
    DataGives files arguments.data (.ok dataset) ∧
    arguments.planner.evaluate (planned ++ arguments.expressions) dataset = .ok records

/-- What is written of a selection, if no window ends beyond the calendar. -/
def output (windows : Bool) (dataset : Dataset) (records : List Observation) : Option String :=
  if windows then (windows? dataset.interval? records).map windowsJson
  else some (recordsJson records)

theorem run_eq : run files arguments = (do
    let all ← expressions files arguments
    let dataset ← readDataset files arguments.data
    let records ← arguments.planner.evaluate all dataset
    return output arguments.windows dataset records) := by
  unfold run output
  refine congrArg _ (funext fun all => congrArg _ (funext fun dataset => ?_))
  cases arguments.windows with
  | false => rfl
  | true =>
    simp only [if_true, Planner.windows?]
    change (Except.map _ (arguments.planner.evaluate all dataset) >>= _) = _
    cases arguments.planner.evaluate all dataset <;> rfl

/-- **Which fault a run reports**: the plan's before the data's, and both before that of an
expression. -/
theorem run_eq_error_iff {fault : PlanFault} :
    run files arguments = .error fault ↔
      PlanGives files arguments.plan (.error fault) ∨
      ∃ planned, PlanGives files arguments.plan (.ok planned) ∧
        (DataGives files arguments.data (.error fault) ∨
        ∃ dataset, DataGives files arguments.data (.ok dataset) ∧
          arguments.planner.evaluate (planned ++ arguments.expressions) dataset =
            .error fault) := by
  have hpure : ∀ out : Option String, pure out ≠ Except.error fault := by
    intro out h
    cases h
  rw [run_eq]
  simp only [bind_eq_error, expressions_eq_error_iff, expressions_eq_ok_iff, readDataset_eq_iff,
    hpure, and_false, exists_false, or_false]
  apply or_congr_right
  constructor
  · rintro ⟨all, ⟨planned, hplan, rfl⟩, hrest⟩
    exact ⟨planned, hplan, hrest⟩
  · rintro ⟨planned, hplan, hrest⟩
    exact ⟨_, ⟨planned, hplan, rfl⟩, hrest⟩

/-- **What a run writes** without a fault. -/
theorem run_eq_ok_iff {out : Option String} :
    run files arguments = .ok out ↔ ∃ dataset records,
      Selects files arguments dataset records ∧ output arguments.windows dataset records = out := by
  rw [run_eq]
  simp only [bind_eq_ok, expressions_eq_ok_iff, readDataset_eq_iff]
  constructor
  · rintro ⟨all, ⟨planned, hplan, rfl⟩, dataset, hdata, records, hrecords, hout⟩
    exact ⟨dataset, records, ⟨planned, hplan, hdata, hrecords⟩, Except.ok.inj hout⟩
  · rintro ⟨dataset, records, ⟨planned, hplan, hdata, hrecords⟩, rfl⟩
    exact ⟨_, ⟨planned, hplan, rfl⟩, dataset, hdata, records, hrecords, rfl⟩

/-! ## The two modes -/

/-- No interval of a selected observation ends beyond the calendar. -/
def StaysInCalendar (files : Files) (arguments : Arguments) : Prop :=
  ∀ dataset records, Selects files arguments dataset records →
    ∀ o ∈ records, o.timestamp.shift? (dataset.interval?.getD 0) ≠ none

/-- The lists of records in written windows are, one after the other, a written list of records. -/
def Concatenates (grouped flat : String) : Prop :=
  ∃ windows records : List Json.Document,
    grouped = .ofList (Json.Document.list windows).pretty ∧
    flat = .ofList (Json.Document.list records).pretty ∧
    windows.flatMap (·.itemsOf "records") = records

theorem PlanGives.unique {plan : Option String} {result result' : Except PlanFault (List String)}
    (h : PlanGives files plan result) (h' : PlanGives files plan result') : result = result' := by
  cases plan with
  | none =>
    cases h
    cases h'
    rfl
  | some path => exact (readPlan_eq_iff.mpr h).symm.trans (readPlan_eq_iff.mpr h')

theorem Selects.unique {dataset dataset' : Dataset} {records records' : List Observation}
    (h : Selects files arguments dataset records) (h' : Selects files arguments dataset' records') :
    dataset = dataset' ∧ records = records' := by
  obtain ⟨planned, hplan, hdata, hrecords⟩ := h
  obtain ⟨planned', hplan', hdata', hrecords'⟩ := h'
  obtain rfl := Except.ok.inj (hplan.unique hplan')
  obtain rfl := Except.ok.inj ((readDataset_eq_iff.mpr hdata).symm.trans
    (readDataset_eq_iff.mpr hdata'))
  exact ⟨rfl, Except.ok.inj (hrecords.symm.trans hrecords')⟩

theorem exists_output_true_iff {dataset : Dataset} {records : List Observation} :
    (∃ grouped, output true dataset records = some grouped) ↔
      ∀ o ∈ records, o.timestamp.shift? (dataset.interval?.getD 0) ≠ none := by
  have hnone : output true dataset records = none ↔ windows? dataset.interval? records = none :=
    Option.map_eq_none_iff
  rw [← Option.ne_none_iff_exists', ne_eq, hnone, windows?_eq_none_iff]
  simp

theorem run_windows_eq_ok_iff {windows : Bool} {out : Option String} :
    run files { arguments with windows := windows } = .ok out ↔ ∃ dataset records,
      Selects files arguments dataset records ∧ output windows dataset records = out :=
  run_eq_ok_iff

theorem exists_run_windows_iff :
    (∃ grouped, run files { arguments with windows := true } = .ok (some grouped)) ↔
      (∃ flat, run files { arguments with windows := false } = .ok (some flat)) ∧
        StaysInCalendar files arguments := by
  simp only [run_windows_eq_ok_iff]
  constructor
  · rintro ⟨grouped, dataset, records, hselects, hgrouped⟩
    refine ⟨⟨_, dataset, records, hselects, rfl⟩, ?_⟩
    intro dataset' records' hselects'
    obtain ⟨rfl, rfl⟩ := hselects.unique hselects'
    exact exists_output_true_iff.mp ⟨grouped, hgrouped⟩
  · rintro ⟨⟨flat, dataset, records, hselects, -⟩, hstays⟩
    obtain ⟨grouped, hgrouped⟩ :=
      exists_output_true_iff.mpr (hstays dataset records hselects)
    exact ⟨grouped, dataset, records, hselects, hgrouped⟩

/-- The windows of a selection hold it, also as they are written. -/
theorem concatenates_output {dataset : Dataset} {records : List Observation}
    {grouped flat : String} (hgrouped : output true dataset records = some grouped)
    (hflat : output false dataset records = some flat) : Concatenates grouped flat := by
  obtain ⟨ws, hws, rfl⟩ := Option.map_eq_some_iff.mp hgrouped
  obtain rfl := Option.some.inj hflat
  refine ⟨ws.map Window.document, records.map Observation.document, rfl, rfl, ?_⟩
  rw [← (windows?_eq_some_iff.mp hws).flatten, List.map_flatten, List.map_map, List.flatMap_map]
  simp only [Window.itemsOf_document, List.flatMap_def, Function.comp_def]

/-- **What a run comes to.** It fails with the fault of the plan file; else with that of the data
file; else with that of the expressions, those of the plan file first; and else writes what they
select. Asking for windows makes no difference to the faults. If no interval of a selected
observation ends beyond the calendar, there is an output with windows exactly when there is one
without, and the records of the windows are, one after the other, the records without windows. -/
theorem run_error_iff_and_ok_iff_and_modes (files : Files) (arguments : Arguments) :
    (∀ fault, run files arguments = .error fault ↔
      PlanGives files arguments.plan (.error fault) ∨
      ∃ planned, PlanGives files arguments.plan (.ok planned) ∧
        (DataGives files arguments.data (.error fault) ∨
        ∃ dataset, DataGives files arguments.data (.ok dataset) ∧
          arguments.planner.evaluate (planned ++ arguments.expressions) dataset =
            .error fault)) ∧
    (∀ out, run files arguments = .ok out ↔ ∃ dataset records,
      Selects files arguments dataset records ∧
        output arguments.windows dataset records = out) ∧
    (∀ fault, run files { arguments with windows := true } = .error fault ↔
      run files { arguments with windows := false } = .error fault) ∧
    (StaysInCalendar files arguments →
      ((∃ grouped, run files { arguments with windows := true } = .ok (some grouped)) ↔
        ∃ flat, run files { arguments with windows := false } = .ok (some flat))) ∧
    ∀ grouped flat, run files { arguments with windows := true } = .ok (some grouped) →
      run files { arguments with windows := false } = .ok (some flat) →
      Concatenates grouped flat := by
  refine ⟨fun _ => run_eq_error_iff, fun _ => run_eq_ok_iff, ?_, ?_, ?_⟩
  · intro fault
    rw [run_eq_error_iff, run_eq_error_iff]
    rfl
  · intro hstays
    rw [exists_run_windows_iff, and_iff_left hstays]
  · intro grouped flat hgrouped hflat
    rw [run_windows_eq_ok_iff] at hgrouped hflat
    obtain ⟨dataset, records, hselects, hgrouped⟩ := hgrouped
    obtain ⟨dataset', records', hselects', hflat⟩ := hflat
    obtain ⟨rfl, rfl⟩ := hselects.unique hselects'
    exact concatenates_output hgrouped hflat

/-- A forecast of three hours, the second of which is windy, and a plan of two expressions. -/
def windyNoon : Files := fun path =>
  if path = "forecast.json" then .ok (Utf8.encode (List.flatMap String.toList
    ["\x7b\"latitude\": 31.83, \"longitude\": 115.77, \"hourly\": \x7b\"time\": ",
      "[\"2025-11-25T11:00\", \"2025-11-25T12:00\", \"2025-11-25T13:00\"], ",
      "\"temperature_2m\": [4, 9, 12], \"precipitation_probability\": [0, 0, 0], ",
      "\"precipitation\": [0, 0, 0], \"cloud_cover\": [10, 80, 20], ",
      "\"wind_direction_10m\": [90, 90, 90], \"wind_speed_10m\": [5, 36, 7]\x7d\x7d"]))
  else if path = "calm.plan" then .ok (Utf8.encode (List.flatMap String.toList
    ["# calm\n", "wind < 20\n", "\n", "location = 31.83, 115.77\n"]))
  else .error .missing

/-- A run with the plan and one more expression. -/
def calmRun : Arguments where
  data := "forecast.json"
  expressions := ["cloud < 50"]
  plan := some "calm.plan"
  tolerance := defaultTolerance
  windows := true
  verbose := false

theorem run_error_iff_and_ok_iff_and_modes_windyNoon :
    StaysInCalendar windyNoon calmRun ∧ ∃ grouped flat,
      run windyNoon { calmRun with windows := true } = .ok (some grouped) ∧
      run windyNoon { calmRun with windows := false } = .ok (some flat) ∧
      Concatenates grouped flat := by
  have hrun : ((run windyNoon { calmRun with windows := true }).toOption.bind id).isSome := by
    decide +kernel
  obtain ⟨grouped, hsome⟩ := Option.isSome_iff_exists.mp hrun
  obtain ⟨out, hout, rfl⟩ := Option.bind_eq_some_iff.mp hsome
  have hgrouped := toOption_eq_some_iff.mp hout
  have hstays := (exists_run_windows_iff.mp ⟨_, hgrouped⟩).2
  obtain ⟨-, -, -, hmodes, hconcatenates⟩ := run_error_iff_and_ok_iff_and_modes windyNoon calmRun
  obtain ⟨flat, hflat⟩ := (hmodes hstays).mp ⟨_, hgrouped⟩
  exact ⟨hstays, grouped, flat, hgrouped, hflat, hconcatenates _ _ hgrouped hflat⟩

end Command

end Fairweather
