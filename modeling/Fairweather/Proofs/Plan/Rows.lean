import Fairweather.Plan.Planner
import Fairweather.Proofs.Forecast.Columns
import Fairweather.Proofs.Json.ReadBack
import Fairweather.Proofs.Plan.CanonicalText
import Fairweather.Proofs.Plan.Selection

/-!
# From a saved forecast to the rows of a plan

A plan whose expressions are all about measurements, evaluated over a forecast that was loaded,
selects rows. Which rows these are is said from the two texts alone (`Admits`): the expression is
taken apart by its grammar, its keyword is looked up in the table of documented columns, and the
number in this column at the row is compared with the bound by value. A row is selected when every
expression admits it (`Planner.evaluate_selects_rows`).

A number of the forecast counts as what it is read as. That is the nearest number when its digits
are few. When they are many, a row can be missed whose number exceeds the bound
(`Planner.evaluate_misses_seventeenDigits`).

Four tables have to agree for this: keywords with measures, measures with columns, columns with the
fields of an observation, and these with measures again.
-/

namespace Fairweather

open Json

/-- The columns that the keywords are documented to be about. -/
def documentedColumns : List (String × String) :=
  [("wind", "wind_speed_10m"), ("wind_dir", "wind_direction_10m"),
    ("temperature_2m", "temperature_2m"), ("precipitation", "precipitation"),
    ("precipitation_prob", "precipitation_probability"), ("cloud", "cloud_cover")]

/-- An expression is about a column, with a comparison and a bound. -/
def IsAbout (expression column : String) (comparison : Comparison) (bound : Binary64) : Prop :=
  ∃ (p : Phrase) (keyword : String), p.text = expression.toList ∧
    p.Means [.keyword keyword, .comparison comparison, .number bound] ∧
    (keyword, column) ∈ documentedColumns

/-- The values of two numbers compare strictly. -/
inductive Exceeds : Comparison → Binary64 → Binary64 → Prop
  | greater {x y : Binary64} : y.value < x.value → Exceeds .greater x y
  | less {x y : Binary64} : x.value < y.value → Exceeds .less x y

/-- **An expression admits a row** when a number is read in its column there, and the number
compares with its bound. -/
def Admits (forecast : Node) (expression : String) (row : Nat) : Prop :=
  ∃ column comparison bound x, IsAbout expression column comparison bound ∧
    HoldsNumber forecast column row x ∧ Exceeds comparison x bound

/-! ## What an expression is about -/

theorem mem_documentedColumns {m : Measure} {column : String} :
    (m.keyword, column) ∈ documentedColumns ↔ column = m.column := by
  have htable : ∀ k : Measure, (k.keyword, k.column) ∈ documentedColumns ∧
      ∀ entry ∈ documentedColumns, entry.1 = k.keyword → entry.2 = k.column := by
    intro k
    cases k <;> decide
  constructor
  · intro h
    exact (htable m).2 _ h rfl
  · intro heq
    subst heq
    exact (htable m).1

theorem isAbout_iff {expression : String} {m : Measure} {c : Comparison} {bound : Binary64}
    (h : Vocabulary.builtin.compile expression = .ok (.threshold m c bound)) {column : String}
    {comparison : Comparison} {y : Binary64} :
    IsAbout expression column comparison y ↔ column = m.column ∧ comparison = c ∧ y = bound := by
  obtain ⟨p, htext, hmeans⟩ := Vocabulary.compile_builtin_ok_iff.1 h
  constructor
  · intro hex
    obtain ⟨q, keyword, htext', hmeans', hcolumn⟩ := hex
    have htokens := Plan.parse_ok_iff.2 ⟨q, htext', hmeans'⟩
    rw [Plan.parse_ok_iff.2 ⟨p, htext, hmeans⟩] at htokens
    cases htokens
    exact ⟨mem_documentedColumns.1 hcolumn, rfl, rfl⟩
  · intro hex
    obtain ⟨rfl, rfl, rfl⟩ := hex
    exact ⟨p, m.keyword, htext, hmeans, mem_documentedColumns.2 rfl⟩

theorem Json.Number.ne_nan_of_toBinary64 {n : Number} {x : Binary64} (h : n.toBinary64 = .ok x) :
    x ≠ .nan := by
  obtain ⟨-, -, hfinite⟩ := toBinary64_eq_ok_iff.1 h
  intro heq
  subst heq
  cases hfinite

theorem exceeds_iff {c : Comparison} (hc : c = .greater ∨ c = .less) {x y : Binary64}
    (hx : x ≠ .nan) (hy : y ≠ .nan) : Exceeds c x y ↔ c.holds x y := by
  rcases hc with rfl | rfl
  · rw [Comparison.holds, Binary64.lt_iff_value_lt hy hx]
    exact ⟨fun h => by cases h; assumption, .greater⟩
  · rw [Comparison.holds, Binary64.lt_iff_value_lt hx hy]
    exact ⟨fun h => by cases h; assumption, .less⟩

/-! ## What is selected -/

section

variable {text : String} {dataset : Dataset}

theorem isMet_iff_admits (hload : Dataset.ofJson text = .ok dataset) {row : Nat} {o : Observation}
    (ho : dataset.records[row]? = some o) {expression : String} {m : Measure} {c : Comparison}
    {bound : Binary64}
    (h : Vocabulary.builtin.compile expression = .ok (.threshold m c bound)) :
    (Condition.threshold m c bound).isMet o ↔ Admits (jsonNode text) expression row := by
  obtain ⟨p, -, hmeans⟩ := Vocabulary.compile_builtin_ok_iff.1 h
  obtain ⟨hc, hbound⟩ := Condition.isExpressible_of_means hmeans
  have hboundNumber : bound ≠ .nan := by
    intro heq
    subst heq
    cases hbound
  rw [Condition.isMet, Dataset.holds_iff_of_ofJson hload ho]
  constructor
  · intro hex
    obtain ⟨x, hx, hholds⟩ := hex
    obtain ⟨n, -, hread⟩ := id hx
    exact ⟨m.column, c, bound, x, (isAbout_iff h).2 ⟨rfl, rfl, rfl⟩, hx,
      (exceeds_iff hc (Number.ne_nan_of_toBinary64 hread) hboundNumber).2 hholds⟩
  · intro hex
    obtain ⟨column, comparison, y, x, habout, hx, hexceeds⟩ := hex
    obtain ⟨rfl, rfl, rfl⟩ := (isAbout_iff h).1 habout
    obtain ⟨n, -, hread⟩ := id hx
    exact ⟨x, hx, (exceeds_iff hc (Number.ne_nan_of_toBinary64 hread) hboundNumber).1 hexceeds⟩

theorem not_holdsNumber_of_null (hload : Dataset.ofJson text = .ok dataset) {m : Measure}
    {row : Nat} (hnull : Cell (jsonNode text) m.column row .null) (x : Binary64) :
    ¬ HoldsNumber (jsonNode text) m.column row x := by
  obtain ⟨decoded, hdecode, -⟩ := Dataset.ofJson_ok hload
  intro hx
  obtain ⟨hcells, -⟩ := map_cell hdecode (fun _ hnode => (Hourly.decode_gives hnode).2 m) row
  obtain ⟨a, ha, hread⟩ := hcells _ hnull
  rw [(holdsNumber_iff hdecode).1 hx] at ha
  cases ha
  cases hread

end

/-- Conditions on observations select, over any dataset, the records that meet all of them. -/
theorem Plan.evaluate_thresholds {vocabulary : Vocabulary} {expressions : List String}
    (h : ∀ e ∈ expressions, ∃ m c bound, vocabulary.compile e = .ok (.threshold m c bound))
    (tolerance : Binary64) (dataset : Dataset) :
    ∃ conditions : List Condition, (∀ condition, condition ∈ conditions ↔
        ∃ e ∈ expressions, vocabulary.compile e = .ok condition) ∧
      evaluate vocabulary tolerance expressions dataset =
        .ok (dataset.records.filter fun o => conditions.all (·.isMet o)) := by
  have hcompile : ∀ e ∈ expressions, ∃ condition, vocabulary.compile e = .ok condition := by
    intro e he
    obtain ⟨m, c, bound, hthreshold⟩ := h e he
    exact ⟨_, hthreshold⟩
  obtain ⟨conditions, hconditions⟩ := exists_mapM_eq_ok hcompile
  have hmem : ∀ condition, condition ∈ conditions ↔
      ∃ e ∈ expressions, vocabulary.compile e = .ok condition :=
    fun _ => mem_of_mapM_eq_ok hconditions
  have hplaces : locationFault? conditions dataset tolerance = none := by
    refine locationFault?_eq_none_iff.2 fun point hpoint => ?_
    obtain ⟨e, he, hlocation⟩ := (hmem _).1 hpoint
    obtain ⟨m, c, bound, hthreshold⟩ := h e he
    rw [hlocation] at hthreshold
    cases hthreshold
  refine ⟨conditions, hmem, bind_eq_ok.2 ⟨conditions, hconditions, ?_⟩⟩
  exact select_eq_ok_iff.2 ⟨hplaces, rfl⟩

/-- **A plan selects the rows that its expressions admit.** For a forecast that loads and
expressions that compile to conditions on measurements, the result is one record for each row that
every expression admits, in ascending order, and the record is that row. A row with `null` in the
column of an expression is not among them. Numbers of few digits are read with correct rounding. -/
theorem Planner.evaluate_selects_rows {text : String} {dataset : Dataset}
    {expressions : List String} (hload : Dataset.ofJson text = .ok dataset)
    (hmeasures : ∀ e ∈ expressions, ∃ m c bound,
      Vocabulary.builtin.compile e = .ok (.threshold m c bound)) :
    ∃ rows records, Planner.default.evaluate expressions dataset = .ok records ∧
      rows.Pairwise (· < ·) ∧
      (∀ row, row ∈ rows ↔ (∃ cell, Cell (jsonNode text) "time" row cell) ∧
        ∀ e ∈ expressions, Admits (jsonNode text) e row) ∧
      List.Forall₂ (IsRow (jsonNode text)) rows records ∧
      (∀ e ∈ expressions, ∀ column comparison bound row,
        IsAbout e column comparison bound → Cell (jsonNode text) column row .null → row ∉ rows) ∧
      ∀ (n : Number) x, n.toBinary64 = .ok x → n.value.coefficient ≤ 2 ^ 53 →
        n.value.exponent.natAbs ≤ 22 → n.value.RoundsTo x := by
  obtain ⟨conditions, hmem, hevaluate⟩ :=
    Plan.evaluate_thresholds hmeasures defaultTolerance dataset
  have hrows : ∀ row, row ∈ (List.range dataset.records.length).filter
        (passesAt (fun o => conditions.all (·.isMet o)) dataset.records) ↔
      (∃ cell, Cell (jsonNode text) "time" row cell) ∧
        ∀ e ∈ expressions, Admits (jsonNode text) e row := by
    intro row
    rw [List.mem_filter, List.mem_range, ← Dataset.lt_length_iff_of_ofJson hload]
    refine and_congr_right fun hlt => ?_
    have ho := List.getElem?_eq_getElem hlt
    rw [passesAt, ho, Option.any_some, List.all_eq_true]
    constructor
    · intro hall e he
      obtain ⟨m, c, bound, hthreshold⟩ := hmeasures e he
      exact (isMet_iff_admits hload ho hthreshold).1 (hall _ ((hmem _).2 ⟨e, he, hthreshold⟩))
    · intro hadmits condition hcondition
      obtain ⟨e, he, hcompile⟩ := (hmem condition).1 hcondition
      obtain ⟨m, c, bound, hthreshold⟩ := hmeasures e he
      rw [hcompile, Except.ok.injEq] at hthreshold
      rw [hthreshold] at hcompile ⊢
      exact (isMet_iff_admits hload ho hcompile).2 (hadmits e he)
  refine ⟨_, _, hevaluate, pairwise_filter_range _ _, hrows,
    forall₂_filter_passesAt fun i o ho => Dataset.isRow_of_ofJson hload ho, ?_, ?_⟩
  · intro e he column comparison bound row habout hnull hrow
    obtain ⟨m, c, y, hthreshold⟩ := hmeasures e he
    obtain ⟨rfl, -, -⟩ := (isAbout_iff hthreshold).1 habout
    obtain ⟨column, comparison, y', x, habout', hx, -⟩ := ((hrows row).1 hrow).2 e he
    obtain ⟨rfl, -, -⟩ := (isAbout_iff hthreshold).1 habout'
    exact not_holdsNumber_of_null hload hnull x hx
  · intro n x hx hcoefficient hexponent
    exact (Number.readsNearest_of_le hcoefficient hexponent).roundsTo hx

/-- A saved forecast of two hours, with no precipitation and no wind told for the second. -/
def twoHours : String :=
  "\x7b\"latitude\": 31.83, \"longitude\": 115.77, \"hourly\": \x7b\"time\": " ++
  "[\"2025-11-03T00:00\", \"2025-11-03T01:00\"], \"temperature_2m\": [12.5, 13.0], " ++
  "\"precipitation_probability\": [0, 5], \"precipitation\": [0.0, null], " ++
  "\"cloud_cover\": [20, 40], \"wind_direction_10m\": [90, 95], " ++
  "\"wind_speed_10m\": [7.2, null]\x7d\x7d"

theorem Planner.evaluate_selects_rows_twoHours :
    ∃ dataset, Dataset.ofJson twoHours = .ok dataset ∧
      ∃ rows records, Planner.default.evaluate ["wind > 5"] dataset = .ok records ∧
        rows.Pairwise (· < ·) ∧
        (∀ row, row ∈ rows ↔ (∃ cell, Cell (jsonNode twoHours) "time" row cell) ∧
          ∀ e ∈ ["wind > 5"], Admits (jsonNode twoHours) e row) ∧
        List.Forall₂ (IsRow (jsonNode twoHours)) rows records ∧
        (∀ e ∈ ["wind > 5"], ∀ column comparison bound row,
          IsAbout e column comparison bound → Cell (jsonNode twoHours) column row .null →
            row ∉ rows) ∧
        ∀ (n : Number) x, n.toBinary64 = .ok x → n.value.coefficient ≤ 2 ^ 53 →
          n.value.exponent.natAbs ≤ 22 → n.value.RoundsTo x := by
  have hcompile : Vocabulary.builtin.compile "wind > 5" =
      .ok (.threshold .windSpeed .greater (Decimal.toBinary64 ⟨false, 5, 0⟩)) := by
    decide +kernel
  have hloads : (Dataset.ofJson twoHours).toBool := by decide +kernel
  cases hload : Dataset.ofJson twoHours with
  | error fault =>
    rw [hload] at hloads
    cases hloads
  | ok dataset =>
    refine ⟨dataset, rfl, evaluate_selects_rows hload fun e he => ?_⟩
    rw [List.mem_singleton] at he
    exact ⟨_, _, _, he ▸ hcompile⟩

/-- The columns of one hour, with a wind hardly above 11.52. -/
def airyColumns : List (String × Document) :=
  [("time", .list [.string "2025-11-03T00:00".toList]), ("temperature_2m", .list [.number .zero]),
    ("precipitation_probability", .list [.number .zero]), ("precipitation", .list [.number .zero]),
    ("cloud_cover", .list [.number .zero]), ("wind_direction_10m", .list [.number .zero]),
    ("wind_speed_10m", .list [.number Decimal.seventeenDigits.toBinary64])]

/-- A saved forecast of this hour. -/
def airyHour : Document :=
  .object [("latitude", .number .zero), ("longitude", .number .zero),
    ("hourly", .object airyColumns)]

/-- **A row is missed** although the number nearest to what stands in its column exceeds the bound:
11.520000000000001 is read as 11.52. -/
theorem Planner.evaluate_misses_seventeenDigits : ∃ dataset n x bound,
    Dataset.ofJson (String.ofList airyHour.compact) = .ok dataset ∧
      IsAbout "wind > 11.52" "wind_speed_10m" .greater bound ∧
      Cell (jsonNode (String.ofList airyHour.compact)) "wind_speed_10m" 0 (.number n) ∧
      n.value.RoundsTo x ∧ Exceeds .greater x bound ∧
      Planner.default.evaluate ["wind > 11.52"] dataset = .ok [] := by
  have hcompile : Vocabulary.builtin.compile "wind > 11.52" =
      .ok (.threshold .windSpeed .greater (Decimal.mk false 1152 (-2)).toBinary64) := by
    decide +kernel
  have hevaluate : (Dataset.ofJson (String.ofList airyHour.compact)).toOption.map
      (Planner.default.evaluate ["wind > 11.52"]) = some (.ok []) := by
    decide +kernel
  have hfinite : Decimal.seventeenDigits.toBinary64.isFinite := by decide +kernel
  obtain ⟨n, -, hrounds, hnode⟩ := Document.exists_numberNode_eq hfinite
  have hwind : ("wind_speed_10m", Document.list [.number Decimal.seventeenDigits.toBinary64]) ∈
      airyColumns := List.mem_of_getElem? (i := 6) rfl
  have hcell : Cell airyHour.node "wind_speed_10m" 0 (.number n) := by
    rw [← hnode]
    exact ⟨_, _, Document.hasField_object (List.mem_of_getElem? (i := 2) rfl) _,
      Document.hasField_object hwind _, rfl⟩
  have htext : jsonNode (String.ofList airyHour.compact) = airyHour.node := by
    rw [jsonNode, String.toList_ofList, Document.ofText_laidOutAs airyHour.laidOutAs_compact]
  rw [← htext] at hcell
  cases hload : Dataset.ofJson (String.ofList airyHour.compact) with
  | error fault =>
    rw [hload] at hevaluate
    cases hevaluate
  | ok dataset =>
    rw [hload] at hevaluate
    exact ⟨dataset, n, _, _, rfl, (isAbout_iff hcompile).2 ⟨rfl, rfl, rfl⟩, hcell, hrounds,
      (exceeds_iff (.inl rfl) (by decide +kernel) (by decide +kernel)).2 (by decide +kernel),
      Option.some.inj hevaluate⟩

end Fairweather
