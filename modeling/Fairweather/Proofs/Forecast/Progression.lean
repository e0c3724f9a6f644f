import Mathlib.Tactic.Ring
import Fairweather.Proofs.Forecast.Spacing

/-!
# Datasets are arithmetic progressions

The check of a dataset compares neighbours and remembers the first gap. Away from leap seconds this
local check is a global law.

**Progressions.** Timestamps are in arithmetic progression (`IsProgression`) when each is reached
from the first by as many steps as it has timestamps before it. A progression fixes the difference
of any two of its timestamps (`IsProgression.since_eq`), hence that of neighbours
(`IsProgression.isChain`); conversely neighbours that are one interval apart add up to a progression
(`Dataset.isProgression`).

**Missteps.** A timestamp is out of step when the gap that leads to it is not positive or is another
than the first gap (`IsMisstep`). What `FirstMisstep` says by splitting the list is that no earlier
gap is a misstep (`firstMisstep_iff`).

Main result: `Dataset.ofRecords_progression`.
-/

namespace Fairweather

/-! ## Progressions -/

/-- **Timestamps in arithmetic progression**: each is as many steps after the first as there are
timestamps before it. -/
def IsProgression (step : Int) (times : List Timestamp) : Prop :=
  0 < step ∧ ∀ (i : Nat) (first t : Timestamp), times[0]? = some first → times[i]? = some t →
    first.shift? (i * step) = some t

section

variable {step : Int} {times : List Timestamp}

theorem isProgression_of_length_le_one (hstep : 0 < step) (h : times.length ≤ 1) :
    IsProgression step times := by
  refine ⟨hstep, fun i first t hfirst ht => ?_⟩
  obtain ⟨hi, -⟩ := List.getElem?_eq_some_iff.1 ht
  obtain rfl : i = 0 := by omega
  rw [hfirst, Option.some.injEq] at ht
  simp [ht]

variable (hplain : ∀ t ∈ times, t.isLeap = false)

include hplain

/-- **Any two timestamps of a progression** are as many steps apart as their positions. -/
theorem IsProgression.since_eq (h : IsProgression step times) {i j : Nat} {a b : Timestamp}
    (ha : times[i]? = some a) (hb : times[j]? = some b) : b.since a = ((j : Int) - i) * step := by
  have hpos : 0 < times.length := by
    obtain ⟨hi, -⟩ := List.getElem?_eq_some_iff.1 ha
    omega
  have hfirst : times[0]? = some times[0] := List.getElem?_eq_getElem hpos
  have hleap : times[0].isLeap = false := hplain _ (List.getElem_mem hpos)
  obtain ⟨haleap, hainstant⟩ := (Timestamp.shift?_eq_some_iff hleap).1 (h.2 i _ a hfirst ha)
  obtain ⟨hbleap, hbinstant⟩ := (Timestamp.shift?_eq_some_iff hleap).1 (h.2 j _ b hfirst hb)
  rw [Timestamp.since_eq haleap hbleap, hainstant, hbinstant]
  ring

theorem IsProgression.isChain (h : IsProgression step times) :
    times.IsChain (SpacedBy step) := by
  rw [List.isChain_iff_getElem]
  intro i hi
  have ha : times[i]? = some times[i] := List.getElem?_eq_getElem _
  have hstep : times[i + 1].since times[i] = step := by
    rw [h.since_eq hplain ha (List.getElem?_eq_getElem hi)]
    push_cast
    ring
  exact ⟨hstep ▸ h.1, hstep⟩

end

/-! ## Missteps -/

/-- The duration from a timestamp to the next. -/
def gap? (times : List Timestamp) (i : Nat) : Option Int := do
  let a ← times[i]?
  let b ← times[i + 1]?
  return b.since a

/-- The timestamp behind timestamp `i` is **out of step**: the gap that leads to it is not positive
or is another than the first gap. -/
def IsMisstep (times : List Timestamp) (i : Nat) : Prop :=
  ∃ gap, gap? times i = some gap ∧ (gap ≤ 0 ∨ gap? times 0 ≠ some gap)

/-- What is said of the gap behind timestamp `i`: that its end is not later, whatever the first gap
is, or else that it is another gap than the first. -/
inductive MisstepFault (times : List Timestamp) (i : Nat) : DatasetFault → Prop
  | notAscending {b : Timestamp} {gap : Int} : gap? times i = some gap → times[i + 1]? = some b →
      gap ≤ 0 → MisstepFault times i (.notAscending b)
  | irregular {b : Timestamp} {first gap : Int} : gap? times i = some gap →
      times[i + 1]? = some b → 0 < gap → gap? times 0 = some first → gap ≠ first →
      MisstepFault times i (.irregular b first gap)

section

variable {times before after : List Timestamp} {a b : Timestamp} {i : Nat} {step : Int}
  {fault : DatasetFault}

theorem gap?_eq_some_iff {gap : Int} : gap? times i = some gap ↔
    ∃ a b, times[i]? = some a ∧ times[i + 1]? = some b ∧ b.since a = gap := by
  simp [gap?, Option.bind_eq_some_iff]

theorem gap?_append (h : (before ++ [a]).IsChain (SpacedBy step)) (hi : i < before.length)
    (after : List Timestamp) : 0 < step ∧ gap? (before ++ a :: after) i = some step := by
  have hsplit : before ++ a :: after = (before ++ [a]) ++ after := by simp
  have hlt : i + 1 < (before ++ [a]).length := by simpa using hi
  obtain ⟨hpos, hsince⟩ := List.isChain_iff_getElem.1 h i hlt
  refine ⟨hsince ▸ hpos, gap?_eq_some_iff.2 ⟨_, _, ?_, ?_, hsince⟩⟩
  · rw [hsplit, List.getElem?_append_left (by omega), List.getElem?_eq_getElem]
  · rw [hsplit, List.getElem?_append_left hlt, List.getElem?_eq_getElem]

theorem gap?_length : gap? (before ++ a :: b :: after) before.length = some (b.since a) :=
  gap?_eq_some_iff.2 ⟨a, b, by simp, by simp, rfl⟩

theorem not_isMisstep_append (h : (before ++ [a]).IsChain (SpacedBy step))
    (hi : i < before.length) : ¬ IsMisstep (before ++ a :: after) i := by
  intro hmisstep
  obtain ⟨gap, hgap, hor⟩ := hmisstep
  obtain ⟨hpos, hstep⟩ := gap?_append h hi after
  obtain ⟨-, hfirst⟩ := gap?_append h (show 0 < before.length by omega) after
  rw [hstep, Option.some.injEq] at hgap
  subst hgap
  rcases hor with hle | hne
  · omega
  · exact hne hfirst

/-- **Timestamps before the first misstep** are evenly spaced, by the first gap if there is one. -/
theorem isChain_take (step : Int) (hfirst : ∀ k < i, ¬ IsMisstep times k)
    (hstep : ∀ first, gap? times 0 = some first → first = step) :
    (times.take (i + 1)).IsChain (SpacedBy step) := by
  rw [List.isChain_iff_getElem]
  intro k hk
  rw [List.length_take] at hk
  rw [List.getElem_take, List.getElem_take]
  have hgap : gap? times k = some (times[k + 1].since times[k]) :=
    gap?_eq_some_iff.2 ⟨_, _, List.getElem?_eq_getElem _, List.getElem?_eq_getElem _, rfl⟩
  have hnot := hfirst k (by omega)
  unfold IsMisstep at hnot
  push Not at hnot
  obtain ⟨hpos, hsame⟩ := hnot _ hgap
  exact ⟨hpos, hstep _ hsame⟩

/-- A list of timestamps comes apart at the first misstep. -/
theorem exists_split {gap : Int} (step : Int) (hgap : gap? times i = some gap)
    (hb : times[i + 1]? = some b) (hfirst : ∀ k < i, ¬ IsMisstep times k)
    (hstep : ∀ first, gap? times 0 = some first → first = step) :
    ∃ a, b.since a = gap ∧ times = times.take i ++ a :: b :: times.drop (i + 2) ∧
      (times.take i ++ [a]).IsChain (SpacedBy step) := by
  obtain ⟨a, b', ha, hb', hsince⟩ := gap?_eq_some_iff.1 hgap
  obtain rfl : b' = b := Option.some.inj (hb'.symm.trans hb)
  obtain ⟨hi, rfl⟩ := List.getElem?_eq_some_iff.1 ha
  obtain ⟨hi', rfl⟩ := List.getElem?_eq_some_iff.1 hb
  refine ⟨times[i], hsince, ?_, ?_⟩
  · rw [← List.drop_eq_getElem_cons, ← List.drop_eq_getElem_cons, List.take_append_drop]
  · rw [← List.take_succ_eq_append_getElem hi]
    exact isChain_take step hfirst hstep

/-- **The first time out of step** is the end of the first gap that is a misstep. -/
theorem firstMisstep_iff : FirstMisstep times fault ↔
    ∃ i, (∀ k < i, ¬ IsMisstep times k) ∧ MisstepFault times i fault := by
  constructor
  · intro h
    cases h with
    | @notAscending before after a b step hchain hgap =>
      refine ⟨before.length, fun k => not_isMisstep_append hchain, ?_⟩
      exact .notAscending gap?_length (by simp) hgap
    | @irregular before after a b step hne hchain hpos hstep =>
      refine ⟨before.length, fun k => not_isMisstep_append hchain, ?_⟩
      obtain ⟨-, hfirst⟩ := gap?_append hchain (List.length_pos_of_ne_nil hne) (b :: after)
      exact .irregular gap?_length (by simp) hpos hfirst hstep
  · intro h
    obtain ⟨i, hbefore, hfault⟩ := h
    cases hfault with
    | @notAscending b gap hgap hb hle =>
      obtain ⟨a, rfl, hsplit, hchain⟩ :=
        exists_split ((gap? times 0).getD 0) hgap hb hbefore (by simp +contextual)
      rw [hsplit]
      exact .notAscending hchain hle
    | @irregular b first gap hgap hb hpos hfirst hne =>
      obtain ⟨a, rfl, hsplit, hchain⟩ :=
        exists_split first hgap hb hbefore (by simp +contextual [hfirst])
      have hi : times.take i ≠ [] := by
        intro hnil
        rcases List.take_eq_nil_iff.1 hnil with rfl | rfl
        · exact hne (Option.some.inj (hgap.symm.trans hfirst))
        · simp at hb
      rw [hsplit]
      exact .irregular hi hchain hpos hne

end

namespace Dataset

variable {step : Int}

/-- **The observations of a dataset are in arithmetic progression**, when none is within a leap
second. -/
theorem isProgression {dataset : Dataset} (h : dataset.interval? = some step)
    (hplain : ∀ o ∈ dataset.records, o.timestamp.isLeap = false) :
    IsProgression step (dataset.records.map Observation.timestamp) := by
  refine ⟨interval?_pos h, fun i first t hfirst ht => ?_⟩
  rw [List.getElem?_map, Option.map_eq_some_iff] at hfirst ht
  obtain ⟨o, ho, rfl⟩ := hfirst
  obtain ⟨p, hp, rfl⟩ := ht
  rw [Timestamp.shift?_eq_some_iff (hplain o (List.mem_of_getElem? ho))]
  refine ⟨hplain p (List.mem_of_getElem? hp), instant_getElem? h hplain ho ?_⟩
  rwa [Nat.zero_add]

theorem interval?_eq_gap? (dataset : Dataset) :
    dataset.interval? = gap? (dataset.records.map Observation.timestamp) 0 := by
  unfold interval? gap?
  match dataset.records with
  | [] => rfl
  | [_] => rfl
  | _ :: _ :: _ => rfl

theorem interval?_of_isProgression {dataset : Dataset}
    (hplain : ∀ o ∈ dataset.records, o.timestamp.isLeap = false)
    (hprogression : IsProgression step (dataset.records.map Observation.timestamp))
    (hsize : 2 ≤ dataset.size) : dataset.interval? = some step := by
  obtain ⟨gap, hgap⟩ := exists_interval?_iff.2 hsize
  obtain ⟨a, b, ha, hb, hsince⟩ := gap?_eq_some_iff.1 (dataset.interval?_eq_gap? ▸ hgap)
  rw [hgap, ← hsince, hprogression.since_eq (by simpa using hplain) ha hb]
  simp

/-- **What is accepted** is what is in arithmetic progression. -/
theorem exists_ofRecords_iff {location : Coordinates} {records : List Observation}
    (hplain : ∀ o ∈ records, o.timestamp.isLeap = false) :
    (∃ dataset, ofRecords location records = .ok dataset) ↔
      ∃ step, IsProgression step (records.map Observation.timestamp) := by
  constructor
  · intro h
    obtain ⟨dataset, hdataset⟩ := h
    obtain ⟨-, rfl⟩ := ofRecords_eq_ok_iff.1 hdataset
    cases hstep : dataset.interval? with
    | some step => exact ⟨step, isProgression hstep hplain⟩
    | none =>
      have hsize : ¬ 2 ≤ dataset.size := by simp [← exists_interval?_iff, hstep]
      refine ⟨1, isProgression_of_length_le_one one_pos ?_⟩
      rw [List.length_map]
      exact Nat.lt_succ_iff.1 (not_le.1 hsize)
  · intro h
    obtain ⟨step, hprogression⟩ := h
    have hspaced := spacingFault?_none_eq_none_iff.2
      ⟨step, hprogression.isChain (by simpa using hplain)⟩
    exact ⟨⟨location, records, hspaced⟩, ofRecords_eq_ok_iff.2 ⟨rfl, rfl⟩⟩

/-- **Observations make a dataset just when they are in arithmetic progression**, as long as none is
within a leap second. The dataset keeps the place and the observations; its interval is the step of
the progression, and tells how far any two observations are apart. Otherwise the fault is that of
the first misstep. -/
theorem ofRecords_progression (location : Coordinates) (records : List Observation)
    (hplain : ∀ o ∈ records, o.timestamp.isLeap = false) :
    ((∃ dataset, ofRecords location records = .ok dataset) ↔
      ∃ step, IsProgression step (records.map Observation.timestamp)) ∧
    (records.length ≤ 1 → ∃ dataset, ofRecords location records = .ok dataset) ∧
    (∀ dataset, ofRecords location records = .ok dataset →
      dataset.location = location ∧ dataset.records = records ∧
      (records.length ≤ 1 → dataset.interval? = none) ∧
      (2 ≤ records.length → ∀ step, IsProgression step (records.map Observation.timestamp) →
        dataset.interval? = some step) ∧
      ∀ (step : Int) (i j : Nat) (a b : Observation), dataset.interval? = some step →
        records[i]? = some a → records[j]? = some b →
        b.timestamp.since a.timestamp = ((j : Int) - i) * step) ∧
    ∀ fault, ofRecords location records = .error fault ↔
      ∃ i, (∀ k < i, ¬ IsMisstep (records.map Observation.timestamp) k) ∧
        MisstepFault (records.map Observation.timestamp) i fault := by
  refine ⟨exists_ofRecords_iff hplain, fun hsize => ?_, fun dataset hdataset => ?_, fun fault => ?_⟩
  · rw [exists_ofRecords_iff hplain]
    exact ⟨1, isProgression_of_length_le_one one_pos (by rwa [List.length_map])⟩
  · obtain ⟨hlocation, rfl⟩ := ofRecords_eq_ok_iff.1 hdataset
    refine ⟨hlocation, rfl, fun hsize => ?_, fun hsize step hprogression => ?_,
      fun step i j a b hstep ha hb => ?_⟩
    · rw [Option.eq_none_iff_forall_not_mem]
      intro step hstep
      have htwo : 2 ≤ dataset.size := exists_interval?_iff.1 ⟨step, hstep⟩
      unfold size at htwo
      omega
    · exact interval?_of_isProgression hplain hprogression hsize
    · have hprogression := isProgression hstep hplain
      exact hprogression.since_eq (by simpa using hplain) (by simp [ha]) (by simp [hb])
  · rw [ofRecords_eq_error_iff, spacingFault?_none_eq_some_iff, firstMisstep_iff]

/-- Observations at full hours, counted from the first hour of day 0, without a measurement. -/
def atHours (hours : List Int) : List Observation :=
  hours.filterMap fun hour => (Timestamp.ofInstant? (hour * 3600000000000)).map fun t =>
    ⟨t, Readings.ofFn fun _ => .nan⟩

/-- Three hours around the turn of a year are in progression; with an hour left out, the fault is at
the gap. -/
theorem ofRecords_progression_newYear :
    let place : Coordinates := ⟨.signed false 0, .signed false 0⟩
    let hours := atHours [17680679, 17680680, 17680681]
    let gapped := atHours [17680679, 17680680, 17680682]
    (∀ o ∈ hours ++ gapped, o.timestamp.isLeap = false) ∧
    (∃ step, IsProgression step (hours.map Observation.timestamp)) ∧
    ∃ fault i, ofRecords place gapped = .error fault ∧
      (∀ k < i, ¬ IsMisstep (gapped.map Observation.timestamp) k) ∧
      MisstepFault (gapped.map Observation.timestamp) i fault := by
  intro place hours gapped
  refine ⟨by decide, ?_, ?_⟩
  · exact (ofRecords_progression place hours (by decide)).1.1 ⟨⟨place, hours, by decide⟩,
      ofRecords_eq_ok_iff.2 ⟨rfl, rfl⟩⟩
  · cases h : spacingFault? none (gapped.map Observation.timestamp) with
    | none => exact absurd h (by decide)
    | some fault =>
      have herror : ofRecords place gapped = .error fault := ofRecords_eq_error_iff.2 h
      obtain ⟨i, hfirst⟩ := ((ofRecords_progression place gapped (by decide)).2.2.2 fault).1 herror
      exact ⟨fault, i, herror, hfirst⟩

end Dataset

end Fairweather
