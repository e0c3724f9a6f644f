import Fairweather.Plan.Planner
import Fairweather.Proofs.Number.Order
import Fairweather.Proofs.Plan.CanonicalText
import Fairweather.Proofs.Plan.Chronology
import Fairweather.Proofs.Plan.Precedence

/-!
# The tolerance of a planner

A place that a plan requires is compared with that of the dataset within a tolerance, on each axis
by the rounded distance. Two things hold of every tolerance that is a number.

**A greater tolerance keeps results.** It accepts each place that a smaller one accepts
(`Coordinates.near_mono`), and what an expression asks of observations has nothing to do with it.
Distances may be rounded, or too great for a number; only their order matters.

**The dataset's own place asks for nothing.** A finite number is at no distance from itself
(`Binary64.distance_self`), so even the tolerance zero accepts it. An expression that asks for
nothing can stand anywhere in a plan (`Plan.evaluate_insert`): it neither fails nor comes before a
fault, and it selects all. That the dataset's place can be written as an expression, and is read
back exactly, is the canonical text.

Main result: `Planner.evaluate_withTolerance_mono_and_insert`.
-/

namespace Fairweather

/-! ## Distances -/

namespace Binary64

theorem zero_le_abs {x : Binary64} (h : x ≠ .nan) : zero.le x.abs := by
  cases x with
  | nan => exact absurd rfl h
  | signed negative rank => simp [le, zero, ofRank, abs, signedRank]

theorem distance_self {x : Binary64} (h : x.isFinite) : x.distance x = zero := by
  cases x with
  | nan => cases h
  | signed negative rank =>
    have hrank : rank.val < infinityRank := by simpa [isFinite] using h
    simp only [distance, if_neg hrank.ne, Int.sub_self]
    decide

end Binary64

namespace Coordinates

variable {a b : Coordinates} {t u : Binary64}

theorem near_mono (htu : t.le u) (h : a.near b t) : a.near b u := by
  simp only [near, Bool.and_eq_true] at *
  exact ⟨Binary64.le_trans h.1 htu, Binary64.le_trans h.2 htu⟩

theorem near_self (hlatitude : a.latitude.isFinite) (hlongitude : a.longitude.isFinite)
    (ht : Binary64.zero.le t) : a.near a t := by
  simp [near, Binary64.distance_self, hlatitude, hlongitude, ht]

end Coordinates

/-! ## Plans -/

namespace Plan

variable {vocabulary : Vocabulary} {dataset : Dataset} {t u : Binary64}

/-- **A greater tolerance keeps results.** -/
theorem evaluate_mono {expressions : List String} {records : List Observation} (htu : t.le u)
    (h : evaluate vocabulary t expressions dataset = .ok records) :
    evaluate vocabulary u expressions dataset = .ok records := by
  rw [evaluate_eq_ok_iff] at *
  obtain ⟨hcompiles, hplaces, hrecords⟩ := h
  refine ⟨hcompiles, ?_, hrecords⟩
  rintro e he point ⟨hcompile, hfar⟩
  refine hplaces e he point ⟨hcompile, ?_⟩
  by_contra hnear
  rw [Coordinates.near_mono htu (by simpa using hnear)] at hfar
  cases hfar

theorem select_insert {condition : Condition} (hplace : condition.mismatch? dataset t = none)
    (hmet : ∀ o, condition.isMet o) (before after : List Condition) :
    select (before ++ condition :: after) dataset t = select (before ++ after) dataset t := by
  have hfault : locationFault? (before ++ condition :: after) dataset t =
      locationFault? (before ++ after) dataset t := by
    simp [locationFault?, List.findSome?_append, hplace]
  simp [select_eq, hfault, hmet]

/-- **An expression that asks for nothing** can be put anywhere in a plan. -/
theorem evaluate_insert {expression : String} {condition : Condition}
    (hcompile : vocabulary.compile expression = .ok condition)
    (hplace : condition.mismatch? dataset t = none) (hmet : ∀ o, condition.isMet o)
    (before after : List String) :
    evaluate vocabulary t (before ++ expression :: after) dataset =
      evaluate vocabulary t (before ++ after) dataset := by
  simp only [evaluate, List.mapM_append, List.mapM_cons, hcompile]
  cases before.mapM vocabulary.compile with
  | error fault => rfl
  | ok conditions =>
    cases after.mapM vocabulary.compile with
    | error fault => rfl
    | ok conditions' => exact select_insert hplace hmet conditions conditions'

end Plan

namespace Planner

/-- The expression that requires the dataset's own place can be put anywhere in a plan. -/
theorem evaluate_insert_location {dataset : Dataset} {t : Binary64}
    (hlatitude : dataset.location.latitude.isFinite)
    (hlongitude : dataset.location.longitude.isFinite) (ht : t ≠ .nan)
    (before after : List String) :
    (default.withTolerance t).evaluate
        (before ++ (Condition.location dataset.location).text :: after) dataset =
      (default.withTolerance t).evaluate (before ++ after) dataset := by
  have hplace : (Condition.location dataset.location).IsExpressible := ⟨hlatitude, hlongitude⟩
  have hcompile := Vocabulary.compile_text hplace
  have hnear := Coordinates.near_self hlatitude hlongitude (Binary64.zero_le_abs ht)
  exact Plan.evaluate_insert hcompile (if_pos hnear) (fun _ => rfl) before after

/-- **The place of a dataset is required within a tolerance.** What a plan selects it also selects
within a greater tolerance. And the place of the dataset itself, if its coordinates are finite, can
be required anywhere in a plan, within any tolerance, without a difference to the result or to the
fault. -/
theorem evaluate_withTolerance_mono_and_insert {dataset : Dataset}
    (hlatitude : dataset.location.latitude.isFinite)
    (hlongitude : dataset.location.longitude.isFinite) :
    (∀ t u : Binary64, t.abs.le u.abs → ∀ expressions records,
      (default.withTolerance t).evaluate expressions dataset = .ok records →
        (default.withTolerance u).evaluate expressions dataset = .ok records) ∧
    ∀ t ≠ Binary64.nan, ∀ before after,
      (default.withTolerance t).evaluate
          (before ++ (Condition.location dataset.location).text :: after) dataset =
        (default.withTolerance t).evaluate (before ++ after) dataset :=
  ⟨fun _ _ htu _ _ => Plan.evaluate_mono htu,
    fun _ ht => evaluate_insert_location hlatitude hlongitude ht⟩

/-- The observations from a leap second on, the smallest step west of Greenwich. -/
def westOfGreenwich : Dataset :=
  { fromLeapSecond with
    location := ⟨Decimal.toBinary64 ⟨false, 5147786, -5⟩, Decimal.toBinary64 ⟨true, 5, -324⟩⟩ }

theorem evaluate_withTolerance_mono_and_insert_westOfGreenwich :
    westOfGreenwich.location.latitude.isFinite ∧ westOfGreenwich.location.longitude.isFinite ∧
      (Binary64.signed true 0).abs.le defaultTolerance.abs ∧ Binary64.signed true 0 ≠ .nan ∧
      (default.withTolerance (.signed true 0)).evaluate
          (["wind > 5"] ++ [(Condition.location westOfGreenwich.location).text]) westOfGreenwich =
        .ok [windAt (yearEnd 1000000000) 9, windAt (newYear 1) 9, windAt (newYear 3) 9] ∧
      (default.withTolerance defaultTolerance).evaluate
          (["wind > 5"] ++ [(Condition.location westOfGreenwich.location).text]) westOfGreenwich =
        .ok [windAt (yearEnd 1000000000) 9, windAt (newYear 1) 9, windAt (newYear 3) 9] := by
  have hlatitude : westOfGreenwich.location.latitude.isFinite := by decide +kernel
  have hlongitude : westOfGreenwich.location.longitude.isFinite := by decide +kernel
  have hle : (Binary64.signed true 0).abs.le defaultTolerance.abs := by decide +kernel
  have hnan : Binary64.signed true 0 ≠ .nan := by decide
  have hwind : (default.withTolerance (.signed true 0)).evaluate (["wind > 5"] ++ [])
      westOfGreenwich =
        .ok [windAt (yearEnd 1000000000) 9, windAt (newYear 1) 9, windAt (newYear 3) 9] := by
    decide +kernel
  obtain ⟨hmono, hinsert⟩ := evaluate_withTolerance_mono_and_insert hlatitude hlongitude
  have hzero := (hinsert _ hnan ["wind > 5"] []).trans hwind
  exact ⟨hlatitude, hlongitude, hle, hnan, hzero, hmono _ _ hle _ _ hzero⟩

end Planner

end Fairweather
