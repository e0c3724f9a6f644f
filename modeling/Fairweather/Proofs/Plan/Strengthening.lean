import Fairweather.Proofs.Number.Order
import Fairweather.Proofs.Plan.Selection

/-!
# Asking for more selects less

What a plan selects is a filter (`Plan.select_eq`), so of two plans the one that asks for more
selects a part of what the other selects, in the same order. A plan asks for more when it has
further conditions, anywhere among the others (`select_sublist_of_subset`), or when the bound of one
of its conditions is moved the way that fewer numbers pass (`Condition.Tightens`). A bound is moved
along the order of numbers, in which the zeros are equal and nothing compares with what is not a
number.

**Three ways to compare.** A number is above a bound, below it or equal to it, and what is not a
number is none of these. So the three conditions on one measure with one bound part the observations
that have the measurement (`perm_filter_holds`).

Main result: `Plan.select_sublist_and_parts`.
-/

namespace Fairweather

namespace Condition

/-- **A tightened condition** compares the same measure in the same way with a bound that is no
easier to pass. -/
inductive Tightens : Condition → Condition → Prop
  | greater {m : Measure} {bound bound' : Binary64} : bound.le bound' →
      Tightens (.threshold m .greater bound) (.threshold m .greater bound')
  | less {m : Measure} {bound bound' : Binary64} : bound'.le bound →
      Tightens (.threshold m .less bound) (.threshold m .less bound')

variable {c c' : Condition} {o : Observation}

theorem Tightens.isMet (h : Tightens c c') (hmet : c'.isMet o) : c.isMet o := by
  cases h with
  | greater hle => exact Binary64.lt_of_le_of_lt hle hmet
  | less hle => exact Binary64.lt_of_lt_of_le hmet hle

theorem Tightens.mismatch?_eq (h : Tightens c c') (dataset : Dataset) (tolerance : Binary64) :
    c.mismatch? dataset tolerance = c'.mismatch? dataset tolerance := by
  cases h <;> rfl

end Condition

namespace Plan

variable {conditions stronger : List Condition} {dataset : Dataset} {tolerance : Binary64}
  {records records' : List Observation}

/-- Observations that meet more are part of those that meet less. -/
theorem sublist_of_select (h : select conditions dataset tolerance = .ok records)
    (h' : select stronger dataset tolerance = .ok records')
    (hmore : ∀ o : Observation, (∀ c ∈ stronger, c.isMet o) → ∀ c ∈ conditions, c.isMet o) :
    records'.Sublist records := by
  obtain ⟨-, rfl⟩ := select_eq_ok_iff.1 h
  obtain ⟨-, rfl⟩ := select_eq_ok_iff.1 h'
  refine List.monotone_filter_right _ fun o ho => ?_
  exact List.all_eq_true.2 (hmore o (List.all_eq_true.1 ho))

/-- **Further conditions** leave a part of what is selected. -/
theorem select_sublist_of_subset (h : select conditions dataset tolerance = .ok records)
    (hsubset : conditions ⊆ stronger) (h' : select stronger dataset tolerance = .ok records') :
    records'.Sublist records :=
  sublist_of_select h h' fun _ hmet c hc => hmet c (hsubset hc)

/-- **A tightened condition** in the place of another leaves a part of what is selected, and there
is still a result. -/
theorem exists_select_of_tightens {before after : List Condition} {c c' : Condition}
    (htightens : c.Tightens c')
    (h : select (before ++ c :: after) dataset tolerance = .ok records) :
    ∃ records', select (before ++ c' :: after) dataset tolerance = .ok records' ∧
      records'.Sublist records := by
  have hfault : locationFault? (before ++ c' :: after) dataset tolerance = none := by
    rw [← (select_eq_ok_iff.1 h).1]
    simp only [locationFault?, List.findSome?_append, List.findSome?_cons,
      htightens.mismatch?_eq dataset tolerance]
  refine ⟨_, select_eq_ok_iff.2 ⟨hfault, rfl⟩, ?_⟩
  refine sublist_of_select h (select_eq_ok_iff.2 ⟨hfault, rfl⟩) fun o hmet b hb => ?_
  rcases List.mem_append.1 hb with hbefore | hafter
  · exact hmet b (List.mem_append_left _ hbefore)
  · rcases List.mem_cons.1 hafter with rfl | hafter
    · exact htightens.isMet (hmet c' (by simp))
    · exact hmet b (by simp [hafter])

/-! ## Above, below and equal -/

variable {bound : Binary64}

theorem select_threshold (m : Measure) (c : Comparison) (bound : Binary64) (dataset : Dataset)
    (tolerance : Binary64) :
    select [.threshold m c bound] dataset tolerance =
      .ok (dataset.records.filter fun o => c.holds (o.value m) bound) := by
  rw [select_eq]
  simp [locationFault?, Condition.mismatch?, Condition.isMet]

theorem disjoint_filter_holds (hbound : bound ≠ .nan) (m : Measure) {c c' : Comparison} (h : c ≠ c')
    (records : List Observation) :
    (records.filter fun o => c.holds (o.value m) bound).Disjoint
      (records.filter fun o => c'.holds (o.value m) bound) := by
  intro o ho ho'
  have hc := (List.mem_filter.1 ho).2
  have hc' := (List.mem_filter.1 ho').2
  by_cases hnan : o.value m = .nan
  · rw [hnan, Comparison.holds_nan] at hc
    cases hc
  · obtain ⟨found, hfound⟩ := Comparison.exists_holds_eq hnan hbound
    rw [hfound, decide_eq_true_eq] at hc hc'
    exact h (hc.trans hc'.symm)

/-- **The observations that have a measurement** are those above a bound, those below it and those
equal to it. -/
theorem perm_filter_holds (hbound : bound ≠ .nan) (m : Measure) (records : List Observation) :
    ((records.filter fun o => Comparison.greater.holds (o.value m) bound) ++
      (records.filter fun o => Comparison.less.holds (o.value m) bound) ++
      records.filter fun o => Comparison.equal.holds (o.value m) bound).Perm
      (records.filter fun o => o.value m ≠ .nan) := by
  induction records with
  | nil => exact .nil
  | cons o records ih =>
    by_cases hnan : o.value m = .nan
    · simpa [hnan, Comparison.holds_nan] using ih
    · obtain ⟨found, hfound⟩ := Comparison.exists_holds_eq hnan hbound
      simp only [List.filter_cons, hfound, ne_eq, hnan, not_false_eq_true, decide_true, if_true]
        at ih ⊢
      cases found with
      | greater => exact ih.cons o
      | less =>
        rw [List.append_assoc] at ih ⊢
        exact List.perm_middle.trans (ih.cons o)
      | equal => exact List.perm_middle.trans (ih.cons o)

/-- **Asking for more selects less.** If a plan has a result, then one that has its conditions and
others, anywhere among them, selects a sublist of it or has no result; and one that has a tightened
condition in the place of another has a result and selects a sublist. For every measure and every
bound that is a number, the observations above the bound, those below it and those equal to it have
nothing in common, and together they are the observations that have the measurement. -/
theorem select_sublist_and_parts (dataset : Dataset) (tolerance : Binary64) :
    (∀ conditions records, select conditions dataset tolerance = .ok records →
      (∀ stronger records', conditions ⊆ stronger →
        select stronger dataset tolerance = .ok records' → records'.Sublist records) ∧
      ∀ before after c c', conditions = before ++ c :: after → c.Tightens c' →
        ∃ records', select (before ++ c' :: after) dataset tolerance = .ok records' ∧
          records'.Sublist records) ∧
    ∀ (m : Measure) (bound : Binary64), bound ≠ .nan → ∃ above below same,
      select [.threshold m .greater bound] dataset tolerance = .ok above ∧
      select [.threshold m .less bound] dataset tolerance = .ok below ∧
      select [.threshold m .equal bound] dataset tolerance = .ok same ∧
      above.Disjoint below ∧ above.Disjoint same ∧ below.Disjoint same ∧
      (above ++ below ++ same).Perm (dataset.records.filter fun o => o.value m ≠ .nan) := by
  refine ⟨fun conditions records h => ⟨fun stronger records' hsubset h' => ?_, ?_⟩, ?_⟩
  · exact select_sublist_of_subset h hsubset h'
  · rintro before after c c' rfl htightens
    exact exists_select_of_tightens htightens h
  · intro m bound hbound
    refine ⟨_, _, _, select_threshold m .greater bound dataset tolerance,
      select_threshold m .less bound dataset tolerance,
      select_threshold m .equal bound dataset tolerance, ?_, ?_, ?_, ?_⟩
    · exact disjoint_filter_holds hbound m (by decide) dataset.records
    · exact disjoint_filter_holds hbound m (by decide) dataset.records
    · exact disjoint_filter_holds hbound m (by decide) dataset.records
    · exact perm_filter_holds hbound m dataset.records

end Plan

end Fairweather
