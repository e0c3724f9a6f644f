import Mathlib.Data.List.Forall2
import Fairweather.Plan.Evaluation

/-!
# Selecting observations is filtering

A plan is evaluated in a roundabout way: its conditions are parted into those on the dataset and
those on observations, each of the latter gives a list of positions, the lists are merged one
after the other, and the positions that remain are looked up. This module shows that one pass of a
filter over the observations gives the same.

**The invariant.** Every list of positions that arises on the way is `List.range` of the number of
observations, filtered by some predicate. Such lists are strictly ascending, and of two strictly
ascending lists the merge keeps exactly the members of the first that are in the second
(`intersect_eq_filter`). So a merge of two of them is `List.range` filtered by both predicates,
and the fold over the conditions is `List.range` filtered by all (`selection_eq`).

Main results: `select_eq`, which is the filter as an equation, and `select_ok_iff_and_error_iff`,
which says what it means for the two outcomes.
-/

namespace Fairweather

/-! ## Merging ascending lists -/

/-- **The merge of two strictly ascending lists** keeps what the first has in common with the
second. -/
theorem intersect_eq_filter {as bs : List Nat} (ha : as.Pairwise (· < ·))
    (hb : bs.Pairwise (· < ·)) : intersect as bs = as.filter (· ∈ bs) := by
  fun_induction intersect as bs with
  | case1 => rfl
  | case2 a as => simp
  | case3 as b bs ih =>
    rw [List.pairwise_cons] at ha hb
    have hne : ∀ x ∈ as, decide (x ∈ b :: bs) = decide (x ∈ bs) := by
      intro x hx
      have : x ≠ b := Nat.ne_of_gt (ha.1 x hx)
      simp [this]
    rw [ih ha.2 hb.2, List.filter_cons_of_pos (by simp), List.filter_congr hne]
  | case4 a as b bs hne hlt ih =>
    rw [List.pairwise_cons] at ha
    have hnot : a ∉ b :: bs := by
      intro h
      rcases List.mem_cons.1 h with h | h
      · exact hne h
      · exact absurd ((List.pairwise_cons.1 hb).1 a h) (by omega)
    rw [ih ha.2 hb, List.filter_cons_of_neg (by simpa using hnot)]
  | case5 a as b bs hne hlt ih =>
    rw [List.pairwise_cons] at hb
    rw [ih ha hb.2]
    refine List.filter_congr fun x hx => ?_
    -- `b` is below all of the first list
    have : x ≠ b := by
      rcases List.mem_cons.1 hx with rfl | hx
      · exact hne
      · have := (List.pairwise_cons.1 ha).1 x hx
        omega
    simp [this]

theorem pairwise_filter_range (n : Nat) (p : Nat → Bool) :
    ((List.range n).filter p).Pairwise (· < ·) :=
  List.pairwise_lt_range.filter p

/-- Lists that come from filtering the same range merge into the range filtered by both. -/
theorem intersect_filter_range (n : Nat) (p q : Nat → Bool) :
    intersect ((List.range n).filter p) ((List.range n).filter q) =
      (List.range n).filter fun i => p i && q i := by
  rw [intersect_eq_filter (pairwise_filter_range n p) (pairwise_filter_range n q),
    List.filter_filter]
  refine List.filter_congr fun i hi => ?_
  simp [List.mem_range.1 hi, Bool.and_comm]

/-! ## Positions -/

/-- The observation at a position passes a test. -/
def passesAt (test : Observation → Bool) (records : List Observation) (i : Nat) : Bool :=
  records[i]?.any test

theorem filter_passesAt (test : Observation → Bool) (records : List Observation) :
    (List.range records.length).filter (passesAt test records) =
      (records.zipIdx.filter fun (o, _) => test o).map (·.2) := by
  rw [List.range_eq_range', ← List.zipIdx_map_snd 0 records, List.filter_map]
  congr 1
  refine List.filter_congr fun (o, i) h => ?_
  rw [List.mem_zipIdx_iff_getElem?] at h
  simp [passesAt, h]

theorem filterMap_filter_passesAt (test : Observation → Bool) (records : List Observation) :
    ((List.range records.length).filter (passesAt test records)).filterMap (records[·]?) =
      records.filter test := by
  have look : ∀ p ∈ records.zipIdx.filter fun (o, _) => test o, records[p.2]? = some p.1 := by
    intro p hp
    exact List.mem_zipIdx_iff_getElem?.1 (List.mem_filter.1 hp).1
  rw [filter_passesAt, List.filterMap_map]
  calc
    _ = (records.zipIdx.filter fun (o, _) => test o).filterMap (some ∘ Prod.fst) :=
      List.filterMap_congr look
    _ = (records.zipIdx.map Prod.fst).filter test := by
      rw [List.filterMap_eq_map, List.filter_map]
      rfl
    _ = records.filter test := by rw [List.zipIdx_map_fst]

theorem forall₂_filter_passesAt {test : Observation → Bool} {records : List Observation}
    {R : Nat → Observation → Prop} (h : ∀ (i : Nat) o, records[i]? = some o → R i o) :
    List.Forall₂ R ((List.range records.length).filter (passesAt test records))
      (records.filter test) := by
  have hrecords : records.filter test = (records.zipIdx.filter fun (o, _) => test o).map (·.1) := by
    rw [← List.zipIdx_map_fst 0 records, List.filter_map, List.zipIdx_map_fst]
    rfl
  rw [filter_passesAt, hrecords, List.forall₂_map_left_iff, List.forall₂_map_right_iff,
    List.forall₂_same]
  intro p hp
  exact h _ _ (List.mem_zipIdx_iff_getElem?.1 (List.mem_filter.1 hp).1)

namespace Condition

theorem positions_eq (condition : Condition) (records : List Observation) :
    condition.positions records =
      (List.range records.length).filter (passesAt condition.isMet records) :=
  (filter_passesAt _ _).symm

theorem isMet_of_concernsDataset {condition : Condition} (h : condition.concernsDataset)
    (o : Observation) : condition.isMet o := by
  cases condition with
  | location _ => rfl
  | threshold _ _ _ => exact absurd h (by simp [concernsDataset])

theorem mismatch?_of_not_concernsDataset {condition : Condition}
    (h : condition.concernsDataset = false) (dataset : Dataset) (tolerance : Binary64) :
    condition.mismatch? dataset tolerance = none := by
  cases condition with
  | location _ => exact absurd h (by simp [concernsDataset])
  | threshold _ _ _ => rfl

end Condition

namespace Plan

/-! ## The fold over the conditions -/

theorem foldl_intersect (conditions : List Condition) (records : List Observation)
    (p : Nat → Bool) :
    conditions.foldl (fun selected condition => intersect selected (condition.positions records))
        ((List.range records.length).filter p) =
      (List.range records.length).filter fun i =>
        p i && conditions.all fun c => passesAt c.isMet records i := by
  induction conditions generalizing p with
  | nil => simp
  | cons c cs ih =>
    rw [List.foldl_cons, c.positions_eq, intersect_filter_range, ih]
    simp [Bool.and_assoc]

/-- The positions that all conditions select, in one pass. -/
theorem selection_eq (conditions : List Condition) (records : List Observation) :
    selection conditions records =
      (List.range records.length).filter
        (passesAt (fun o => conditions.all (·.isMet o)) records) := by
  have h := foldl_intersect conditions records fun _ => true
  rw [List.filter_true] at h
  rw [selection, h]
  refine List.filter_congr fun i hi => ?_
  have hi : i < records.length := List.mem_range.1 hi
  simp [passesAt, hi]

theorem all_isMet_partition (conditions : List Condition) (o : Observation) :
    (conditions.filter (!·.concernsDataset)).all (·.isMet o) = conditions.all (·.isMet o) := by
  induction conditions with
  | nil => rfl
  | cons c cs ih =>
    cases h : c.concernsDataset with
    | false => simp [h, ih]
    | true => simp [h, ih, Condition.isMet_of_concernsDataset h o]

theorem locationFault?_partition (conditions : List Condition) (dataset : Dataset)
    (tolerance : Binary64) :
    locationFault? (conditions.filter Condition.concernsDataset) dataset tolerance =
      locationFault? conditions dataset tolerance := by
  induction conditions with
  | nil => rfl
  | cons c cs ih =>
    unfold locationFault? at ih ⊢
    cases h : c.concernsDataset with
    | false => simp [h, ih, Condition.mismatch?_of_not_concernsDataset h]
    | true => rw [List.filter_cons_of_pos h, List.findSome?_cons, List.findSome?_cons, ih]

/-- **Evaluation as a filter.** The conditions on the dataset decide whether there is a result,
and the conditions on observations filter the records in one pass. -/
theorem select_eq (conditions : List Condition) (dataset : Dataset) (tolerance : Binary64) :
    select conditions dataset tolerance =
      match locationFault? conditions dataset tolerance with
      | some fault => .error fault
      | none => .ok (dataset.records.filter fun o => conditions.all (·.isMet o)) := by
  unfold select
  rw [List.partition_eq_filter_filter]
  simp only [selection_eq, filterMap_filter_passesAt, locationFault?_partition]
  have : (fun o => (conditions.filter (not ∘ Condition.concernsDataset)).all (·.isMet o)) =
      fun o => conditions.all (·.isMet o) := by
    funext o
    exact all_isMet_partition conditions o
  cases locationFault? conditions dataset tolerance with
  | some fault => rfl
  | none => exact congrArg (fun test => Except.ok (dataset.records.filter test)) this

/-! ## The two outcomes -/

theorem select_eq_error_iff {conditions : List Condition} {dataset : Dataset}
    {tolerance : Binary64} {fault : PlanFault} :
    select conditions dataset tolerance = .error fault ↔
      locationFault? conditions dataset tolerance = some fault := by
  rw [select_eq]
  cases locationFault? conditions dataset tolerance <;> simp

theorem select_eq_ok_iff {conditions : List Condition} {dataset : Dataset}
    {tolerance : Binary64} {records : List Observation} :
    select conditions dataset tolerance = .ok records ↔
      locationFault? conditions dataset tolerance = none ∧
        records = dataset.records.filter fun o => conditions.all (·.isMet o) := by
  rw [select_eq]
  cases locationFault? conditions dataset tolerance <;> simp [eq_comm]

theorem mismatch?_eq_some_iff {condition : Condition} {dataset : Dataset} {tolerance : Binary64}
    {point : Coordinates} :
    condition.mismatch? dataset tolerance = some point ↔
      condition = .location point ∧ point.near dataset.location tolerance = false := by
  cases condition with
  | location q =>
    simp only [Condition.mismatch?, Condition.location.injEq]
    split_ifs with h
    · simp only [false_iff]
      intro hex
      obtain ⟨rfl, h'⟩ := hex
      rw [h] at h'
      cases h'
    · simp only [Option.some.injEq]
      constructor
      · intro heq
        subst heq
        exact ⟨rfl, by simpa using h⟩
      · exact fun h' => h'.1
  | threshold _ _ _ => simp [Condition.mismatch?]

theorem locationFault?_eq_none_iff {conditions : List Condition} {dataset : Dataset}
    {tolerance : Binary64} :
    locationFault? conditions dataset tolerance = none ↔
      ∀ point, .location point ∈ conditions → point.near dataset.location tolerance := by
  simp only [locationFault?, List.findSome?_eq_none_iff, Option.map_eq_none_iff]
  constructor
  · intro h point hp
    by_contra hfar
    have := h _ hp
    rw [mismatch?_eq_some_iff.2 ⟨rfl, by simpa using hfar⟩] at this
    cases this
  · intro h c hc
    by_contra hsome
    obtain ⟨point, hpoint⟩ := Option.ne_none_iff_exists'.1 hsome
    obtain ⟨rfl, hfar⟩ := mismatch?_eq_some_iff.1 hpoint
    rw [h point hc] at hfar
    cases hfar

theorem locationFault?_eq_some_iff {conditions : List Condition} {dataset : Dataset}
    {tolerance : Binary64} {fault : PlanFault} :
    locationFault? conditions dataset tolerance = some fault ↔
      ∃ before point after, conditions = before ++ .location point :: after ∧
        (∀ q, .location q ∈ before → q.near dataset.location tolerance) ∧
        point.near dataset.location tolerance = false ∧
        fault = .elsewhere point dataset.location := by
  unfold locationFault?
  rw [List.findSome?_eq_some_iff]
  constructor
  · intro hex
    obtain ⟨before, c, after, rfl, hc, hbefore⟩ := hex
    obtain ⟨point, hpoint, rfl⟩ := Option.map_eq_some_iff.1 hc
    obtain ⟨rfl, hfar⟩ := mismatch?_eq_some_iff.1 hpoint
    refine ⟨before, point, after, rfl, locationFault?_eq_none_iff.1 ?_, hfar, rfl⟩
    exact List.findSome?_eq_none_iff.2 hbefore
  · intro hex
    obtain ⟨before, point, after, rfl, hbefore, hfar, rfl⟩ := hex
    refine ⟨before, _, after, rfl, ?_, ?_⟩
    · rw [mismatch?_eq_some_iff.2 ⟨rfl, hfar⟩]
      rfl
    · exact List.findSome?_eq_none_iff.1 (locationFault?_eq_none_iff.2 hbefore)

/-- **Evaluation refines the plain filter.** It fails exactly when the dataset is not near the
place of some condition, and then with the first such place in the order of the conditions;
otherwise it gives the records that meet every condition, in the order of the dataset and as often
as they are in it. -/
theorem select_ok_iff_and_error_iff (conditions : List Condition) (dataset : Dataset)
    (tolerance : Binary64) :
    (∀ fault, select conditions dataset tolerance = .error fault ↔
      ∃ before point after, conditions = before ++ .location point :: after ∧
        (∀ q, .location q ∈ before → q.near dataset.location tolerance) ∧
        point.near dataset.location tolerance = false ∧
        fault = .elsewhere point dataset.location) ∧
    (∀ records, select conditions dataset tolerance = .ok records ↔
      (∀ q, .location q ∈ conditions → q.near dataset.location tolerance) ∧
      records = dataset.records.filter fun o => conditions.all fun
        | .location _ => true
        | .threshold measure comparison bound => comparison.holds (o.value measure) bound) := by
  have tests : ∀ o, (conditions.all fun
      | .location _ => true
      | .threshold measure comparison bound => comparison.holds (o.value measure) bound) =
        conditions.all (·.isMet o) := by
    intro o
    congr 1
    funext c
    cases c <;> rfl
  simp only [tests]
  rw [select_eq]
  constructor
  · intro fault
    rw [← locationFault?_eq_some_iff]
    cases locationFault? conditions dataset tolerance <;> simp
  · intro records
    rw [← locationFault?_eq_none_iff]
    cases locationFault? conditions dataset tolerance <;> simp [eq_comm]

end Plan

end Fairweather
