import Mathlib.Data.List.Chain
import Mathlib.Data.List.Pairwise
import Fairweather.Forecast.Dataset
import Fairweather.Proofs.Calendar.Order

/-!
# The spacing of a dataset

A dataset is checked once, in one pass over its timestamps: each has to be later than the one
before, by as much as the second is later than the first. Later and by how much are said by the
difference of the two, and a difference knows leap seconds only by the second of the day. This
module says what the check is worth.

**Neighbours** are one interval apart, as differences see them (`Dataset.isChain_spacedBy`). An
interval is there from two observations on (`Dataset.exists_interval?_iff`). Where the check fails,
it reports the first time that is out of step with those before it
(`spacingFault?_none_eq_some_iff`).

**Any two observations.** Neighbours are in order, or the second is within the leap second that
ends the day before the first (`Dataset.isChain_lt_or_overlap`). Order carries from neighbours to
any two, and so does the order of where timestamps stand (`Timestamp.standing`); therefore the same
holds of any two observations, as long as no leap second prolongs the first second of a day
(`Dataset.pairwise_lt_or_overlap`). Whole seconds are in order in any case
(`Dataset.pairwise_lt_of_isWholeSecond`). Away from leap seconds there is more: observations are in
order and an interval does not lead past the next one (`Dataset.pairwise_shift?_le`), and where none
is in a leap second they are instants in arithmetic progression (`Dataset.instant_getElem?`).
-/

namespace Fairweather

/-! ## The check -/

/-- One timestamp is later than another by a duration, in terms of their difference. -/
def SpacedBy (step : Int) (a b : Timestamp) : Prop := 0 < b.since a ∧ b.since a = step

theorem spacingFault?_some_eq_none_iff {step : Int} {times : List Timestamp} :
    spacingFault? (some step) times = none ↔ times.IsChain (SpacedBy step) := by
  induction times with
  | nil => simp [spacingFault?]
  | cons a rest ih =>
    cases rest with
    | nil => simp [spacingFault?]
    | cons b rest =>
      rw [List.isChain_cons_cons, ← ih, SpacedBy, spacingFault?]
      split_ifs with hgap hstep
      · simp [hgap.not_gt]
      · simp [not_le.1 hgap, hstep]
      · simp [Ne.symm hstep]

theorem spacingFault?_none_eq_none_iff {times : List Timestamp} :
    spacingFault? none times = none ↔ ∃ step, times.IsChain (SpacedBy step) := by
  match times with
  | [] => simp [spacingFault?]
  | [_] => simp [spacingFault?]
  | a :: b :: rest =>
    simp only [List.isChain_cons_cons, ← spacingFault?_some_eq_none_iff, SpacedBy]
    rw [spacingFault?]
    split_ifs with hgap
    · simp [hgap.not_gt]
    · simp [not_le.1 hgap]

/-- **The first time out of step.** The times before it are evenly spaced, and the gap that leads to
it is not positive or is another than theirs. -/
inductive FirstMisstep : List Timestamp → DatasetFault → Prop
  | notAscending {before after : List Timestamp} {a b : Timestamp} {step : Int} :
      (before ++ [a]).IsChain (SpacedBy step) → b.since a ≤ 0 →
      FirstMisstep (before ++ a :: b :: after) (.notAscending b)
  | irregular {before after : List Timestamp} {a b : Timestamp} {step : Int} :
      before ≠ [] → (before ++ [a]).IsChain (SpacedBy step) → 0 < b.since a → b.since a ≠ step →
      FirstMisstep (before ++ a :: b :: after) (.irregular b step (b.since a))

section

variable {step : Int} {known : Option Int} {a b : Timestamp} {before rest : List Timestamp}
  {fault : DatasetFault}

theorem spacingFault?_cons_cons (hknown : ∀ s ∈ known, s = step) (h : SpacedBy step a b) :
    spacingFault? known (a :: b :: rest) = spacingFault? (some step) (b :: rest) := by
  obtain ⟨hpos, rfl⟩ := h
  cases known with
  | none => simp [spacingFault?, not_le.2 hpos]
  | some s => simp [spacingFault?, not_le.2 hpos, hknown s rfl]

theorem spacingFault?_append (hknown : ∀ s ∈ known, s = step) (hne : before ≠ [])
    (h : (before ++ [a]).IsChain (SpacedBy step)) :
    spacingFault? known (before ++ a :: rest) = spacingFault? (some step) (a :: rest) := by
  induction before generalizing known with
  | nil => exact absurd rfl hne
  | cons x before ih =>
    cases before with
    | nil => exact spacingFault?_cons_cons hknown (List.isChain_cons_cons.1 h).1
    | cons y before =>
      obtain ⟨hxy, hchain⟩ := List.isChain_cons_cons.1 h
      show spacingFault? known (x :: y :: (before ++ a :: rest)) = _
      rw [spacingFault?_cons_cons hknown hxy]
      exact ih (by simp) (by simp) hchain

theorem firstMisstep_append (hne : before ≠ []) (hchain : (before ++ [a]).IsChain (SpacedBy step))
    (h : spacingFault? (some step) (a :: rest) = some fault) :
    FirstMisstep (before ++ a :: rest) fault := by
  induction rest generalizing before a with
  | nil => simp [spacingFault?] at h
  | cons b rest ih =>
    rw [spacingFault?] at h
    split_ifs at h with hgap hstep
    · cases h
      exact .notAscending hchain hgap
    · -- the gap is as the others, so the times before it are one more
      have hab : SpacedBy step a b := ⟨not_le.1 hgap, hstep.symm⟩
      have hlonger : (before ++ [a] ++ [b]).IsChain (SpacedBy step) := by
        rw [List.isChain_append]
        exact ⟨hchain, by simp, by simpa using hab⟩
      simpa using ih (by simp) hlonger h
    · cases h
      exact .irregular hne hchain (not_le.1 hgap) (Ne.symm hstep)

/-- **What the check reports** is the first time out of step. -/
theorem spacingFault?_none_eq_some_iff {times : List Timestamp} :
    spacingFault? none times = some fault ↔ FirstMisstep times fault := by
  constructor
  · intro h
    match times with
    | [] | [_] => simp [spacingFault?] at h
    | a :: b :: rest =>
      by_cases hgap : b.since a ≤ 0
      · simp only [spacingFault?, if_pos hgap, Option.some.injEq] at h
        subst h
        have hchain : ([] ++ [a]).IsChain (SpacedBy 0) := by simp
        exact .notAscending hchain hgap
      · have hab : SpacedBy (b.since a) a b := ⟨not_le.1 hgap, rfl⟩
        have hchain : ([a] ++ [b]).IsChain (SpacedBy (b.since a)) := by simpa using hab
        rw [spacingFault?_cons_cons (by simp) hab] at h
        exact firstMisstep_append (by simp) hchain h
  · intro h
    cases h with
    | @notAscending before after a b step hchain hgap =>
      cases before with
      | nil => simp [spacingFault?, hgap]
      | cons x before =>
        rw [spacingFault?_append (by simp) (by simp) hchain]
        simp [spacingFault?, hgap]
    | irregular hne hchain hpos hstep =>
      rw [spacingFault?_append (by simp) hne hchain]
      simp [spacingFault?, not_le.2 hpos, Ne.symm hstep]

end

/-! ## Ascending observations -/

/-- Of two different members of a list, one comes before the other. -/
theorem eq_or_rel_or_rel {α : Type} {R : α → α → Prop} {l : List α} (h : l.Pairwise R) {a b : α}
    (ha : a ∈ l) (hb : b ∈ l) : a = b ∨ R a b ∨ R b a := by
  have : Std.Symm fun a b => R a b ∨ R b a := ⟨fun _ _ => Or.symm⟩
  have hboth : l.Pairwise fun a b => R a b ∨ R b a := h.imp Or.inl
  exact or_iff_not_imp_left.2 (hboth.forall ha hb)

section

variable {records : List Observation}

theorem timestamp_lt_iff (h : records.Pairwise fun a b => a.timestamp < b.timestamp) {i j : Nat}
    {a b : Observation} (ha : records[i]? = some a) (hb : records[j]? = some b) :
    a.timestamp < b.timestamp ↔ i < j := by
  obtain ⟨hi, rfl⟩ := List.getElem?_eq_some_iff.1 ha
  obtain ⟨hj, rfl⟩ := List.getElem?_eq_some_iff.1 hb
  rw [List.pairwise_iff_getElem] at h
  rcases Nat.lt_trichotomy i j with hlt | rfl | hgt
  · exact iff_of_true (h i j hi hj hlt) hlt
  · exact iff_of_false (lt_irrefl _) (lt_irrefl _)
  · exact iff_of_false (h j i hj hi hgt).not_gt hgt.not_gt

theorem eq_of_timestamp_eq (h : records.Pairwise fun a b => a.timestamp < b.timestamp)
    {a b : Observation} (ha : a ∈ records) (hb : b ∈ records)
    (heq : a.timestamp = b.timestamp) : a = b := by
  rcases eq_or_rel_or_rel h ha hb with hab | hlt | hgt
  · exact hab
  · exact absurd heq hlt.ne
  · exact absurd heq hgt.ne'

theorem rel_of_timestamp_lt {R : Observation → Observation → Prop}
    (h : records.Pairwise fun a b => a.timestamp < b.timestamp ∧ R a b) {a b : Observation}
    (ha : a ∈ records) (hb : b ∈ records) (hlt : a.timestamp < b.timestamp) : R a b := by
  rcases eq_or_rel_or_rel h ha hb with rfl | ⟨-, hab⟩ | ⟨hgt, -⟩
  · exact absurd hlt (lt_irrefl _)
  · exact hab
  · exact absurd hlt hgt.not_gt

end

namespace Dataset

theorem ofRecords_eq_ok_iff {location : Coordinates} {records : List Observation}
    {dataset : Dataset} : ofRecords location records = .ok dataset ↔
      dataset.location = location ∧ dataset.records = records := by
  obtain ⟨location', records', hspaced⟩ := dataset
  unfold ofRecords
  split
  · simp [eq_comm]
  · next fault hfault =>
    refine ⟨nofun, fun heq => ?_⟩
    rw [← heq.2, hspaced] at hfault
    cases hfault

theorem ofRecords_eq_error_iff {location : Coordinates} {records : List Observation}
    {fault : DatasetFault} : ofRecords location records = .error fault ↔
      spacingFault? none (records.map Observation.timestamp) = some fault := by
  unfold ofRecords
  split
  · next hspaced => simp [hspaced]
  · next fault' hfault => simp [hfault]

variable {step : Int}

/-- **Neighbouring observations are one interval apart.** -/
theorem isChain_spacedBy {dataset : Dataset} (h : dataset.interval? = some step) :
    dataset.records.IsChain fun a b => SpacedBy step a.timestamp b.timestamp := by
  obtain ⟨step', hchain⟩ := spacingFault?_none_eq_none_iff.1 dataset.spaced
  rw [List.isChain_map] at hchain
  unfold interval? at h
  split at h
  · next a b _ heq =>
    cases h
    rw [heq] at hchain ⊢
    obtain ⟨-, rfl⟩ := (List.isChain_cons_cons.1 hchain).1
    exact hchain
  · cases h

theorem interval?_pos {dataset : Dataset} (h : dataset.interval? = some step) : 0 < step := by
  have hchain := isChain_spacedBy h
  unfold interval? at h
  split at h
  · next heq =>
    rw [heq] at hchain
    obtain ⟨hpos, rfl⟩ := (List.isChain_cons_cons.1 hchain).1
    exact hpos
  · cases h

theorem exists_interval?_iff {dataset : Dataset} :
    (∃ step, dataset.interval? = some step) ↔ 2 ≤ dataset.size := by
  unfold interval? size
  split
  · next heq => simp [heq]
  · next hne =>
    refine ⟨fun hex => absurd hex nofun, fun htwo => ?_⟩
    match hrecords : dataset.records with
    | [] | [_] => simp [hrecords] at htwo
    | a :: b :: rest => exact absurd hrecords (hne a b rest)

/-! ## The order of the observations -/

section

variable {dataset : Dataset} {step : Int}

/-- **Neighbours are in order**, or overlap at midnight. -/
theorem isChain_lt_or_overlap (dataset : Dataset) : dataset.records.IsChain fun a b =>
    a.timestamp < b.timestamp ∨ Timestamp.OverlapAtMidnight a.timestamp b.timestamp := by
  obtain ⟨step, hchain⟩ := spacingFault?_none_eq_none_iff.1 dataset.spaced
  rw [List.isChain_map] at hchain
  exact hchain.imp fun a b h => Timestamp.lt_or_overlap_of_since_pos h.1

/-- **So are any two observations**, if no leap second prolongs the first second of a day. -/
theorem pairwise_lt_or_overlap
    (hopen : ∀ o ∈ dataset.records, o.timestamp.second = 0 → o.timestamp.isLeap = false) :
    dataset.records.Pairwise fun a b =>
      a.timestamp < b.timestamp ∨ Timestamp.OverlapAtMidnight a.timestamp b.timestamp := by
  obtain ⟨step, hchain⟩ := spacingFault?_none_eq_none_iff.1 dataset.spaced
  have hstanding : (dataset.records.map (·.timestamp.standing)).IsChain (· < ·) := by
    rw [List.isChain_map] at hchain ⊢
    exact hchain.imp_of_mem_imp fun a b ha hb h =>
      (Timestamp.since_pos_iff (hopen a ha) (hopen b hb)).1 h.1
  exact (List.pairwise_map.1 hstanding.pairwise).imp Timestamp.lt_or_overlap_of_standing_lt

theorem pairwise_lt_of_not_overlap
    (h : ∀ o ∈ dataset.records.tail, ∀ t, ¬ Timestamp.OverlapAtMidnight t o.timestamp) :
    dataset.records.Pairwise fun a b => a.timestamp < b.timestamp := by
  have hchain : (dataset.records.map Observation.timestamp).IsChain (· < ·) := by
    rw [List.isChain_map]
    exact dataset.isChain_lt_or_overlap.imp_of_mem_tail_imp fun a b _ hb hor =>
      hor.resolve_right (h b hb a.timestamp)
  exact List.pairwise_map.1 hchain.pairwise

/-- Timestamps ascend when no later one is within a leap second that ends a day, past its
beginning. -/
theorem pairwise_lt (h : ∀ o ∈ dataset.records.tail,
    o.timestamp.second = 86399 → o.timestamp.nanosecond ≤ 1000000000) :
    dataset.records.Pairwise fun a b => a.timestamp < b.timestamp := by
  refine pairwise_lt_of_not_overlap fun o ho t hoverlap => ?_
  have := h o ho hoverlap.2.2.1
  have := hoverlap.lt_nanosecond
  omega

/-- **Whole seconds ascend**, leap seconds among them or not. -/
theorem pairwise_lt_of_isWholeSecond (h : ∀ o ∈ dataset.records, o.timestamp.IsWholeSecond) :
    dataset.records.Pairwise fun a b => a.timestamp < b.timestamp :=
  pairwise_lt_of_not_overlap fun o ho _ => (h o (List.mem_of_mem_tail ho)).not_overlapAtMidnight

theorem le_interval?_of_isWholeSecond (hstep : dataset.interval? = some step)
    (h : ∀ o ∈ dataset.records, o.timestamp.IsWholeSecond) : 1000000000 ≤ step := by
  have hpos := interval?_pos hstep
  unfold interval? at hstep
  split at hstep
  · next a b _ heq =>
    rw [heq] at h
    cases hstep
    exact (h a (by simp)).le_since (h b (by simp)) hpos
  · cases hstep

/-- **An interval does not lead past an observation to come**, when no observation but the first is
within a leap second. -/
theorem pairwise_shift?_le (h : dataset.interval? = some step)
    (hplain : ∀ o ∈ dataset.records.tail, o.timestamp.isLeap = false) :
    dataset.records.Pairwise fun a b => a.timestamp < b.timestamp ∧
      ∀ t, a.timestamp.shift? step = some t → t ≤ b.timestamp := by
  let R (a b : Timestamp) : Prop := a < b ∧ ∀ t, a.shift? step = some t → t ≤ b
  have hchain : (dataset.records.map Observation.timestamp).IsChain R := by
    rw [List.isChain_map]
    refine (isChain_spacedBy h).imp_of_mem_tail_imp fun a b _ hb hspaced => ?_
    obtain ⟨hpos, rfl⟩ := hspaced
    exact ⟨Timestamp.lt_of_since_pos (hplain b hb) hpos,
      fun t => Timestamp.shift?_since_le (hplain b hb) hpos⟩
  have : Trans R R R :=
    ⟨fun hab hbc => ⟨hab.1.trans hbc.1, fun t ht => (hab.2 t ht).trans hbc.1.le⟩⟩
  exact List.pairwise_map.1 hchain.pairwise

/-- **Observations are instants in arithmetic progression**, when none is within a leap second. -/
theorem instant_getElem? (h : dataset.interval? = some step)
    (hplain : ∀ o ∈ dataset.records, o.timestamp.isLeap = false) {i n : Nat} {a b : Observation}
    (ha : dataset.records[i]? = some a) (hb : dataset.records[i + n]? = some b) :
    b.timestamp.instant = a.timestamp.instant + n * step := by
  induction n generalizing b with
  | zero =>
    rw [Nat.add_zero, ha, Option.some.injEq] at hb
    simp [hb]
  | succ n ih =>
    obtain ⟨hlt, hb⟩ := List.getElem?_eq_some_iff.1 hb
    have hmiddle := List.getElem?_eq_getElem (l := dataset.records) (i := i + n) (by omega)
    obtain ⟨-, hsince⟩ := (isChain_spacedBy h).getElem (i + n) hlt
    simp only [Nat.add_assoc, hb] at hsince
    rw [Timestamp.since_eq (hplain _ (List.getElem_mem _)) (hplain b (hb ▸ List.getElem_mem _)),
      ih hmiddle] at hsince
    rw [Int.natCast_succ, Int.add_mul]
    omega

end

end Dataset

end Fairweather
