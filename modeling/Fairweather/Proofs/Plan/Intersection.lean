import Mathlib.Data.List.Sort
import Fairweather.Proofs.Plan.Selection

/-!
# Lists of positions as sets

Positions are kept in strictly ascending lists. Such a list is a set of positions: it says of each
whether it is in or not, and two of them with the same members are the same list. Merging two of
them gives the one list of what they have in common (`intersect_eq_iff`), so that the merge inherits
the laws of the intersection of sets; the list of all positions below a bound is its neutral
element.

Main result: `intersect_common_and_laws`.
-/

namespace Fairweather

variable {as bs cs : List Nat}

/-- Of any two lists, the merge keeps members of the first, in their order. -/
theorem intersect_sublist (as bs : List Nat) : (intersect as bs).Sublist as := by
  fun_induction intersect as bs with
  | case1 => exact .slnil
  | case2 a as => exact List.nil_sublist _
  | case3 as b bs ih => exact ih.cons_cons b
  | case4 a as b bs hne hlt ih => exact ih.cons a
  | case5 a as b bs hne hlt ih => exact ih

theorem pairwise_intersect (ha : as.Pairwise (· < ·)) (bs : List Nat) :
    (intersect as bs).Pairwise (· < ·) :=
  ha.sublist (intersect_sublist as bs)

theorem mem_intersect (ha : as.Pairwise (· < ·)) (hb : bs.Pairwise (· < ·)) {i : Nat} :
    i ∈ intersect as bs ↔ i ∈ as ∧ i ∈ bs := by
  rw [intersect_eq_filter ha hb, List.mem_filter, decide_eq_true_iff]

/-- **The merge is the ascending list of what both lists hold**, the only one. -/
theorem intersect_eq_iff (ha : as.Pairwise (· < ·)) (hb : bs.Pairwise (· < ·)) :
    intersect as bs = cs ↔ cs.Pairwise (· < ·) ∧ ∀ i, i ∈ cs ↔ i ∈ as ∧ i ∈ bs := by
  constructor
  · rintro rfl
    exact ⟨pairwise_intersect ha bs, fun i => mem_intersect ha hb⟩
  · rintro ⟨hc, hmem⟩
    refine (pairwise_intersect ha bs).eq_of_mem_iff hc fun i => ?_
    rw [mem_intersect ha hb, hmem]

/-! ## The laws of intersection -/

theorem intersect_comm (ha : as.Pairwise (· < ·)) (hb : bs.Pairwise (· < ·)) :
    intersect as bs = intersect bs as := by
  refine (intersect_eq_iff ha hb).2 ⟨pairwise_intersect hb as, fun i => ?_⟩
  rw [mem_intersect hb ha, and_comm]

theorem intersect_assoc (ha : as.Pairwise (· < ·)) (hb : bs.Pairwise (· < ·))
    (hc : cs.Pairwise (· < ·)) :
    intersect (intersect as bs) cs = intersect as (intersect bs cs) := by
  have hab : (intersect as bs).Pairwise (· < ·) := pairwise_intersect ha bs
  have hbc : (intersect bs cs).Pairwise (· < ·) := pairwise_intersect hb cs
  refine (intersect_eq_iff hab hc).2 ⟨pairwise_intersect ha _, fun i => ?_⟩
  rw [mem_intersect ha hbc, mem_intersect hb hc, mem_intersect ha hb, and_assoc]

theorem intersect_self (ha : as.Pairwise (· < ·)) : intersect as as = as :=
  (intersect_eq_iff ha ha).2 ⟨ha, fun _ => (and_self_iff).symm⟩

/-- **All positions below a bound** leave a list of such positions as it is, just if it is strictly
ascending. -/
theorem intersect_range_eq_iff {n : Nat} (h : ∀ i ∈ as, i < n) :
    intersect (List.range n) as = as ↔ as.Pairwise (· < ·) := by
  have hrange : (List.range n).Pairwise (· < ·) := List.pairwise_lt_range
  constructor
  · intro heq
    rw [← heq]
    exact pairwise_intersect hrange as
  · intro ha
    refine (intersect_eq_iff hrange ha).2 ⟨ha, fun i => ?_⟩
    rw [List.mem_range]
    exact ⟨fun hi => ⟨h i hi, hi⟩, fun hi => hi.2⟩

/-- **Merging intersects.** Of two strictly ascending lists the merge is strictly ascending, and it
holds just what both hold. So it does not matter in which order lists are merged, how they are
grouped, or that a list is merged with itself; and all positions below a bound leave every strictly
ascending list of such positions as it is. -/
theorem intersect_common_and_laws (ha : as.Pairwise (· < ·)) (hb : bs.Pairwise (· < ·)) :
    (intersect as bs).Pairwise (· < ·) ∧ (∀ i, i ∈ intersect as bs ↔ i ∈ as ∧ i ∈ bs) ∧
    intersect as bs = intersect bs as ∧
    (∀ cs : List Nat, cs.Pairwise (· < ·) →
      intersect (intersect as bs) cs = intersect as (intersect bs cs)) ∧
    intersect as as = as ∧
    ∀ n, (∀ i ∈ as, i < n) → intersect (List.range n) as = as :=
  ⟨pairwise_intersect ha bs, fun _ => mem_intersect ha hb, intersect_comm ha hb,
    fun _ => intersect_assoc ha hb, intersect_self ha, fun _ h => (intersect_range_eq_iff h).2 ha⟩

/-- Two lists that take turns, merged with a third and with all positions below nine. -/
theorem intersect_common_and_laws_interleaved :
    let as := [0, 1, 3, 5, 8]
    let bs := [1, 2, 5, 9]
    let cs := [1, 4, 5, 8]
    (as.Pairwise (· < ·) ∧ bs.Pairwise (· < ·) ∧ cs.Pairwise (· < ·) ∧ ∀ i ∈ as, i < 9) ∧
    (intersect as bs).Pairwise (· < ·) ∧ (∀ i, i ∈ intersect as bs ↔ i ∈ as ∧ i ∈ bs) ∧
    intersect as bs = intersect bs as ∧
    intersect (intersect as bs) cs = intersect as (intersect bs cs) ∧
    intersect as as = as ∧ intersect (List.range 9) as = as ∧
    intersect as bs = [1, 5] := by
  intro as bs cs
  have ha : as.Pairwise (· < ·) := by decide
  have hb : bs.Pairwise (· < ·) := by decide
  have hc : cs.Pairwise (· < ·) := by decide
  have hbound : ∀ i ∈ as, i < 9 := by decide
  obtain ⟨hascending, hcommon, hcomm, hassoc, hself, hrange⟩ := intersect_common_and_laws ha hb
  exact ⟨⟨ha, hb, hc, hbound⟩, hascending, hcommon, hcomm, hassoc cs hc, hself, hrange 9 hbound,
    by decide +kernel⟩

end Fairweather
